import IndexFeed.Json.Printer
import IndexFeed.Proofs.Number.Alphabet
import IndexFeed.Proofs.Number.Spelling

/-! Indented JSON read again: the reader finds the value as it was written, and the value itself where its
numbers are whole and fit 64 bits. -/
namespace IndexFeed.Json
open Text (Stops stops_cons)

/-- How a character is written between quotes: a control character without a letter by its code. -/
def Piece.ofChar (c : Char) : Piece :=
  if c.toNat < 0x20 ∧ c ∉ ['\x08', '\x0c', '\n', '\r', '\t'] then .unit c.toNat else .char c

mutual
/-- A value as its text writes it. -/
def written : Json → Written
  | .null => .null
  | .bool b => .bool b
  | .number n => .number n.spelling.numeral
  | .string s => .string (s.toList.map Piece.ofChar)
  | .array items => .array (writtenItems items)
  | .object members => .object (writtenMembers members)

def writtenItems : List Json → List Written
  | [] => []
  | x :: rest => written x :: writtenItems rest

def writtenMembers : List (String × Json) → List (List Piece × Written)
  | [] => []
  | (key, x) :: rest => (key.toList.map Piece.ofChar, written x) :: writtenMembers rest
end

private theorem number?_control :
    ∀ n < 0x20, Text.number? 16 ['0', '0', Nat.digitChar (n / 16), Nat.digitChar (n % 16)] = some n := by
  decide

private theorem readPieces_escape (c : Char) (rest : List Char) :
    readPieces (escape c ++ rest) =
      (readPieces rest).map fun (pieces, rest) => (Piece.ofChar c :: pieces, rest) := by
  by_cases hnamed : c ∈ ['"', '\\', '\x08', '\x0c', '\n', '\r', '\t']
  · simp only [List.mem_cons, List.not_mem_nil, or_false] at hnamed
    rcases hnamed with rfl | rfl | rfl | rfl | rfl | rfl | rfl <;>
      simp [escape, readPieces, simpleEscape?, Piece.ofChar]
  · simp only [List.mem_cons, List.not_mem_nil, or_false, not_or] at hnamed
    obtain ⟨hq, hb, h8, hf, hn, hr, ht⟩ := hnamed
    by_cases hcontrol : c.toNat < 0x20
    · simp [escape, readPieces, Piece.ofChar, hq, hb, h8, hf, hn, hr, ht, hcontrol,
        number?_control _ hcontrol]
    · simp [escape, readPieces, Piece.ofChar, hq, hb, h8, hf, hn, hr, ht, hcontrol]

private theorem readPieces_body (text rest : List Char) :
    readPieces (text.flatMap escape ++ '"' :: rest) = .ok (text.map Piece.ofChar, rest) := by
  induction text with
  | nil => simp [readPieces]
  | cons c text ih =>
    rw [List.flatMap_cons, List.append_assoc, readPieces_escape, ih]
    rfl

private theorem decode_ofChar (text : List Char) : decode? (text.map Piece.ofChar) = some text := by
  induction text with
  | nil => rfl
  | cons c text ih =>
    by_cases hcontrol : c.toNat < 0x20 ∧ c ∉ ['\x08', '\x0c', '\n', '\r', '\t']
    · have hlow : c.toNat < 0xD800 ∨ 0xDFFF < c.toNat := by omega
      rw [List.map_cons, Piece.ofChar, if_pos hcontrol, decode?.eq_def]
      dsimp only
      rw [if_pos hlow, ih, Char.ofNat_toNat]
      rfl
    · rw [List.map_cons, Piece.ofChar, if_neg hcontrol, decode?, ih]
      rfl

private theorem stringOf?_ofChar (s : String) : stringOf? (s.toList.map Piece.ofChar) = some s := by
  rw [stringOf?, decode_ofChar]
  simp

private theorem skipBlanks_newline (depth : Nat) (text : List Char) :
    skipBlanks (newline depth ++ text) = skipBlanks text := by
  have hblank : ∀ c ∈ newline depth, isBlank c = true := by
    intro c hc
    rcases List.mem_cons.mp hc with rfl | hc
    · rfl
    · rw [List.eq_of_mem_replicate hc]
      rfl
  exact List.dropWhile_append_of_pos hblank

private theorem skipBlanks_cons {c : Char} (h : isBlank c = false) (text : List Char) :
    skipBlanks (c :: text) = c :: text := by
  simp [skipBlanks, h]

private def Opens (text : List Char) : Prop := ∃ c rest, text = c :: rest ∧ isBlank c = false ∧ c ≠ ']'

private theorem opens_number (n : Number) : Opens n.chars := by
  have hne := n.chars_ne_nil
  obtain ⟨c, rest, hc⟩ := List.exists_cons_of_ne_nil hne
  have hin := n.inText_chars c (by simp [hc])
  refine ⟨c, rest, hc, ?_, ?_⟩
  · simp only [isBlank, Bool.or_eq_false_iff, beq_eq_false_iff_ne, ne_eq]
    refine ⟨⟨⟨?_, ?_⟩, ?_⟩, ?_⟩ <;> rintro rfl <;> exact absurd hin (by decide)
  · rintro rfl
    exact absurd hin (by decide)

private theorem opens_prettyChars (depth : Nat) (x : Json) : Opens (prettyChars depth x) := by
  cases x with
  | null => exact ⟨'n', _, rfl, rfl, by decide⟩
  | bool b => cases b <;> exact ⟨_, _, rfl, rfl, by decide⟩
  | number n => exact opens_number n
  | string s => exact ⟨'"', _, rfl, rfl, by decide⟩
  | array items => cases items <;> exact ⟨'[', _, rfl, rfl, by decide⟩
  | object members => cases members <;> exact ⟨'\x7b', _, rfl, rfl, by decide⟩

private theorem readValue_newline (fuel depth : Nat) (text : List Char) :
    readValue fuel (newline depth ++ text) = readValue fuel text := by
  cases fuel with
  | zero => rfl
  | succ fuel => rw [readValue, readValue, skipBlanks_newline]

private theorem stops_newline (depth : Nat) (text : List Char) :
    Stops Spelling.goesOn (newline depth ++ text) := stops_cons.mpr (by decide)

private theorem stops_comma (text : List Char) : Stops Spelling.goesOn (',' :: text) :=
  stops_cons.mpr (by decide)

private theorem number_opens (n : Number) :
    ∃ c more, n.chars = c :: more ∧ (c = '-' ∨ c.isDigit = true) := by
  rw [← n.chars_spelling, Spelling.chars]
  cases n.spelling.negative with
  | true => exact ⟨'-', _, rfl, .inl rfl⟩
  | false =>
    obtain ⟨hne, hall⟩ := n.isGrammatical_spelling.whole
    obtain ⟨c, more, hc⟩ := List.exists_cons_of_ne_nil hne
    rw [hc]
    exact ⟨c, _, rfl, .inr (hall c (by simp [hc]))⟩

private theorem readValue_number (fuel : Nat) (n : Number) {rest : List Char}
    (hr : Stops Spelling.goesOn rest) :
    readValue (fuel + 1) (n.chars ++ rest) = .ok (.number n.spelling.numeral, rest) := by
  have hread := Spelling.readNumeral_chars n.isGrammatical_spelling hr
  rw [n.chars_spelling] at hread
  obtain ⟨c, more, hchars, hc⟩ := number_opens n
  have hblank : isBlank c = false := by
    obtain ⟨d, _, hcons, hd, -⟩ := opens_number n
    obtain ⟨rfl, -⟩ := List.cons.inj (hcons.symm.trans hchars)
    exact hd
  rw [hchars, List.cons_append] at hread ⊢
  have hother (d : Char) (hd : d.isDigit = false) (hm : d ≠ '-') : c ≠ d := by
    rintro rfl
    exact hc.elim hm fun hdigit => Bool.false_ne_true (hd.symm.trans hdigit)
  simp [readValue, skipBlanks_cons hblank, hother, hc, hread, Except.map]

private theorem readValue_string (fuel : Nat) (s : String) (rest : List Char) :
    readValue (fuel + 1) (quote s ++ rest) = .ok (.string (s.toList.map Piece.ofChar), rest) := by
  have hbody := readPieces_body s.toList rest
  simp [readValue, quote, skipBlanks_cons, isBlank, hbody, Except.map]

private theorem readValue_array {fuel : Nat} (depth : Nat) {body rest : List Char} {items : List Written}
    (ho : Opens body) (h : readItems fuel body = .ok (items, rest)) :
    readValue (fuel + 1) ('[' :: (newline depth ++ body)) = .ok (.array items, rest) := by
  obtain ⟨c, more, rfl, hblank, hc⟩ := ho
  rw [readValue, skipBlanks_cons (by rfl)]
  simp [skipBlanks_newline, skipBlanks_cons hblank, hc, h, Except.map]

private theorem readItems_newline (fuel depth : Nat) (text : List Char) :
    readItems fuel (newline depth ++ text) = readItems fuel text := by
  cases fuel with
  | zero => rfl
  | succ fuel => rw [readItems, readItems, readValue_newline]

private theorem readMembers_newline (fuel depth : Nat) (text : List Char) :
    readMembers fuel (newline depth ++ text) = readMembers fuel text := by
  cases fuel with
  | zero => rfl
  | succ fuel => rw [readMembers, readMembers, skipBlanks_newline]

private theorem readValue_object {fuel : Nat} (depth : Nat) {text rest : List Char}
    {members : List (List Piece × Written)} (h : readMembers fuel ('"' :: text) = .ok (members, rest)) :
    readValue (fuel + 1) ('\x7b' :: (newline depth ++ '"' :: text)) = .ok (.object members, rest) := by
  rw [readValue, skipBlanks_cons (by rfl)]
  simp [skipBlanks_newline, skipBlanks_cons, isBlank, h, Except.map]

private theorem readItems_last {fuel depth : Nat} {text rest : List Char} {item : Written}
    (h : readValue fuel text = .ok (item, newline depth ++ ']' :: rest)) :
    readItems (fuel + 1) text = .ok ([item], rest) := by
  rw [readItems, h]
  simp [skipBlanks_newline, skipBlanks_cons, isBlank]

private theorem readItems_more {fuel depth : Nat} {text more rest : List Char} {item : Written}
    {items : List Written} (h : readValue fuel text = .ok (item, ',' :: (newline depth ++ more)))
    (hi : readItems fuel more = .ok (items, rest)) :
    readItems (fuel + 1) text = .ok (item :: items, rest) := by
  rw [readItems, h]
  simp [skipBlanks_cons, isBlank, readItems_newline, hi, Except.map]

private theorem readValue_blank (fuel : Nat) (text : List Char) :
    readValue fuel (' ' :: text) = readValue fuel text := by
  cases fuel with
  | zero => rfl
  | succ fuel => rfl

private theorem readMembers_last {fuel depth : Nat} {key : String} {text rest : List Char}
    {value : Written} (h : readValue fuel text = .ok (value, newline depth ++ '\x7d' :: rest)) :
    readMembers (fuel + 1) (quote key ++ ':' :: ' ' :: text) =
      .ok ([(key.toList.map Piece.ofChar, value)], rest) := by
  have hbody := readPieces_body key.toList (':' :: ' ' :: text)
  rw [quote, readMembers]
  simp [skipBlanks_newline, skipBlanks_cons, isBlank, hbody, readValue_blank, h]

private theorem readMembers_more {fuel depth : Nat} {key : String} {text more rest : List Char}
    {value : Written} {members : List (List Piece × Written)}
    (h : readValue fuel text = .ok (value, ',' :: (newline depth ++ more)))
    (hm : readMembers fuel more = .ok (members, rest)) :
    readMembers (fuel + 1) (quote key ++ ':' :: ' ' :: text) =
      .ok ((key.toList.map Piece.ofChar, value) :: members, rest) := by
  have hbody := readPieces_body key.toList (':' :: ' ' :: text)
  rw [quote, readMembers]
  simp [skipBlanks_cons, isBlank, hbody, readValue_blank, h, readMembers_newline, hm, Except.map]

private theorem opens_prettyItems (depth : Nat) (x : Json) (items : List Json) (rest : List Char) :
    Opens (prettyItems depth (x :: items) ++ rest) := by
  obtain ⟨c, more, hc, hblank⟩ := opens_prettyChars (depth + 1) x
  cases items <;> simp [prettyItems, hc, Opens, hblank]

private theorem quote_prettyMembers (depth : Nat) (m : String × Json) (members : List (String × Json))
    (rest : List Char) : ∃ text, prettyMembers depth (m :: members) ++ rest = '"' :: text := by
  cases members <;> simp [prettyMembers, quote]

-- The readers share one fuel: two steps for each character are enough, as each step down is paid for by
-- a bracket, a comma or an item, and none of these has an empty text.
private def ReadsValues (fuel : Nat) : Prop :=
  ∀ (depth : Nat) (x : Json) (rest : List Char), 2 * (prettyChars depth x).length ≤ fuel →
    Stops Spelling.goesOn rest → readValue fuel (prettyChars depth x ++ rest) = .ok (x.written, rest)

private def ReadsItems (fuel : Nat) : Prop :=
  ∀ (depth : Nat) (x : Json) (items : List Json) (rest : List Char),
    2 * (prettyItems depth (x :: items)).length + 1 ≤ fuel →
    readItems fuel (prettyItems depth (x :: items) ++ (newline depth ++ ']' :: rest)) =
      .ok (writtenItems (x :: items), rest)

private def ReadsMembers (fuel : Nat) : Prop :=
  ∀ (depth : Nat) (m : String × Json) (members : List (String × Json)) (rest : List Char),
    2 * (prettyMembers depth (m :: members)).length + 1 ≤ fuel →
    readMembers fuel (prettyMembers depth (m :: members) ++ (newline depth ++ '\x7d' :: rest)) =
      .ok (writtenMembers (m :: members), rest)

private theorem readsValues_succ {fuel : Nat} (hi : ReadsItems fuel) (hm : ReadsMembers fuel) :
    ReadsValues (fuel + 1) := by
  intro depth x rest hf hr
  cases x with
  | null => rfl
  | bool b => cases b <;> rfl
  | number n => exact readValue_number fuel n hr
  | string s => exact readValue_string fuel s rest
  | array items =>
    cases items with
    | nil => rfl
    | cons x items =>
      simp only [prettyChars, newline, List.length_append, List.length_cons, List.length_nil] at hf
      have hitems := hi depth x items rest (by omega)
      have hread := readValue_array (depth + 1) (opens_prettyItems depth x items _) hitems
      simpa [prettyChars, written] using hread
  | object members =>
    cases members with
    | nil => rfl
    | cons m members =>
      simp only [prettyChars, newline, List.length_append, List.length_cons, List.length_nil] at hf
      have hmembers := hm depth m members rest (by omega)
      obtain ⟨text, htext⟩ := quote_prettyMembers depth m members (newline depth ++ '\x7d' :: rest)
      rw [htext] at hmembers
      have hread := readValue_object (depth + 1) hmembers
      rw [← htext] at hread
      simpa [prettyChars, written] using hread

private theorem readsItems_succ {fuel : Nat} (hv : ReadsValues fuel) (hi : ReadsItems fuel) :
    ReadsItems (fuel + 1) := by
  intro depth x items rest hf
  cases items with
  | nil =>
    rw [prettyItems] at hf
    exact readItems_last (hv (depth + 1) x _ (by omega) (stops_newline depth _))
  | cons y items =>
    simp only [prettyItems, newline, List.length_append, List.length_cons] at hf
    have hx := hv (depth + 1) x _ (by omega) (stops_comma
      (newline (depth + 1) ++ (prettyItems depth (y :: items) ++ (newline depth ++ ']' :: rest))))
    simpa [prettyItems, writtenItems] using readItems_more hx (hi depth y items rest (by omega))

private theorem readsMembers_succ {fuel : Nat} (hv : ReadsValues fuel) (hm : ReadsMembers fuel) :
    ReadsMembers (fuel + 1) := by
  rintro depth ⟨key, x⟩ members rest hf
  cases members with
  | nil =>
    simp only [prettyMembers, List.length_append, List.length_cons] at hf
    have hx := hv (depth + 1) x (newline depth ++ '\x7d' :: rest) (by omega) (stops_newline depth _)
    simpa [prettyMembers, writtenMembers] using readMembers_last hx
  | cons m members =>
    simp only [prettyMembers, newline, List.length_append, List.length_cons] at hf
    have hx := hv (depth + 1) x _ (by omega) (stops_comma
      (newline (depth + 1) ++ (prettyMembers depth (m :: members) ++ (newline depth ++ '\x7d' :: rest))))
    simpa [prettyMembers, writtenMembers] using readMembers_more hx (hm depth m members rest (by omega))

private theorem reads_pretty (fuel : Nat) : ReadsValues fuel ∧ ReadsItems fuel ∧ ReadsMembers fuel := by
  -- The readers hand their fuel on as they go down and along, so the induction is on it, not on the value.
  induction fuel with
  | zero =>
    refine ⟨fun depth x rest hf _ => ?_, fun _ _ _ _ hf => ?_, fun _ _ _ _ hf => ?_⟩
    · obtain ⟨_, _, hc, -⟩ := opens_prettyChars depth x
      simp [hc] at hf
    · omega
    · omega
  | succ fuel ih =>
    obtain ⟨hv, hi, hm⟩ := ih
    exact ⟨readsValues_succ hi hm, readsItems_succ hv hi, readsMembers_succ hv hm⟩

/-- The indented text of a value, with blanks after it, reads as the value is written. -/
theorem Written.read_pretty (x : Json) {blanks : String} (hb : ∀ c ∈ blanks.toList, isBlank c = true) :
    Written.read (x.pretty ++ blanks) = .ok x.written := by
  have hr : Stops Spelling.goesOn blanks.toList := by
    intro c hc
    have hblank := hb c (List.mem_of_mem_head? hc)
    simp only [isBlank, Bool.or_eq_true, beq_iff_eq] at hblank
    rcases hblank with ((rfl | rfl) | rfl) | rfl <;> decide
  have hskip : skipBlanks blanks.toList = [] := List.dropWhile_eq_nil_iff.mpr hb
  have hread := (reads_pretty (2 * (x.pretty ++ blanks).toList.length + 2)).1 0 x blanks.toList
    (by simp [pretty]; omega) hr
  have htext : (x.pretty ++ blanks).toList = prettyChars 0 x ++ blanks.toList := by simp [pretty]
  rw [← htext] at hread
  simp only [Written.read, hread, hskip, if_true]

mutual
/-- The numbers are whole and fit 64 bits, no object repeats a key, and containers nest at most `room`
deep. -/
def ReadsBack (room : Nat) : Json → Prop
  | .number n => n.FitsWord
  | .array items =>
    match room with
    | 0 => False
    | room + 1 => ReadsBackItems room items
  | .object members =>
    match room with
    | 0 => False
    | room + 1 => (members.map Prod.fst).Nodup ∧ ReadsBackMembers room members
  | _ => True

def ReadsBackItems (room : Nat) : List Json → Prop
  | [] => True
  | x :: rest => ReadsBack room x ∧ ReadsBackItems room rest

def ReadsBackMembers (room : Nat) : List (String × Json) → Prop
  | [] => True
  | (_, x) :: rest => ReadsBack room x ∧ ReadsBackMembers room rest
end

mutual
/-- What is written stands for the value again. -/
theorem value?_written (room : Nat) : (x : Json) → x.ReadsBack room → x.written.value? room = some x
  | .null, _ => rfl
  | .bool _, _ => rfl
  | .number n, h => by
    rw [written, Written.value?, Number.value?_numeral h]
    rfl
  | .string s, _ => by
    rw [written, Written.value?, stringOf?_ofChar]
    rfl
  | .array items, h => by
    cases room with
    | zero => exact h.elim
    | succ room =>
      rw [written, Written.value?, values?_written room items h]
      rfl
  | .object members, h => by
    cases room with
    | zero => exact h.elim
    | succ room =>
      rw [written, Written.value?, memberValues?_written room members h.2, Option.map_some,
        Entries.ofList_eq_self h.1]

private theorem values?_written (room : Nat) :
    (items : List Json) → ReadsBackItems room items →
      Written.values? room (writtenItems items) = some items
  | [], _ => rfl
  | x :: rest, h => by
    simp only [writtenItems, Written.values?, value?_written room x h.1, values?_written room rest h.2]

private theorem memberValues?_written (room : Nat) :
    (members : List (String × Json)) → ReadsBackMembers room members →
      Written.memberValues? room (writtenMembers members) = some members
  | [], _ => rfl
  | (key, x) :: rest, h => by
    simp only [writtenMembers, Written.memberValues?, stringOf?_ofChar, value?_written room x h.1,
      memberValues?_written room rest h.2]
end

/-- The indented text of such a value reads as the value, with blanks after it too. -/
theorem read_pretty_append {x : Json} (h : x.ReadsBack greatestDepth) {blanks : String}
    (hb : ∀ c ∈ blanks.toList, isBlank c = true) : Json.read (x.pretty ++ blanks) = .ok x := by
  have hvalue := value?_written greatestDepth x h
  simp only [Json.read, Written.read_pretty x hb, bind, Except.bind, hvalue]

/-- The indented text of a value with whole numbers of 64 bits reads as the value. -/
theorem read_pretty {x : Json} (h : x.ReadsBack greatestDepth) : Json.read x.pretty = .ok x := by
  have hread : Json.read (x.pretty ++ "") = .ok x := read_pretty_append h (by simp)
  rwa [String.append_empty] at hread

theorem readsBackItems_iff {room : Nat} {items : List Json} :
    ReadsBackItems room items ↔ ∀ x ∈ items, ReadsBack room x := by
  induction items with
  | nil => simp [ReadsBackItems]
  | cons x items ih => simp [ReadsBackItems, ih]

end IndexFeed.Json
