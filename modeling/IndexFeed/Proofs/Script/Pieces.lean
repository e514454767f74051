import IndexFeed.Proofs.Mutator.Effect

/-! Scripts cut at the semicolons that end statements, and the texts that may stand in one. -/
namespace IndexFeed.Script

/-- Where a reader of a script stands: outside of strings, inside one, or after a backslash in one, and
in how many braces. -/
inductive Mode where
  | code (depth : Nat)
  | quoted (depth : Nat)
  | escaped (depth : Nat)
  deriving DecidableEq, Repr

/-- One character further. -/
def Mode.next : Mode → Char → Mode
  | code depth, c =>
    if c = '"' then quoted depth
    else if c = '\x7b' then code (depth + 1)
    else if c = '\x7d' then code (depth - 1)
    else code depth
  | quoted depth, c => if c = '"' then code depth else if c = '\\' then escaped depth else quoted depth
  | escaped depth, _ => quoted depth

/-- The mode after a text. -/
def after (mode : Mode) (text : List Char) : Mode := text.foldl Mode.next mode

/-- Whether a semicolon ends a statement here. -/
def Cuts (mode : Mode) (c : Char) : Prop := mode = .code 0 ∧ c = ';'

instance (mode : Mode) (c : Char) : Decidable (Cuts mode c) :=
  inferInstanceAs (Decidable (mode = .code 0 ∧ c = ';'))

/-- A text cut at every semicolon outside of strings and braces. -/
def cut : Mode → List Char → List (List Char)
  | _, [] => [[]]
  | mode, c :: rest =>
    if Cuts mode c then [] :: cut mode rest else (cut (mode.next c) rest).modifyHead (c :: ·)

/-- The statements of a script, as far as its text shows them: none in an empty one. -/
def pieces (text : List Char) : List (List Char) := if text = [] then [] else cut (.code 0) text

/-- No semicolon in a text ends a statement. -/
def Unbroken : Mode → List Char → Prop
  | _, [] => True
  | mode, c :: rest => ¬ Cuts mode c ∧ Unbroken (mode.next c) rest

instance decidableUnbroken : (mode : Mode) → (text : List Char) → Decidable (Unbroken mode text)
  | _, [] => inferInstanceAs (Decidable True)
  | mode, c :: rest =>
    have := decidableUnbroken (mode.next c) rest
    inferInstanceAs (Decidable (¬ Cuts mode c ∧ Unbroken (mode.next c) rest))

private theorem after_append (mode : Mode) (a b : List Char) :
    after mode (a ++ b) = after (after mode a) b := List.foldl_append

private theorem unbroken_append {mode : Mode} {a b : List Char} :
    Unbroken mode (a ++ b) ↔ Unbroken mode a ∧ Unbroken (after mode a) b := by
  induction a generalizing mode with
  | nil => simp [Unbroken, after]
  | cons c a ih => simp only [List.cons_append, Unbroken, ih, and_assoc]; rfl

private theorem cut_ne_nil (mode : Mode) (text : List Char) : cut mode text ≠ [] := by
  induction text generalizing mode with
  | nil => simp [cut]
  | cons c rest ih =>
    rw [cut]
    split
    · simp
    · obtain ⟨x, xs, he⟩ := List.exists_cons_of_ne_nil (ih (mode.next c))
      simp [he]

private theorem modifyHead_eq_cons {c : Char} {mode : Mode} {text f : List Char}
    {g : List (List Char)} :
    (cut mode text).modifyHead (c :: ·) = (c :: f) :: g ↔ cut mode text = f :: g := by
  obtain ⟨x, xs, he⟩ := List.exists_cons_of_ne_nil (cut_ne_nil mode text)
  simp [he]

/-- A text is one piece if no semicolon in it ends a statement. -/
theorem cut_eq_singleton_iff {mode : Mode} {text : List Char} :
    cut mode text = [text] ↔ Unbroken mode text := by
  induction text generalizing mode with
  | nil => simp [cut, Unbroken]
  | cons c rest ih =>
    rw [cut, Unbroken]
    split
    · next h => simp [h, cut_ne_nil]
    · next h => simp [h, modifyHead_eq_cons, ih]

/-- A piece ends at a semicolon if none before it and this one end a statement. -/
theorem cut_eq_cons_iff {mode : Mode} {f rest : List Char} {g : List (List Char)} :
    cut mode (f ++ ';' :: rest) = f :: g ↔
      Unbroken mode f ∧ after mode f = .code 0 ∧ cut (.code 0) rest = g := by
  induction f generalizing mode with
  | nil =>
    obtain ⟨x, xs, he⟩ := List.exists_cons_of_ne_nil (cut_ne_nil (mode.next ';') rest)
    by_cases h : mode = .code 0 <;> simp [cut, Cuts, Unbroken, after, h, he]
  | cons c f ih =>
    rw [List.cons_append, cut, Unbroken]
    split
    · next h => simp [h]
    · next h => simp only [modifyHead_eq_cons, ih, h]; simp [after]

/-- Each statement is one piece, and where another one follows it ends outside of strings and braces. -/
def Separable : List Statement → Prop
  | [] => True
  | s :: rest =>
    Unbroken (.code 0) s.chars ∧ (rest ≠ [] → after (.code 0) s.chars = .code 0) ∧ Separable rest

instance decidableSeparable : (ss : List Statement) → Decidable (Separable ss)
  | [] => inferInstanceAs (Decidable True)
  | s :: rest =>
    have := decidableSeparable rest
    inferInstanceAs (Decidable (Unbroken (.code 0) s.chars ∧
      (rest ≠ [] → after (.code 0) s.chars = .code 0) ∧ Separable rest))

private theorem cut_chars_iff (s : Statement) (rest : List Statement) :
    cut (.code 0) (chars (s :: rest)) = (s :: rest).map Statement.chars ↔ Separable (s :: rest) := by
  induction rest generalizing s with
  | nil => simp [chars, Separable, cut_eq_singleton_iff]
  | cons s' rest ih =>
    have hc : chars (s :: s' :: rest) = s.chars ++ ';' :: chars (s' :: rest) := by simp [chars]
    rw [hc, List.map_cons, cut_eq_cons_iff, ih, Separable.eq_2 s]
    simp

/-- The script shows its statements exactly where they are separable. -/
theorem pieces_chars_iff (ss : List Statement) :
    pieces (chars ss) = ss.map Statement.chars ↔ Separable ss := by
  cases ss with
  | nil => simp [pieces, chars, Separable]
  | cons s rest => rw [pieces, if_neg (chars_ne_nil (by simp)), cut_chars_iff]

private theorem pieces_text_iff (ss : List Statement) :
    pieces (text ss).toList = ss.map Statement.chars ↔ Separable ss := by
  rw [text, String.toList_ofList, pieces_chars_iff]

/-- From some depth of braces on, a text is code throughout: it ends no statement and leaves neither
a string nor a brace open. -/
def Balanced (least : Nat) (text : List Char) : Prop :=
  ∀ depth, least ≤ depth → Unbroken (.code depth) text ∧ after (.code depth) text = .code depth

/-- The characters that a reader of scripts takes notice of in code. -/
def marks : List Char := ['"', ';', '\x7b', '\x7d']

private theorem Balanced.mono {m n : Nat} {text : List Char} (h : Balanced m text) (hmn : m ≤ n) :
    Balanced n text :=
  fun depth hd => h depth (Nat.le_trans hmn hd)

private theorem Balanced.append {n : Nat} {a b : List Char} (ha : Balanced n a) (hb : Balanced n b) :
    Balanced n (a ++ b) := by
  intro depth hd
  obtain ⟨hua, haa⟩ := ha depth hd
  obtain ⟨hub, hab⟩ := hb depth hd
  exact ⟨unbroken_append.mpr ⟨hua, by rwa [haa]⟩, by rw [after_append, haa, hab]⟩

private theorem balanced_nil (n : Nat) : Balanced n [] := fun _ _ => ⟨trivial, rfl⟩

/-- Text without marks is balanced. -/
theorem balanced_of_unmarked {n : Nat} {text : List Char}
    (h : text.all (· ∉ marks) = true := by decide) : Balanced n text := by
  intro depth hd
  induction text with
  | nil => exact balanced_nil n depth hd
  | cons c text ih =>
    rw [List.all_cons, Bool.and_eq_true, decide_eq_true_eq] at h
    obtain ⟨hc, hrest⟩ := h
    simp only [marks, List.mem_cons, List.not_mem_nil, or_false, not_or] at hc
    obtain ⟨hquote, hsemicolon, hopening, hclosing⟩ := hc
    have hstep : Mode.next (.code depth) c = .code depth := by
      simp [Mode.next, hquote, hopening, hclosing]
    obtain ⟨hu, ha⟩ := ih hrest
    exact ⟨⟨fun hcut => hsemicolon hcut.2, by rwa [hstep]⟩,
      by rw [after, List.foldl_cons, hstep]; exact ha⟩

/-- In braces a semicolon ends no statement of the script. -/
theorem balanced_semicolon : Balanced 1 [';'] := by
  intro depth hd
  refine ⟨⟨?_, trivial⟩, rfl⟩
  rintro ⟨h, -⟩
  cases h
  omega

private theorem Balanced.block {n : Nat} {text : List Char} (h : Balanced (n + 1) text) :
    Balanced n ('\x7b' :: text ++ ['\x7d']) := by
  intro depth hd
  obtain ⟨hu, ha⟩ := h (depth + 1) (by omega)
  have hopens : Mode.next (.code depth) '\x7b' = .code (depth + 1) := rfl
  have hbrace (mode : Mode) (c : Char) (hc : c ≠ ';') : ¬ Cuts mode c := fun hcut => hc hcut.2
  constructor
  · refine ⟨hbrace _ _ (by decide), ?_⟩
    rw [hopens]
    exact unbroken_append.mpr ⟨hu, hbrace _ _ (by decide), trivial⟩
  · rw [List.cons_append, after, List.foldl_cons, hopens]
    change after _ _ = _
    rw [after_append, ha]
    rfl

private theorem balanced_intercalate {n : Nat} {sep : List Char} (hs : Balanced n sep)
    {xs : List (List Char)} (h : ∀ x ∈ xs, Balanced n x) : Balanced n (List.intercalate sep xs) := by
  induction xs with
  | nil => exact balanced_nil n
  | cons x xs ih =>
    have hx := h x (by simp)
    have hrest := ih fun y hy => h y (by simp [hy])
    cases xs with
    | nil => simpa using hx
    | cons y ys =>
      rw [List.intercalate_cons_cons]
      exact (hx.append hs).append hrest

private theorem inside_escape (depth : Nat) (c : Char) :
    Unbroken (.quoted depth) (escape c) ∧ after (.quoted depth) (escape c) = .quoted depth := by
  have hdigits : ∀ n < 0x20, (Nat.digitChar (n / 16) ≠ '"' ∧ Nat.digitChar (n / 16) ≠ '\\') ∧
      Nat.digitChar (n % 16) ≠ '"' ∧ Nat.digitChar (n % 16) ≠ '\\' := by
    decide
  have hform := escape_cases c
  generalize escape c = written at hform ⊢
  cases hform with
  | letter hmeant => exact ⟨⟨nofun, nofun, trivial⟩, rfl⟩
  | number hcontrol =>
    obtain ⟨hhigh, hlow⟩ := hdigits c.toNat hcontrol
    simp [Unbroken, after, Mode.next, Cuts, hhigh, hlow]
  | itself hallowed =>
    obtain ⟨hq, hb, -, -⟩ := of_bare hallowed
    simp [Unbroken, after, Mode.next, Cuts, hq, hb]

/-- Whatever text a string literal stands for, it is balanced. -/
theorem balanced_quote (n : Nat) (text : List Char) : Balanced n (quote text) := by
  intro depth _
  have hin : Unbroken (.quoted depth) (text.flatMap escape ++ ['"']) ∧
      after (.quoted depth) (text.flatMap escape ++ ['"']) = .code depth := by
    induction text with
    | nil => exact ⟨⟨nofun, trivial⟩, rfl⟩
    | cons c text ih =>
      obtain ⟨hu, ha⟩ := inside_escape depth c
      rw [List.flatMap_cons, List.append_assoc, unbroken_append, after_append, ha]
      exact ⟨⟨hu, ih.1⟩, ih.2⟩
  exact ⟨⟨fun h => absurd h.2 (by decide), hin.1⟩, hin.2⟩

private theorem Scalar.balanced_chars (n : Nat) {value : Scalar} (h : value.SpellsNumbers) :
    Balanced n value.chars := by
  have hunmarked : ∀ c ∈ marks, Number.inText c = false := by simp [marks, Number.inText]
  cases value with
  | null => exact balanced_of_unmarked
  | bool value => cases value <;> exact balanced_of_unmarked
  | numeral text =>
    refine balanced_of_unmarked (List.all_eq_true.mpr fun c hc => decide_eq_true fun hm => ?_)
    have := h.2 c hc
    simp [hunmarked c hm] at this
  | string text => exact balanced_quote n text.toList

private theorem balanced_brackets {n : Nat} {text : List Char} (h : Balanced n text) :
    Balanced n ('[' :: text ++ [']']) := by
  have hopening : Balanced n ['['] := balanced_of_unmarked
  have hclosing : Balanced n [']'] := balanced_of_unmarked
  exact (hopening.append h).append hclosing

private theorem Literal.balanced_chars (n : Nat) {literal : Literal} (h : literal.SpellsNumbers) :
    Balanced n literal.chars := by
  have hcomma : Balanced n [','] := balanced_of_unmarked
  cases literal with
  | scalar value => exact value.balanced_chars n h
  | list items =>
    refine balanced_brackets (balanced_intercalate hcomma fun x hx => ?_)
    obtain ⟨item, hi, rfl⟩ := List.mem_map.mp hx
    exact item.balanced_chars n (h item hi)
  | map entries =>
    cases entries with
    | nil => exact balanced_of_unmarked
    | cons entry rest =>
      refine balanced_brackets (balanced_intercalate hcomma fun x hx => ?_)
      obtain ⟨⟨key, value⟩, he, rfl⟩ := List.mem_map.mp hx
      have hcolon : Balanced n [':'] := balanced_of_unmarked
      exact (balanced_quote n key.toList).append
        (hcolon.append (value.balanced_chars n (h (key, value) he)))

private theorem balanced_branch {list change : List Char} (hl : Balanced 0 list)
    (hc : Balanced 1 change) :
    Balanced 0 ('\x7b' :: ("  ".toList ++ list ++ change ++ [';']) ++ ['\x7d']) := by
  have hindent : Balanced 1 "  ".toList := balanced_of_unmarked
  exact (((hindent.append (hl.mono (Nat.zero_le 1))).append hc).append balanced_semicolon).block

private theorem balanced_addUnlessThere {list element : List Char} (hl : Balanced 0 list)
    (he : Balanced 0 element) : Balanced 0 (Statement.addUnlessThere list element) := by
  have hsplit : Statement.addUnlessThere list element =
      "if (!".toList ++ list ++ ".contains(".toList ++ element ++ ")) ".toList ++
        ('\x7b' :: ("  ".toList ++ list ++ (" += ".toList ++ element) ++ [';']) ++ ['\x7d']) := by
    unfold Statement.addUnlessThere
    simp
  have hcondition : Balanced 0 ("if (!".toList ++ list ++ ".contains(".toList ++ element ++
      ")) ".toList) :=
    (((Balanced.append balanced_of_unmarked hl).append balanced_of_unmarked).append he).append
      balanced_of_unmarked
  have hadds : Balanced 1 (" += ".toList ++ element) :=
    Balanced.append balanced_of_unmarked (he.mono (Nat.zero_le 1))
  rw [hsplit]
  exact hcondition.append (balanced_branch hl hadds)

private theorem balanced_addFirst {list element : List Char} (hl : Balanced 0 list)
    (he : Balanced 0 element) :
    Balanced 0 ("if (!".toList ++ list ++ ") \x7b  ".toList ++ list ++ " = [".toList ++ element ++
      "];\x7d else ".toList ++ Statement.addUnlessThere list element) := by
  have hsplit : "if (!".toList ++ list ++ ") \x7b  ".toList ++ list ++ " = [".toList ++ element ++
      "];\x7d else ".toList ++ Statement.addUnlessThere list element =
      "if (!".toList ++ list ++ ") ".toList ++
        ('\x7b' :: ("  ".toList ++ list ++ (" = [".toList ++ element ++ [']']) ++ [';']) ++ ['\x7d']) ++
        " else ".toList ++ Statement.addUnlessThere list element := by
    simp
  have hcondition : Balanced 0 ("if (!".toList ++ list ++ ") ".toList) :=
    (Balanced.append balanced_of_unmarked hl).append balanced_of_unmarked
  have hmakes : Balanced 1 (" = [".toList ++ element ++ [']']) :=
    (Balanced.append balanced_of_unmarked (he.mono (Nat.zero_le 1))).append balanced_of_unmarked
  have hotherwise : Balanced 0 " else ".toList := balanced_of_unmarked
  rw [hsplit]
  exact ((hcondition.append (balanced_branch hl hmakes)).append hotherwise).append
    (balanced_addUnlessThere hl he)

/-- A statement is balanced if the expression that reaches its field is: its texts, elements, leaves
and numbers never matter. -/
theorem Statement.balanced_chars {s : Statement} (hp : s.SpellsNumbers)
    (ha : Balanced 0 (Path.accessorChars s.field)) : Balanced 0 s.chars := by
  cases s with
  | assign field value =>
    exact (ha.append balanced_of_unmarked).append (value.balanced_chars 0 hp)
  | remove container leaf =>
    exact ((ha.append balanced_of_unmarked).append (balanced_quote 0 _)).append balanced_of_unmarked
  | increase field amount =>
    exact (ha.append balanced_of_unmarked).append ((Scalar.numeral amount).balanced_chars 0 hp)
  | append field element | subtract field element =>
    exact (ha.append balanced_of_unmarked).append (balanced_quote 0 _)
  | addFirst field element => exact balanced_addFirst ha (balanced_quote 0 _)
  | addNext field element => exact balanced_addUnlessThere ha (balanced_quote 0 _)

private theorem separable_of_balanced {ss : List Statement} (h : ∀ s ∈ ss, Balanced 0 s.chars) :
    Separable ss := by
  induction ss with
  | nil => trivial
  | cons s rest ih =>
    obtain ⟨hu, ha⟩ := h s (by simp) 0 (Nat.le_refl 0)
    exact ⟨hu, fun _ => ha, ih fun t ht => h t (by simp [ht])⟩

end IndexFeed.Script

namespace IndexFeed

/-- No mark gets into an expression from a path without marks. -/
theorem Segment.access_unmarked {part : List Char} (h : ∀ c ∈ part, c ∉ Script.marks) :
    ∀ c ∈ (ofPart part).access, c ∉ Script.marks := by
  have hdigits : ∀ c ∈ Script.marks, c.isDigit = false := by simp [Script.marks]
  intro c hc
  unfold ofPart at hc
  split at hc
  · simp only [access, List.cons_append, List.mem_cons, List.mem_append, List.not_mem_nil,
      or_false] at hc
    rcases hc with rfl | hc | rfl
    · decide
    · intro hm
      have := Nat.isDigit_of_mem_toDigits (by decide) (by decide) hc
      simp [hdigits c hm] at this
    · decide
  · simp only [access, String.toList_ofList, List.mem_cons] at hc
    rcases hc with rfl | hc
    · decide
    · exact h c hc

private theorem Path.balanced_accessor {segments : List Segment}
    (h : ∀ segment ∈ segments, ∀ c ∈ segment.access, c ∉ Script.marks) :
    Script.Balanced 0 (accessorChars segments) := by
  refine .append Script.balanced_of_unmarked (Script.balanced_of_unmarked ?_)
  refine List.all_eq_true.mpr fun c hc => decide_eq_true ?_
  obtain ⟨segment, hs, hc⟩ := List.mem_flatMap.mp hc
  exact h segment hs c hc

namespace Mutator

private theorem script_eq_text {m : Mutator} {ss : List Script.Statement} {script : String}
    (hs : m.statements = .ok ss) (ht : m.script = .ok script) : script = Script.text ss := by
  simpa [Mutator.script, hs, Except.map, eq_comm] using ht

/-- No path of the mutator has a character of a class. -/
def Avoids (m : Mutator) (p : Char → Prop) : Prop := ∀ raw ∈ m.paths, ∀ c ∈ raw.toList, ¬ p c

private theorem separable_of_avoids {m : Mutator} {ss : List Script.Statement} (h : m.statements = .ok ss)
    (ha : m.Avoids (· ∈ Script.marks)) : Script.Separable ss := by
  refine Script.separable_of_balanced fun s hs => ?_
  obtain ⟨hproper, raw, hraw, operator, path, hp, hf⟩ := of_mem_statements h hs
  refine Script.Statement.balanced_chars hproper (Path.balanced_accessor fun segment hm => ?_)
  rw [hf] at hm
  have hsegments := operator.reached_subset path hm
  rw [Path.segments_of_parse hp] at hsegments
  obtain ⟨part, hpart, rfl⟩ := List.mem_map.mp hsegments
  exact Segment.access_unmarked fun c hc => ha raw hraw c (Path.mem_of_mem_parts hpart hc)

/-- The pieces of a script are the statements of its mutator exactly where each statement is a piece
of its own. To keep the marks out of paths is enough for that. -/
theorem pieces_script_iff {m : Mutator} {ss : List Script.Statement} {script : String}
    (hs : m.statements = .ok ss) (ht : m.script = .ok script) :
    (Script.pieces script.toList = ss.map Script.Statement.chars ↔ Script.Separable ss) ∧
      (m.Avoids (· ∈ Script.marks) → Script.pieces script.toList = ss.map Script.Statement.chars) := by
  obtain rfl := script_eq_text hs ht
  exact ⟨Script.pieces_text_iff ss, fun ha => (Script.pieces_text_iff ss).mpr (separable_of_avoids hs ha)⟩

/-- Semicolons in values, names and elements start no statement. -/
theorem values_start_no_statement :
    let m : Mutator :=
      ⟨[(.set, [("name", .scalar (.string "x\";y\x7d"))]), (.unset, [("a.b", .scalar .null)])]⟩
    ∃ ss script, m.statements = .ok ss ∧ m.script = .ok script ∧ m.Avoids (· ∈ Script.marks) ∧
      Script.Separable ss ∧ Script.pieces script.toList = ss.map Script.Statement.chars := by
  intro m
  have havoids : m.Avoids (· ∈ Script.marks) := by simp [m, Avoids, paths, Script.marks]
  obtain ⟨hexact, henough⟩ := pieces_script_iff (m := m) rfl rfl
  exact ⟨_, _, rfl, rfl, havoids, hexact.mp (henough havoids), henough havoids⟩

/-- A key with a semicolon ends its statement, and the rest of the key is a statement of its own. -/
theorem path_starts_statement :
    let m : Mutator := ⟨[(.set, [("name.x;ctx._source.secret", .scalar (.number (.integer 1)))])]⟩
    ∃ ss script, m.statements = .ok ss ∧ m.script = .ok script ∧
      ss.map Script.Statement.chars = ["ctx._source.name.x;ctx._source.secret = 1".toList] ∧
      Script.pieces script.toList =
        ["ctx._source.name.x".toList, "ctx._source.secret = 1".toList] ∧
      Script.pieces script.toList ≠ ss.map Script.Statement.chars :=
  ⟨_, _, rfl, rfl, by decide, by decide, by decide⟩

private def onPath (c : Char) : Mutator :=
  let path := String.ofList [c]
  ⟨[(.inc, [(path, .scalar (.number (.integer 1)))]), (.addToSet, [(path, .scalar (.string "x"))])]⟩

private theorem paths_onPath (c : Char) {raw : String} (h : raw ∈ (onPath c).paths) :
    raw = String.ofList [c] := by
  simpa [onPath, paths] using h

private theorem not_separable_onPath : ∀ c ∈ Script.marks, ∃ ss, (onPath c).statements = .ok ss ∧
    ¬ Script.Separable ss := by
  intro c hc
  simp only [Script.marks, List.mem_cons, List.not_mem_nil, or_false] at hc
  rcases hc with rfl | rfl | rfl | rfl <;> exact ⟨_, rfl, by decide +kernel⟩

/-- The characters to keep out of paths are the marks, and no fewer: each of them, as a path, hides or
adds an end of a statement. -/
theorem separable_iff_avoids_marks (p : Char → Prop) :
    (∀ (m : Mutator) (ss : List Script.Statement), m.Avoids p → m.statements = .ok ss →
      Script.Separable ss) ↔ ∀ c ∈ Script.marks, p c := by
  constructor
  · intro h c hc
    by_cases hp : p c
    · exact hp
    · obtain ⟨ss, hs, hn⟩ := not_separable_onPath c hc
      refine absurd (h _ ss ?_ hs) hn
      intro raw hraw d hd
      rw [paths_onPath c hraw, String.toList_ofList, List.mem_singleton] at hd
      rwa [hd]
  · intro h m ss ha hs
    exact separable_of_avoids hs fun raw hraw c hc hm => ha raw hraw c hc (h c hm)

end Mutator
end IndexFeed
