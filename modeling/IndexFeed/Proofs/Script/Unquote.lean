import IndexFeed.Script.Statement

/-! Reading string literals back: escapes are decoded up to the first quote that is not escaped. -/
namespace IndexFeed.Script

/-- The character that a letter stands for after a backslash. -/
def escaped? : Char → Option Char
  | '"' => some '"'
  | '\\' => some '\\'
  | 'b' => some '\x08'
  | 'f' => some '\x0c'
  | 'n' => some '\n'
  | 'r' => some '\r'
  | 't' => some '\t'
  | '$' => some '$'
  | _ => none

/-- The character of a code point; none where there is no such character. -/
def codePoint? (n : Nat) : Option Char := if n.isValidChar then some (Char.ofNat n) else none

/-- Characters that stand for themselves between quotes. -/
def bare (c : Char) : Bool := c ≠ '"' ∧ c ≠ '\\' ∧ c ≠ '$' ∧ 0x20 ≤ c.toNat

/-- Reads up to the closing quote: the text that is meant, and what comes after the quote. -/
def body? : List Char → Option (List Char × List Char)
  | [] => none
  | '"' :: rest => some ([], rest)
  | '\\' :: 'u' :: a :: b :: c :: d :: rest => do
    let char ← (Text.number? 16 [a, b, c, d]).bind codePoint?
    (body? rest).map fun read => (char :: read.1, read.2)
  | '\\' :: letter :: rest => do
    let char ← escaped? letter
    (body? rest).map fun read => (char :: read.1, read.2)
  | c :: rest => if bare c then (body? rest).map fun read => (c :: read.1, read.2) else none

/-- Reads a string literal from the start of a text. -/
def unquote? : List Char → Option (List Char × List Char)
  | '"' :: rest => body? rest
  | _ => none

/-- How a character is written between quotes: by a letter, by its number, or by itself. -/
inductive Escape (c : Char) : List Char → Prop where
  | letter {letter : Char} (hmeant : escaped? letter = some c) : Escape c ['\\', letter]
  | number (hcontrol : c.toNat < 0x20) : Escape c
    ['\\', 'u', '0', '0', Nat.digitChar (c.toNat / 16), Nat.digitChar (c.toNat % 16)]
  | itself (hallowed : bare c = true) : Escape c [c]

/-- Every character is written in one of the forms of an escape. -/
theorem escape_cases (c : Char) : Escape c (escape c) := by
  by_cases hnamed : c ∈ ['$', '"', '\\', '\x08', '\x0c', '\n', '\r', '\t']
  · simp only [List.mem_cons, List.not_mem_nil, or_false] at hnamed
    rcases hnamed with rfl | rfl | rfl | rfl | rfl | rfl | rfl | rfl <;> exact .letter rfl
  · simp only [List.mem_cons, List.not_mem_nil, or_false, not_or] at hnamed
    obtain ⟨hd, hq, hb, h8, hf, hn, hr, ht⟩ := hnamed
    simp only [escape, Json.escape, hd, hq, hb, h8, hf, hn, hr, ht, if_false]
    split
    · next hcontrol => exact .number hcontrol
    · next hcontrol => exact .itself (by simp [bare, hd, hq, hb]; omega)

/-- A character that stands for itself ends nothing, starts no escape and interpolates nothing. -/
theorem of_bare {c : Char} (hallowed : bare c = true) :
    c ≠ '"' ∧ c ≠ '\\' ∧ c ≠ '$' ∧ 0x20 ≤ c.toNat := by
  simpa [bare] using hallowed

/-- The letter that announces a number stands for no character. -/
theorem ne_u_of_escaped {letter c : Char} (hmeant : escaped? letter = some c) : letter ≠ 'u' := by
  rintro rfl
  exact nomatch hmeant

/-- A control character is read back from its number. -/
theorem control_escape :
    ∀ n < 0x20, (Text.number? 16 ['0', '0', Nat.digitChar (n / 16), Nat.digitChar (n % 16)]).bind
      codePoint? = some (Char.ofNat n) := by
  decide

/-- A character is read back from its escape, whatever follows. -/
theorem body_escape (c : Char) (rest : List Char) :
    body? (escape c ++ rest) = (body? rest).map fun read => (c :: read.1, read.2) := by
  have hform := escape_cases c
  generalize escape c = written at hform ⊢
  cases hform with
  | letter hmeant => simp [body?, ne_u_of_escaped hmeant, hmeant]
  | number hcontrol =>
    have hc := control_escape c.toNat hcontrol
    simp only [List.cons_append, List.nil_append, body?, hc, Char.ofNat_toNat]
    rfl
  | itself hallowed =>
    obtain ⟨hquote, hbackslash, -, -⟩ := of_bare hallowed
    rw [List.singleton_append, body?.eq_def]
    split <;> simp_all

/-- A string literal is read back to the text it stands for, and nothing of what follows is taken. -/
theorem unquote_quote (text rest : List Char) :
    unquote? (quote text ++ rest) = some (text, rest) := by
  have hclosed : body? (text.flatMap escape ++ '"' :: rest) = some (text, rest) := by
    induction text with
    | nil => rfl
    | cons c text ih => rw [List.flatMap_cons, List.append_assoc, body_escape, ih]; rfl
  simpa [quote, unquote?] using hclosed

/-- String literals can be told apart from whatever follows them. -/
theorem quote_append_inj {a b : String} {t u : List Char}
    (h : quote a.toList ++ t = quote b.toList ++ u) : a = b ∧ t = u := by
  have he := unquote_quote a.toList t
  rw [h, unquote_quote] at he
  obtain ⟨hb, hu⟩ := Prod.mk.inj (Option.some.inj he)
  exact ⟨(String.toList_inj.mp hb).symm, hu.symm⟩

end IndexFeed.Script
