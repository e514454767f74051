import IndexFeed.Proofs.Script.Unquote

/-! What is met inside a string literal: escapes, and characters that stand for themselves. -/
namespace IndexFeed.Script

/-- What a reader takes at once between quotes, and the character it stands for. -/
structure Token where
  source : List Char
  meaning : Char
  deriving DecidableEq, Repr

/-- Reads up to the first quote that has no backslash before it. Every other character without a
backslash is taken for itself, also those that a script must not have there. -/
def tokens? : List Char → Option (List Token × List Char)
  | [] => none
  | '"' :: rest => some ([], rest)
  | '\\' :: 'u' :: a :: b :: c :: d :: rest => do
    let char ← (Text.number? 16 [a, b, c, d]).bind codePoint?
    (tokens? rest).map fun read => (⟨['\\', 'u', a, b, c, d], char⟩ :: read.1, read.2)
  | '\\' :: letter :: rest => do
    let char ← escaped? letter
    (tokens? rest).map fun read => (⟨['\\', letter], char⟩ :: read.1, read.2)
  | c :: rest => (tokens? rest).map fun read => (⟨[c], c⟩ :: read.1, read.2)

/-- Reads a string literal from the start of a text, token by token. -/
def literalTokens? : List Char → Option (List Token × List Char)
  | '"' :: rest => tokens? rest
  | _ => none

/-- A token that starts no interpolation and has no control character. -/
def Token.Harmless (token : Token) : Prop :=
  token.source ≠ ['$'] ∧ ∀ c ∈ token.source, 0x20 ≤ c.toNat

private theorem printable_of_escaped {letter c : Char} (h : escaped? letter = some c) :
    0x20 ≤ letter.toNat := by
  unfold escaped? at h
  split at h <;> first | decide | cases h

/-- The token that stands for a character in a literal. -/
def Token.ofChar (c : Char) : Token := ⟨escape c, c⟩

private theorem harmless_ofChar (c : Char) : (Token.ofChar c).Harmless := by
  have hdigits : ∀ n < 0x20, 0x20 ≤ (Nat.digitChar (n / 16)).toNat ∧
      0x20 ≤ (Nat.digitChar (n % 16)).toNat := by
    decide
  have hform := escape_cases c
  rw [Token.ofChar, Token.Harmless]
  generalize escape c = written at hform ⊢
  cases hform with
  | letter hmeant => exact ⟨by simp, by simp [printable_of_escaped hmeant]⟩
  | number hcontrol =>
    obtain ⟨hhigh, hlow⟩ := hdigits c.toNat hcontrol
    exact ⟨by simp, by simp [hhigh, hlow]⟩
  | itself hallowed =>
    obtain ⟨-, -, hdollar, hprintable⟩ := of_bare hallowed
    exact ⟨by simpa using hdollar, by simpa using hprintable⟩

private theorem tokens_escape (c : Char) (rest : List Char) :
    tokens? (escape c ++ rest) =
      (tokens? rest).map fun read => (Token.ofChar c :: read.1, read.2) := by
  have hform := escape_cases c
  rw [Token.ofChar]
  generalize escape c = written at hform ⊢
  cases hform with
  | letter hmeant => simp [tokens?, ne_u_of_escaped hmeant, hmeant]
  | number hcontrol =>
    have hc := control_escape c.toNat hcontrol
    simp only [List.cons_append, List.nil_append, tokens?, hc, Char.ofNat_toNat]
    rfl
  | itself hallowed =>
    obtain ⟨hquote, hbackslash, -, -⟩ := of_bare hallowed
    rw [List.singleton_append, tokens?.eq_def]
    split <;> simp_all

private theorem tokens_body (text rest : List Char) :
    tokens? (text.flatMap escape ++ '"' :: rest) = some (text.map Token.ofChar, rest) := by
  induction text with
  | nil => rfl
  | cons c text ih =>
    rw [List.flatMap_cons, List.append_assoc, tokens_escape, ih]
    rfl

/-- Puts a backslash before a dollar. -/
def guardDollar (c : Char) : List Char := if c = '$' then ['\\', '$'] else [c]

private theorem dollar_notMem_escape {c : Char} (hother : c ≠ '$') : '$' ∉ escape c := by
  have hform := escape_cases c
  generalize escape c = written at hform ⊢
  cases hform with
  | letter hmeant =>
    intro hmem
    obtain rfl : '$' = _ := by simpa using hmem
    exact hother (Option.some.inj hmeant).symm
  | number hcontrol => simp
  | itself hallowed => simpa using hother.symm

private theorem guardDollar_of_notMem {text : List Char} (h : '$' ∉ text) :
    text.flatMap guardDollar = text := by
  induction text with
  | nil => rfl
  | cons c text ih =>
    obtain ⟨hfirst, hlater⟩ := not_or.mp (mt List.mem_cons.mpr h)
    rw [List.flatMap_cons, ih hlater, guardDollar, if_neg (Ne.symm hfirst), List.singleton_append]

private theorem escape_eq (c : Char) : escape c = (Json.escape c).flatMap guardDollar := by
  by_cases hdollar : c = '$'
  · subst hdollar
    rfl
  · have hplain : escape c = Json.escape c := if_neg hdollar
    rw [← hplain, guardDollar_of_notMem (dollar_notMem_escape hdollar)]

/-- A string literal is the JSON text of the string with a backslash before each dollar, wherever the
dollars stand in it. -/
theorem quote_eq (text : String) : quote text.toList = (Json.quote text).flatMap guardDollar := by
  have hends : guardDollar '"' = ['"'] := rfl
  rw [quote, Json.quote, List.flatMap_append, List.flatMap_cons, List.flatMap_singleton, hends,
    List.flatMap_assoc, funext escape_eq]
  rfl

/-- A string literal gives back its string to every reader and ends where it ends, whatever follows.
It is the JSON text with each dollar escaped; a reader meets no dollar that is not escaped and no
control character on the way. -/
theorem literal_is_sealed (text : String) (rest : List Char) :
    quote text.toList = (Json.quote text).flatMap guardDollar ∧
    ∃ tokens, literalTokens? (quote text.toList ++ rest) = some (tokens, rest) ∧
      quote text.toList = '"' :: tokens.flatMap Token.source ++ ['"'] ∧
      tokens.map Token.meaning = text.toList ∧ ∀ token ∈ tokens, token.Harmless := by
  refine ⟨quote_eq text, text.toList.map Token.ofChar, ?_, ?_, ?_, ?_⟩
  · simpa [quote, literalTokens?] using tokens_body text.toList rest
  · rw [quote, List.flatMap_map]
    rfl
  · rw [List.map_map]
    exact List.map_id text.toList
  · intro token hmem
    obtain ⟨c, -, rfl⟩ := List.mem_map.mp hmem
    exact harmless_ofChar c

end IndexFeed.Script
