import IndexFeed.Number.Basic

/-! The characters of number texts: digits, signs, a point and an exponent mark. -/
namespace IndexFeed

/-- The characters that number texts are made of. -/
def Number.inText (c : Char) : Bool := c.isDigit || c ∈ ['-', '+', '.', 'e']

private theorem inText_of_digit {c : Char} (h : c.isDigit = true) : Number.inText c = true := by
  simp [Number.inText, h]

private theorem Number.inText_toDigits (n : Nat) : ∀ c ∈ Nat.toDigits 10 n, Number.inText c = true :=
  fun _ hc => inText_of_digit (Nat.isDigit_of_mem_toDigits (by decide) (by decide) hc)

namespace Decimal

private theorem inText_zero : Number.inText '0' = true := by decide

private theorem inText_replicate (n : Nat) : ∀ c ∈ List.replicate n '0', Number.inText c = true := by
  intro c hc
  rw [List.eq_of_mem_replicate hc]
  exact inText_zero

private theorem inText_plain (digits : List Char) (first : Int)
    (h : ∀ c ∈ digits, Number.inText c = true) :
    ∀ c ∈ plain digits first, Number.inText c = true := by
  have hpoint : Number.inText '.' = true := by decide
  intro c hc
  unfold plain at hc
  split at hc
  · simp only [List.cons_append, List.mem_cons, List.mem_append] at hc
    rcases hc with rfl | rfl | hc | hc
    · exact inText_zero
    · exact hpoint
    · exact inText_replicate _ c hc
    · exact h c hc
  · simp only [List.mem_append, List.mem_cons] at hc
    rcases hc with (hc | hc) | rfl | hc
    · exact h c (List.mem_of_mem_take hc)
    · exact inText_replicate _ c hc
    · exact hpoint
    · split at hc
      · rw [List.mem_singleton.mp hc]
        exact inText_zero
      · exact h c (List.mem_of_mem_drop hc)

private theorem inText_scientific (digits : List Char) (first : Int)
    (h : ∀ c ∈ digits, Number.inText c = true) :
    ∀ c ∈ scientific digits first, Number.inText c = true := by
  have hmark : ∀ c ∈ ['.', 'e', '-', '+'], Number.inText c = true :=
    List.all_eq_true.mp (by decide)
  intro c hc
  simp only [scientific, List.mem_append, List.mem_cons] at hc
  rcases hc with hc | rfl | rfl | hc
  · split at hc
    · simp at hc
    · exact h c hc
    · simp only [List.mem_cons] at hc
      rcases hc with rfl | rfl | hc
      · exact h _ (by simp)
      · exact hmark '.' (by simp)
      · exact h c (by simp [hc])
  · exact hmark 'e' (by simp)
  · split
    · exact hmark '-' (by simp)
    · exact hmark '+' (by simp)
  · exact Number.inText_toDigits _ c hc

private theorem text_ne_nil (layout : Layout) (x : Decimal) : x.text layout ≠ [] := by
  simp only [text, plain, scientific]
  split
  · split <;> simp
  · simp

private theorem inText_text (layout : Layout) (x : Decimal) :
    ∀ c ∈ x.text layout, Number.inText c = true := by
  unfold text
  simp only
  split
  · exact inText_plain _ _ (Number.inText_toDigits x.digits)
  · exact inText_scientific _ _ (Number.inText_toDigits x.digits)

end Decimal

namespace Number

theorem chars_ne_nil (n : Number) : n.chars ≠ [] := by
  cases n with
  | integer value =>
    simp only [chars]
    split <;> simp
  | double negative magnitude =>
    simp only [chars]
    split
    · simp
    · exact Decimal.text_ne_nil _ _

/-- A number's text has only digits, signs, points and exponent marks. -/
theorem inText_chars (n : Number) : ∀ c ∈ n.chars, inText c = true := by
  have hminus : inText '-' = true := by decide
  intro c hc
  cases n with
  | integer value =>
    simp only [chars] at hc
    split at hc
    · rcases List.mem_cons.mp hc with rfl | hc
      · exact hminus
      · exact inText_toDigits _ c hc
    · exact inText_toDigits _ c hc
  | double negative magnitude =>
    simp only [chars] at hc
    split at hc
    · rcases List.mem_cons.mp hc with rfl | hc
      · exact hminus
      · exact Decimal.inText_text _ _ c hc
    · exact Decimal.inText_text _ _ c hc

end Number
end IndexFeed
