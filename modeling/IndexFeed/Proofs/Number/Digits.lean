import Mathlib.Data.List.Induction
import Mathlib.Data.Nat.Digits.Defs
import IndexFeed.Json.Basic

/-! Digits, the number they stand for, and the digits written again from it. -/
namespace IndexFeed.Text

theorem isDigit_iff (c : Char) : c.isDigit = true ↔ '0' ≤ c ∧ c ≤ '9' := by
  rw [Char.isDigit, Bool.and_eq_true, decide_eq_true_eq, decide_eq_true_eq]
  rfl

/-- The number that digits stand for, each of them counting ten times as much as the next one. -/
def decimal (digits : List Char) : Nat :=
  Nat.ofDigits 10 (digits.reverse.map fun c => c.toNat - '0'.toNat)

/-- What digits write, by place value. -/
theorem ofDigitChars_eq_decimal (digits : List Char) :
    Nat.ofDigitChars 10 digits 0 = decimal digits := by
  induction digits using List.reverseRecOn with
  | nil => rfl
  | append_singleton digits c ih =>
    rw [Nat.ofDigitChars_append, ih, decimal, decimal, List.reverse_append, List.reverse_singleton,
      List.singleton_append, List.map_cons, Nat.ofDigits_cons, Nat.ofDigitChars_cons,
      Nat.ofDigitChars_nil, Nat.add_comm]

/-- Digits without the zeros in front of them; one digit always stays. -/
def withoutZeros (digits : List Char) : List Char :=
  match digits.dropWhile (· == '0') with
  | [] => ['0']
  | rest => rest

/-- The codes of digits. -/
theorem digit_range {c : Char} (h : c.isDigit = true) : 48 ≤ c.toNat ∧ c.toNat ≤ 57 := by
  simpa [Char.isDigit, UInt32.le_iff_toNat_le] using h

private theorem toDigits_digit {c : Char} (h : c.isDigit = true) :
    Nat.toDigits 10 (c.toNat - '0'.toNat) = [c] := by
  obtain ⟨hlow, hhigh⟩ := digit_range h
  change Nat.toDigits 10 (c.toNat - 48) = [c]
  rw [Nat.toDigits_of_lt_base (by omega), List.singleton_inj]
  apply Char.toNat_inj.mp
  rw [Nat.toNat_digitChar_of_lt_ten (by omega)]
  omega

private theorem toDigits_append {digits : List Char} (h : ∀ c ∈ digits, c.isDigit = true) {n : Nat}
    (hpositive : 0 < n) :
    Nat.toDigits 10 (Nat.ofDigitChars 10 digits n) = Nat.toDigits 10 n ++ digits := by
  induction digits generalizing n with
  | nil => simp
  | cons c digits ih =>
    obtain ⟨hdigit, hlater⟩ := List.forall_mem_cons.mp h
    have hsmall : c.toNat - '0'.toNat < 10 := by
      have hrange := digit_range hdigit
      change c.toNat - 48 < 10
      omega
    rw [Nat.ofDigitChars_cons, ih hlater (by omega),
      ← Nat.toDigits_append_toDigits (by decide) hpositive hsmall, toDigits_digit hdigit,
      List.append_assoc, List.singleton_append]

/-- Digits are written again as they were, but for the zeros in front. -/
theorem toDigits_ofDigitChars {digits : List Char} (h : ∀ c ∈ digits, c.isDigit = true) :
    Nat.toDigits 10 (Nat.ofDigitChars 10 digits 0) = withoutZeros digits := by
  induction digits with
  | nil => rfl
  | cons c digits ih =>
    obtain ⟨hdigit, hlater⟩ := List.forall_mem_cons.mp h
    by_cases hzero : c = '0'
    · subst hzero
      exact ih hlater
    · have hpositive : 0 < c.toNat - '0'.toNat := by
        have hrange := digit_range hdigit
        have hother : c.toNat ≠ 48 := fun hsame => hzero (Char.toNat_inj.mp hsame)
        change 0 < c.toNat - 48
        omega
      have hstays : withoutZeros (c :: digits) = c :: digits := by
        simp [withoutZeros, hzero]
      rw [Nat.ofDigitChars_cons, Nat.mul_zero, Nat.zero_add, toDigits_append hlater hpositive,
        toDigits_digit hdigit, hstays, List.singleton_append]

/-- A digit string without zeros to leave out: a zero alone, or one that starts with another digit. -/
theorem withoutZeros_eq_self_iff {digits : List Char} (hgiven : digits ≠ []) :
    withoutZeros digits = digits ↔ ¬ (digits.head? = some '0' ∧ digits ≠ ['0']) := by
  obtain ⟨c, digits, rfl⟩ := List.exists_cons_of_ne_nil hgiven
  by_cases hzero : c = '0'
  · subst hzero
    have hshorter : (digits.dropWhile (· == '0')).length ≤ digits.length :=
      (List.dropWhile_suffix _).length_le
    have hskipped : withoutZeros ('0' :: digits) = withoutZeros digits := rfl
    rw [hskipped, withoutZeros]
    cases hleft : digits.dropWhile (· == '0') with
    | nil => simp [eq_comm]
    | cons d rest =>
      rw [hleft] at hshorter
      have hdiffer : d :: rest ≠ '0' :: digits := by
        intro hsame
        rw [hsame] at hshorter
        exact Nat.not_succ_le_self _ hshorter
      have hmore : digits ≠ [] := fun hnone => by simp [hnone] at hleft
      simpa [hdiffer] using hmore
  · simp [withoutZeros, hzero]

end IndexFeed.Text
