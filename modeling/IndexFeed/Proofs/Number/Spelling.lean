import Mathlib.Data.List.TakeWhile
import IndexFeed.Json.Reader
import IndexFeed.Proofs.Number.Digits
import IndexFeed.Proofs.Text.Delimited

/-! How numbers are spelled in digits, and that a reader finds the digits again. -/
namespace IndexFeed
open Text (Stops stops_cons)

/-- A number in digits: those before the point, those after it, and those of the exponent, which may be
negative. -/
structure Spelling where
  negative : Bool
  whole : List Char
  fraction : Option (List Char)
  exponent : Option (Bool × List Char)

namespace Spelling

def fractionChars : Option (List Char) → List Char
  | none => []
  | some digits => '.' :: digits

def exponentChars : Option (Bool × List Char) → List Char
  | none => []
  | some (down, digits) => 'e' :: (if down then '-' else '+') :: digits

def chars (s : Spelling) : List Char :=
  (if s.negative then ['-'] else []) ++ s.whole ++ fractionChars s.fraction ++ exponentChars s.exponent

/-- The digits as numbers. -/
def values (digits : List Char) : List Nat := digits.map fun c => c.toNat - 48

/-- The numeral that is spelled. -/
def numeral (s : Spelling) : Numeral where
  negative := s.negative
  whole := values s.whole
  fraction := s.fraction.map values
  exponent := s.exponent.map fun (down, digits) => (down, values digits)

def AllDigits (digits : List Char) : Prop := digits ≠ [] ∧ ∀ c ∈ digits, c.isDigit = true

/-- What the grammar of numbers asks for: digits in each place, and no zero in front of others. -/
structure IsGrammatical (s : Spelling) : Prop where
  whole : AllDigits s.whole
  zero : s.whole.head? = some '0' → s.whole = ['0']
  fraction : ∀ digits ∈ s.fraction, AllDigits digits
  exponent : ∀ e ∈ s.exponent, AllDigits e.2

/-- The characters with which a number could go on. -/
def goesOn (c : Char) : Bool := c.isDigit || c ∈ ['.', 'e', 'E']

open Json (takeDigits readDigits readFraction readExponent readNumeral)

private theorem readDigits_append {digits rest : List Char} (hd : AllDigits digits)
    (hr : Stops Char.isDigit rest) : readDigits (digits ++ rest) = .ok (values digits, rest) := by
  obtain ⟨hne, hall⟩ := hd
  have hstop : rest.takeWhile Char.isDigit = [] ∧ rest.dropWhile Char.isDigit = rest := by
    cases rest with
    | nil => exact ⟨rfl, rfl⟩
    | cons c rest => simp [stops_cons.mp hr]
  have htake : takeDigits (digits ++ rest) = (values digits, rest) := by
    rw [takeDigits, List.takeWhile_append_of_pos hall, List.dropWhile_append_of_pos hall, hstop.1,
      hstop.2, List.append_nil, values]
  obtain ⟨c, more, rfl⟩ := List.exists_cons_of_ne_nil hne
  rw [readDigits, htake]
  rfl

private theorem stops_digits {rest : List Char} (hr : Stops goesOn rest) : Stops Char.isDigit rest := by
  intro c hc
  have := hr c hc
  simp_all [goesOn]

private theorem readExponent_append {exponent : Option (Bool × List Char)} {rest : List Char}
    (he : ∀ e ∈ exponent, AllDigits e.2) (hr : Stops goesOn rest) :
    readExponent (exponentChars exponent ++ rest) =
      .ok (exponent.map fun (down, digits) => (down, values digits), rest) := by
  cases exponent with
  | none =>
    cases rest with
    | nil => rfl
    | cons c rest =>
      have hc : ¬ (c = 'e' ∨ c = 'E') := by
        have := stops_cons.mp hr
        rintro (rfl | rfl) <;> simp [goesOn] at this
      simp [exponentChars, readExponent, hc]
  | some e =>
    obtain ⟨down, digits⟩ := e
    have hread := readDigits_append (he (down, digits) rfl) (stops_digits hr)
    cases down <;> simp [exponentChars, readExponent, hread, Except.map]

private theorem readFraction_append {fraction : Option (List Char)} {rest : List Char}
    (hf : ∀ digits ∈ fraction, AllDigits digits) (hd : Stops Char.isDigit rest)
    (hp : rest.head? ≠ some '.') :
    readFraction (fractionChars fraction ++ rest) = .ok (fraction.map values, rest) := by
  cases fraction with
  | none =>
    cases rest with
    | nil => rfl
    | cons c rest =>
      have hc : c ≠ '.' := fun h => hp (by rw [h]; rfl)
      simp [fractionChars, readFraction, hc]
  | some digits =>
    rw [fractionChars, List.cons_append, readFraction, readDigits_append (hf digits rfl) hd]
    rfl

private theorem head_exponent {exponent : Option (Bool × List Char)} {rest : List Char}
    (hr : Stops goesOn rest) {c : Char} (hc : (exponentChars exponent ++ rest).head? = some c) :
    c.isDigit = false ∧ c ≠ '.' := by
  cases exponent with
  | none =>
    have := hr c (by simpa [exponentChars] using hc)
    simp_all [goesOn]
  | some e =>
    obtain rfl : 'e' = c := by simpa [exponentChars] using hc
    decide

private theorem stops_fraction (fraction : Option (List Char)) {rest : List Char}
    (hr : Stops Char.isDigit rest) : Stops Char.isDigit (fractionChars fraction ++ rest) := by
  cases fraction with
  | none => simpa [fractionChars] using hr
  | some digits => exact stops_cons.mpr (by decide)

private theorem values_whole {whole : List Char} (hd : AllDigits whole)
    (hz : whole.head? = some '0' → whole = ['0']) :
    ¬ ((values whole).head? = some 0 ∧ values whole ≠ [0]) := by
  rintro ⟨hfirst, hmore⟩
  obtain ⟨hne, hall⟩ := hd
  obtain ⟨c, more, rfl⟩ := List.exists_cons_of_ne_nil hne
  have hvalue : c.toNat - 48 = 0 := by simpa [values] using hfirst
  have hrange := Text.digit_range (hall c List.mem_cons_self)
  have hc : c = '0' := Char.toNat_inj.mp (show c.toNat = 48 by omega)
  rw [hz (by rw [hc]; rfl)] at hmore
  exact hmore rfl

private theorem head_whole {whole : List Char} (hd : AllDigits whole) :
    ∃ c more, whole = c :: more ∧ c ≠ '-' := by
  obtain ⟨hne, hall⟩ := hd
  obtain ⟨c, more, rfl⟩ := List.exists_cons_of_ne_nil hne
  refine ⟨c, more, rfl, ?_⟩
  rintro rfl
  exact absurd (hall '-' List.mem_cons_self) (by decide)

/-- A reader of numerals takes what is spelled, and nothing of what follows. -/
theorem readNumeral_chars {s : Spelling} (h : s.IsGrammatical) {rest : List Char}
    (hr : Stops goesOn rest) : readNumeral (s.chars ++ rest) = .ok (s.numeral, rest) := by
  obtain ⟨negative, whole, fraction, exponent⟩ := s
  obtain ⟨hwhole, hzero, hfraction, hexponent⟩ := h
  have hlast := readExponent_append hexponent hr
  have hdigit : Stops Char.isDigit (exponentChars exponent ++ rest) :=
    fun c hc => (head_exponent hr hc).1
  have hpoint : (exponentChars exponent ++ rest).head? ≠ some '.' :=
    fun hc => (head_exponent hr hc).2 rfl
  have hmiddle := readFraction_append hfraction hdigit hpoint
  have hfirst := readDigits_append hwhole (stops_fraction fraction hdigit)
  have hvalues := values_whole hwhole hzero
  have hchars : chars ⟨negative, whole, fraction, exponent⟩ ++ rest =
      (if negative then ['-'] else []) ++
        (whole ++ (fractionChars fraction ++ (exponentChars exponent ++ rest))) := by
    simp [chars]
  rw [hchars]
  cases negative with
  | true =>
    simp only [if_true, List.cons_append, List.nil_append, readNumeral, hfirst]
    simp only [bind, Except.bind, if_neg hvalues, hmiddle, hlast]
    rfl
  | false =>
    obtain ⟨c, more, rfl, hc⟩ := head_whole hwhole
    rw [List.cons_append] at hfirst ⊢
    simp only [Bool.false_eq_true, if_false, List.nil_append, readNumeral, List.cons.injEq, hc,
      false_and, imp_self, implies_true, hfirst]
    simp only [bind, Except.bind, if_neg hvalues, hmiddle, hlast]
    rfl

private theorem allDigits_zero : AllDigits ['0'] :=
  ⟨List.cons_ne_nil _ _, List.forall_mem_singleton.mpr rfl⟩

private theorem allDigits_toDigits (n : Nat) : AllDigits (Nat.toDigits 10 n) :=
  ⟨Nat.toDigits_ne_nil, fun _ hc => Nat.isDigit_of_mem_toDigits (by decide) (by decide) hc⟩

end Spelling

namespace Decimal
open Spelling (AllDigits allDigits_zero allDigits_toDigits)

/-- The spelling in plain notation. -/
def plainSpelling (negative : Bool) (digits : List Char) (first : Int) : Spelling :=
  if first < 0 then
    ⟨negative, ['0'], some (List.replicate (-first - 1).toNat '0' ++ digits), none⟩
  else
    let whole := first.toNat + 1
    let fraction := digits.drop whole
    ⟨negative, digits.take whole ++ List.replicate (whole - digits.length) '0',
      some (if fraction.isEmpty then ['0'] else fraction), none⟩

/-- The spelling in scientific notation. -/
def scientificSpelling (negative : Bool) (digits : List Char) (first : Int) : Spelling :=
  ⟨negative, digits.take 1, if digits.length ≤ 1 then none else some (digits.drop 1),
    some (decide (first < 0), Nat.toDigits 10 first.natAbs)⟩

def spelling (layout : Layout) (negative : Bool) (x : Decimal) : Spelling :=
  let digits := Nat.toDigits 10 x.digits
  let first : Int := x.exponent + digits.length - 1
  if layout.leastPlain ≤ first ∧ first ≤ layout.greatestPlain then plainSpelling negative digits first
  else scientificSpelling negative digits first

/-- The spelling of a decimal is its text behind the sign. -/
theorem chars_spelling (layout : Layout) (negative : Bool) (x : Decimal) :
    (x.spelling layout negative).chars = (if negative then ['-'] else []) ++ x.text layout := by
  rw [spelling, text]
  split
  · rw [plainSpelling, plain]
    split <;> simp [Spelling.chars, Spelling.fractionChars, Spelling.exponentChars]
  · obtain ⟨d, rest, hd⟩ := List.exists_cons_of_ne_nil (Nat.toDigits_ne_nil (n := x.digits) (b := 10))
    cases rest <;> simp [hd, scientificSpelling, scientific, Spelling.chars, Spelling.fractionChars,
      Spelling.exponentChars]

private theorem isDigit_replicate (n : Nat) : ∀ c ∈ List.replicate n '0', c.isDigit = true := by
  intro c hc
  rw [List.eq_of_mem_replicate hc]
  decide

private theorem isGrammatical_plainSpelling (negative : Bool) {digits : List Char} {first : Int}
    (hd : AllDigits digits) (hz : digits.head? = some '0' → digits = ['0'] ∧ first = 0) :
    (plainSpelling negative digits first).IsGrammatical := by
  obtain ⟨hne, hall⟩ := hd
  rw [plainSpelling]
  split
  · have hwhole : AllDigits ['0'] := allDigits_zero
    have hfraction : AllDigits (List.replicate (-first - 1).toNat '0' ++ digits) :=
      ⟨by simp [hne], List.forall_mem_append.mpr ⟨isDigit_replicate _, hall⟩⟩
    exact ⟨hwhole, fun _ => rfl, by simpa using hfraction, by simp⟩
  · obtain ⟨d, rest, rfl⟩ := List.exists_cons_of_ne_nil hne
    refine ⟨⟨by simp, ?_⟩, fun hzero => ?_, ?_, by simp⟩
    · exact List.forall_mem_append.mpr ⟨fun c hc => hall c (List.mem_of_mem_take hc), isDigit_replicate _⟩
    · obtain ⟨hone, rfl⟩ := hz (by simpa using hzero)
      obtain ⟨rfl, rfl⟩ := List.cons.inj hone
      rfl
    · rintro _ ⟨⟩
      split
      · exact allDigits_zero
      · next hmore => exact ⟨by simpa using hmore, fun c hc => hall c (List.mem_of_mem_drop hc)⟩

private theorem isGrammatical_scientificSpelling (negative : Bool) {digits : List Char} (first : Int)
    (hd : AllDigits digits) : (scientificSpelling negative digits first).IsGrammatical := by
  obtain ⟨hne, hall⟩ := hd
  obtain ⟨d, rest, rfl⟩ := List.exists_cons_of_ne_nil hne
  refine ⟨⟨by simp [scientificSpelling], ?_⟩, fun hzero => ?_, ?_, ?_⟩
  · exact fun c hc => hall c (List.mem_of_mem_take hc)
  · obtain rfl : d = '0' := by simpa [scientificSpelling] using hzero
    rfl
  · intro fraction hfraction
    rw [scientificSpelling] at hfraction
    split at hfraction
    · exact nomatch hfraction
    · next hmore =>
      obtain rfl := Option.some.inj hfraction
      exact ⟨by simpa using hmore, fun c hc => hall c (List.mem_of_mem_drop hc)⟩
  · rintro _ ⟨⟩
    exact allDigits_toDigits _

private theorem eq_zero_of_head_toDigits {n : Nat} (h : (Nat.toDigits 10 n).head? = some '0') :
    n = 0 := by
  obtain ⟨hne, hall⟩ := allDigits_toDigits n
  have hself : Text.withoutZeros (Nat.toDigits 10 n) = Nat.toDigits 10 n := by
    rw [← Text.toDigits_ofDigitChars hall, Nat.ofDigitChars_ten_toDigits]
  have hzero : Nat.toDigits 10 n = ['0'] := by
    by_contra hmore
    exact (Text.withoutZeros_eq_self_iff hne).mp hself ⟨h, hmore⟩
  rw [← Nat.ofDigitChars_ten_toDigits (n := n), hzero]
  rfl

/-- A decimal is spelled in the grammar of numbers, if zero has no exponent. -/
theorem isGrammatical_spelling {layout : Layout} (negative : Bool) {x : Decimal}
    (hx : x.digits = 0 → x.exponent = 0) : (x.spelling layout negative).IsGrammatical := by
  have hdigits := allDigits_toDigits x.digits
  rw [spelling]
  split
  · refine isGrammatical_plainSpelling negative hdigits fun hhead => ?_
    have hn := eq_zero_of_head_toDigits hhead
    rw [hn, hx hn]
    exact ⟨rfl, rfl⟩
  · exact isGrammatical_scientificSpelling negative _ hdigits

private theorem ofDigitChars_replicate (m k : Nat) :
    Nat.ofDigitChars 10 (List.replicate k '0') m = m * 10 ^ k := by
  induction k generalizing m with
  | zero => simp
  | succ k ih =>
    rw [List.replicate_succ, Nat.ofDigitChars_cons, ih, Nat.pow_succ]
    change (10 * m + 0) * 10 ^ k = _
    rw [Nat.add_zero, Nat.mul_comm 10 m, Nat.mul_assoc, Nat.mul_comm 10]

private theorem pow_le_of_zeros {n : Nat} (hn : n ≠ 0) :
    10 ^ ((Nat.toDigits 10 n).reverse.takeWhile (· == '0')).length ≤ n := by
  have hdigits := Nat.ofDigitChars_ten_toDigits (n := n)
  generalize Nat.toDigits 10 n = digits at hdigits ⊢
  have hcut := List.takeWhile_append_dropWhile (p := (· == '0')) (l := digits.reverse)
  have hzeros : digits.reverse.takeWhile (· == '0') =
      List.replicate (digits.reverse.takeWhile (· == '0')).length '0' :=
    List.eq_replicate_of_mem fun c hc => by simpa using List.mem_takeWhile_imp hc
  generalize digits.reverse.takeWhile (· == '0') = zeros at hcut hzeros ⊢
  generalize digits.reverse.dropWhile (· == '0') = front at hcut
  have hwhole : digits = front.reverse ++ List.replicate zeros.length '0' := by
    calc digits = (zeros ++ front).reverse := by rw [hcut, List.reverse_reverse]
      _ = front.reverse ++ zeros.reverse := List.reverse_append
      _ = front.reverse ++ List.replicate zeros.length '0' := by
        rw [hzeros, List.reverse_replicate, List.length_replicate]
  rw [hwhole, Nat.ofDigitChars_append, ofDigitChars_replicate] at hdigits
  have hdvd : 10 ^ zeros.length ∣ n := Dvd.intro_left _ hdigits
  exact Nat.le_of_dvd (Nat.pos_of_ne_zero hn) hdvd

private theorem normalize_zero {x : Decimal} (h : x.normalize.digits = 0) : x.normalize.exponent = 0 := by
  rw [normalize] at h ⊢
  split at h
  · next hx => rw [if_pos hx]
  · next hx => exact absurd h (Nat.div_pos (pow_le_of_zeros hx) (Nat.pow_pos (by decide))).ne'

end Decimal

private theorem Double.shortest_zero (x : Double) (h : x.shortest.digits = 0) :
    x.shortest.exponent = 0 := by
  rw [shortest] at h ⊢
  split at h
  · next hz => rw [if_pos hz]
  · next hz =>
    rw [if_neg hz]
    exact Decimal.normalize_zero h

namespace Number

def spelling : Number → Spelling
  | integer value => ⟨decide (value < 0), Nat.toDigits 10 value.natAbs, none, none⟩
  | double negative magnitude => magnitude.shortest.spelling layout negative

/-- The spelling of a number is its text. -/
theorem chars_spelling (n : Number) : n.spelling.chars = n.chars := by
  cases n with
  | integer value =>
    by_cases h : value < 0 <;>
      simp [spelling, Spelling.chars, Spelling.fractionChars, Spelling.exponentChars, chars, h]
  | double negative magnitude =>
    rw [spelling, Decimal.chars_spelling, chars]
    cases negative <;> rfl

/-- Every number is spelled in the grammar of numbers. -/
theorem isGrammatical_spelling (n : Number) : n.spelling.IsGrammatical := by
  cases n with
  | integer value =>
    refine ⟨Spelling.allDigits_toDigits _, fun hzero => ?_, by simp [spelling], by simp [spelling]⟩
    change Nat.toDigits 10 value.natAbs = ['0']
    rw [Decimal.eq_zero_of_head_toDigits hzero]
    rfl
  | double negative magnitude =>
    exact Decimal.isGrammatical_spelling negative magnitude.shortest_zero

private theorem le_ofDigitChars (digits : List Char) (n : Nat) : n ≤ Nat.ofDigitChars 10 digits n := by
  induction digits generalizing n with
  | nil => simp
  | cons c digits ih =>
    rw [Nat.ofDigitChars_cons]
    have hle := ih (10 * n + (c.toNat - '0'.toNat))
    omega

private theorem accumulate_values {limit : Nat} (digits : List Char) (n : Nat)
    (h : Nat.ofDigitChars 10 digits n < limit) :
    Numeral.accumulate limit n (Spelling.values digits) = (Nat.ofDigitChars 10 digits n, []) := by
  induction digits generalizing n with
  | nil => simp [Spelling.values, Numeral.accumulate]
  | cons c digits ih =>
    rw [Nat.ofDigitChars_cons] at h ⊢
    have hvalue : n * 10 + (c.toNat - 48) = 10 * n + (c.toNat - '0'.toNat) := by
      rw [Nat.mul_comm]
      rfl
    have hle := le_ofDigitChars digits (10 * n + (c.toNat - '0'.toNat))
    rw [Spelling.values, List.map_cons, Numeral.accumulate, hvalue, if_pos (by omega)]
    exact ih _ h

/-- A whole number of 64 bits, with a sign or without one. -/
def FitsWord : Number → Prop
  | integer value => -2 ^ 63 ≤ value ∧ value < 2 ^ 64
  | double _ _ => False

/-- A whole number of 64 bits is read again from its digits. -/
theorem value?_numeral {n : Number} (h : n.FitsWord) : n.spelling.numeral.value? = some n := by
  cases n with
  | double _ _ => exact h.elim
  | integer value =>
    obtain ⟨hlow, hhigh⟩ := h
    have hdigits := Nat.ofDigitChars_ten_toDigits (n := value.natAbs)
    have hlimit : value.natAbs < 2 ^ 64 := by omega
    have hwhole : Numeral.below? (Nat.pow 2 64) (Spelling.values (Nat.toDigits 10 value.natAbs)) =
        some value.natAbs := by
      rw [Numeral.below?, accumulate_values _ _ (by rw [hdigits]; exact hlimit), hdigits]
    simp only [Numeral.value?, spelling, Spelling.numeral, Option.map_none, hwhole]
    by_cases hneg : value < 0
    · have hroom : 0 < value.natAbs ∧ value.natAbs ≤ Nat.pow 2 63 := ⟨by omega, by
        change value.natAbs ≤ 2 ^ 63
        omega⟩
      simp only [hneg, decide_true, if_true, hroom, and_self]
      rw [show -(value.natAbs : Int) = value by omega]
    · simp only [hneg, decide_false, Bool.false_eq_true, if_false]
      rw [show (value.natAbs : Int) = value by omega]

end Number
end IndexFeed
