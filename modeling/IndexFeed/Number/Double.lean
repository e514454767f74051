/-! Finite double-precision numbers without a sign: the rounding of a ratio to the nearest one, and the
shortest decimal that rounds to one, the nearest to it among those. -/
namespace IndexFeed

/-- The number `significand * 2 ^ exponent`. Rounding gives the form with the least exponent that is
at least -1074 and leaves the significand below `2 ^ 53`. -/
structure Double where
  significand : Nat
  exponent : Int
  deriving DecidableEq, Repr

namespace Double

def zero : Double := ⟨0, -1074⟩

/-- A number of the form `numerator / denominator * 2 ^ exponent`, as a ratio of naturals. -/
def scaled (numerator denominator : Nat) (exponent : Int) : Nat × Nat :=
  if 0 ≤ exponent then (numerator * Nat.pow 2 exponent.toNat, denominator)
  else (numerator, denominator * Nat.pow 2 (-exponent).toNat)

/-- The whole number nearest to a ratio; a half goes to the even neighbour. -/
def roundHalfEven (numerator denominator : Nat) : Nat :=
  let whole := numerator / denominator
  let rest := numerator % denominator
  if 2 * rest < denominator then whole
  else if denominator < 2 * rest then whole + 1
  else if whole % 2 = 0 then whole else whole + 1

/-- The exponent of the greatest power of two that is at most the ratio of two positive numbers. -/
def floorLog2 (numerator denominator : Nat) : Int :=
  let guess : Int := numerator.log2 - denominator.log2
  let (n, d) := scaled numerator denominator (-guess)
  if n < d then guess - 1 else guess

/-- The double nearest to a ratio; none where that would be infinite. -/
def ofRatio? (numerator denominator : Nat) : Option Double :=
  if numerator = 0 then some zero
  else
    let exponent := max (-1074) (floorLog2 numerator denominator - 52)
    let (n, d) := scaled numerator denominator (-exponent)
    let significand := roundHalfEven n d
    let rounded : Double :=
      if significand = Nat.pow 2 53 then ⟨Nat.pow 2 52, exponent + 1⟩ else ⟨significand, exponent⟩
    if 971 < rounded.exponent then none else some rounded

def ratio (x : Double) : Nat × Nat := scaled x.significand 1 x.exponent

def isZero (x : Double) : Bool := x.significand == 0

/-- The double nearest to a natural number; none where that would be infinite. -/
def ofNat? (n : Nat) : Option Double := ofRatio? n 1

/-- The double nearest to a power of ten; zero where that would be infinite. -/
def powerOfTen (exponent : Nat) : Double := (ofNat? (Nat.pow 10 exponent)).getD zero

/-- The rounded product; none where it would be infinite. -/
def mul? (x y : Double) : Option Double :=
  ofRatio? (x.ratio.1 * y.ratio.1) (x.ratio.2 * y.ratio.2)

/-- The rounded quotient; none where it would be infinite. -/
def div? (x y : Double) : Option Double :=
  ofRatio? (x.ratio.1 * y.ratio.2) (x.ratio.2 * y.ratio.1)

end Double

/-- The number `digits * 10 ^ exponent`. -/
structure Decimal where
  digits : Nat
  exponent : Int
  deriving DecidableEq, Repr

namespace Decimal

/-- A number `numerator / denominator * 10 ^ exponent`, as a ratio of naturals. -/
def scaled (numerator denominator : Nat) (exponent : Int) : Nat × Nat :=
  if 0 ≤ exponent then (numerator * Nat.pow 10 exponent.toNat, denominator)
  else (numerator, denominator * Nat.pow 10 (-exponent).toNat)

/-- The exponent of the greatest power of ten that is at most the ratio of two positive numbers. -/
def floorLog10 (numerator denominator : Nat) : Int :=
  let guess : Int :=
    (Nat.toDigits 10 numerator).length - (Nat.toDigits 10 denominator).length
  let (n, d) := scaled numerator denominator (-guess)
  if n < d then guess - 1 else guess

/-- Moves the zeros at the end of the digits into the exponent. -/
def normalize (x : Decimal) : Decimal :=
  let zeros := ((Nat.toDigits 10 x.digits).reverse.takeWhile (· == '0')).length
  if x.digits = 0 then ⟨0, 0⟩ else ⟨x.digits / Nat.pow 10 zeros, x.exponent + zeros⟩

end Decimal

namespace Double

/-- The reals that round to a double, in quarters of its unit `2 ^ exponent`: the two ends of the
interval and whether the ends belong to it. -/
def interval (x : Double) : Nat × Nat × Bool :=
  let atBinade := x.significand == Nat.pow 2 52 && decide (-1074 < x.exponent)
  (4 * x.significand - (if atBinade then 1 else 2), 4 * x.significand + 2, x.significand % 2 == 0)

/-- Whether a decimal rounds to the double. -/
def admits (x : Double) (candidate : Decimal) : Bool :=
  let (low, high, closed) := x.interval
  let (n, d) := Decimal.scaled candidate.digits 1 candidate.exponent
  let (n, d) := Double.scaled (4 * n) d (-x.exponent)
  if closed then low * d ≤ n && n ≤ high * d else low * d < n && n < high * d

/-- The decimal with `count` digits that is nearest to the double among those that round to it; of two
at one distance the one whose digits are even. -/
def nearest? (x : Double) (count : Nat) : Option Decimal :=
  let (n, d) := x.ratio
  let exponent := Decimal.floorLog10 n d - (count - 1 : Nat)
  let (n, d) := Decimal.scaled n d (-exponent)
  let below := n / d
  let rest := n % d
  let low : Decimal := ⟨below, exponent⟩
  let high : Decimal := ⟨below + 1, exponent⟩
  match x.admits low, x.admits high with
  | true, true =>
    if 2 * rest < d || (2 * rest == d && below % 2 == 0) then some low else some high
  | true, false => some low
  | false, true => some high
  | false, false => none

/-- The shortest decimal that rounds to the double, without zeros at its end. -/
def shortest (x : Double) : Decimal :=
  if x.isZero then ⟨0, 0⟩
  else (((List.range 17).findSome? fun count => x.nearest? (count + 1)).getD ⟨0, 0⟩).normalize

end Double
end IndexFeed
