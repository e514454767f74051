import IndexFeed.Number.Double

/-! The numbers of JSON, whole numbers of 64 bits and doubles: the one text of each, and how a written number
is read. Digits past the 64 bits of the significand are dropped. -/
namespace IndexFeed

/-- A number of a JSON value. -/
inductive Number where
  /-- A whole number that fits 64 bits, with or without a sign. -/
  | integer (value : Int)
  /-- Any other number; zero has a sign here too. -/
  | double (negative : Bool) (magnitude : Double)
  deriving DecidableEq, Repr

/-- How a decimal is laid out: plainly while the exponent of its first digit is in this range. -/
structure Decimal.Layout where
  leastPlain : Int
  greatestPlain : Int

def Number.layout : Decimal.Layout := ⟨-5, 15⟩

namespace Decimal

/-- The decimal in plain notation: it always has a fraction. -/
def plain (digits : List Char) (first : Int) : List Char :=
  if first < 0 then
    '0' :: '.' :: List.replicate (-first - 1).toNat '0' ++ digits
  else
    let whole := first.toNat + 1
    let fraction := digits.drop whole
    digits.take whole ++ List.replicate (whole - digits.length) '0' ++
      '.' :: (if fraction.isEmpty then ['0'] else fraction)

/-- The decimal in scientific notation: the exponent always has a sign. -/
def scientific (digits : List Char) (first : Int) : List Char :=
  let mantissa := match digits with
    | [] => []
    | [d] => [d]
    | d :: fraction => d :: '.' :: fraction
  mantissa ++ 'e' :: (if first < 0 then '-' else '+') :: Nat.toDigits 10 first.natAbs

def text (layout : Layout) (x : Decimal) : List Char :=
  let digits := Nat.toDigits 10 x.digits
  let first : Int := x.exponent + digits.length - 1
  if layout.leastPlain ≤ first ∧ first ≤ layout.greatestPlain then plain digits first
  else scientific digits first

end Decimal

namespace Number

def chars : Number → List Char
  | integer value =>
    if value < 0 then '-' :: Nat.toDigits 10 value.natAbs else Nat.toDigits 10 value.natAbs
  | double negative magnitude =>
    let text := magnitude.shortest.text layout
    if negative then '-' :: text else text

def text (n : Number) : String := String.ofList n.chars

end Number

/-- A number as it is written: its digits before the point, after it, and in the exponent. -/
structure Numeral where
  negative : Bool
  whole : List Nat
  fraction : Option (List Nat)
  exponent : Option (Bool × List Nat)
  deriving DecidableEq, Repr

namespace Numeral

/-- Takes digits into a significand while it stays below `limit`; the digits left over remain. -/
def accumulate (limit : Nat) (significand : Nat) : List Nat → Nat × List Nat
  | [] => (significand, [])
  | d :: rest =>
    if significand * 10 + d < limit then accumulate limit (significand * 10 + d) rest
    else (significand, d :: rest)

/-- The number that digits write, or none when it does not stay below `limit`. -/
def below? (limit : Nat) (digits : List Nat) : Option Nat :=
  match accumulate limit 0 digits with
  | (value, []) => some value
  | _ => none

/-- The greatest exponent for which the power of ten is finite. -/
def stride : Nat := 308

/-- The double divided by the greatest power of ten `strides` times and once by `10 ^ rest`, each
quotient rounded; nothing is left to divide once it is zero. -/
def scaleDown (x : Double) : (strides rest : Nat) → Option Double
  | 0, rest => x.div? (Double.powerOfTen rest)
  | strides + 1, rest =>
    if x.isZero then some x
    else (x.div? (Double.powerOfTen stride)).bind fun y => scaleDown y strides rest

/-- `significand * 10 ^ exponent` by one rounded operation; none where that would be infinite. -/
def scale? (significand : Nat) (exponent : Int) : Option Double :=
  match Double.ofNat? significand with
  | none => none
  | some x =>
    if exponent < 0 then
      let strides := (exponent.natAbs - 1) / stride
      scaleDown x strides (exponent.natAbs - strides * stride)
    else if exponent ≤ stride then x.mul? (Double.powerOfTen exponent.toNat)
    else if x.isZero then some x
    else none

/-- The magnitude that the digits of a numeral stand for; none where it is out of range. -/
def magnitude? (numeral : Numeral) : Option Double :=
  let (significand, dropped) := accumulate (Nat.pow 2 64) 0 numeral.whole
  let fraction := numeral.fraction.getD []
  let (significand, ignored) := accumulate (Nat.pow 2 64) significand fraction
  let start : Int := dropped.length - (fraction.length - ignored.length : Nat)
  match numeral.exponent with
  | none => scale? significand start
  | some (down, digits) =>
    match below? (Nat.pow 2 31) digits with
    | some e => scale? significand (if down then start - e else start + e)
    | none => if significand = 0 ∨ down then some Double.zero else none

def value? (numeral : Numeral) : Option Number :=
  let asDouble := numeral.magnitude?.map (Number.double numeral.negative)
  match numeral.fraction, numeral.exponent with
  | none, none =>
    match below? (Nat.pow 2 64) numeral.whole with
    | none => asDouble
    | some n =>
      if numeral.negative then
        if 0 < n ∧ n ≤ Nat.pow 2 63 then some (.integer (-(n : Int))) else asDouble
      else some (.integer n)
  | _, _ => asDouble

end Numeral
end IndexFeed
