import ArchiveDesk.Number.Rounding

/-!
# Finite binary numbers of double precision

A number is written as a sign, a whole significand and an exponent of two, which by
themselves may be any. Arithmetic is exact and then rounded to the nearest number,
ties to even, whose significand is below 2^53 and whose exponent lies between the
least and the greatest one; of the forms of that number it gives the one with the
largest significand.
-/

namespace ArchiveDesk.Number

/-- The number `± significand * 2 ^ exponent`. A value has many of these forms, of which
arithmetic gives one. -/
structure Binary64 where
  /-- Whether the sign is a minus. -/
  negative : Bool
  /-- The digits of the number. -/
  significand : Nat
  /-- The power of two that the significand is scaled by. -/
  exponent : Int
  deriving DecidableEq, Repr

namespace Binary64

/-- The least exponent. -/
def minExponent : Int := -1074

/-- The greatest exponent of a finite number. -/
def maxExponent : Int := 971

/-- Zero. -/
def zero : Binary64 := ⟨false, 0, minExponent⟩

/-- Whether the number is zero, of either sign. -/
def isZero (x : Binary64) : Bool := x.significand == 0

/-- The same number with the opposite sign. -/
def neg (x : Binary64) : Binary64 := { x with negative := !x.negative }

/-- The numerator of `2 ^ e`. -/
def powerNum (e : Int) : Nat := Nat.pow 2 e.toNat

/-- The denominator of `2 ^ e`. -/
def powerDen (e : Int) : Nat := Nat.pow 2 (-e).toNat

/-- The exponent at which the positive quotient `num / den` has 53 digits before
the binary point, unless that lies below the least exponent. -/
def scaleOf (num den : Nat) : Int :=
  let guess : Int := (bitLength num : Int) - bitLength den - 53
  let fits (e : Int) : Bool := num * powerDen e < Nat.pow 2 53 * (den * powerNum e)
  max minExponent (if fits guess then guess else guess + 1)

/-- The number nearest to `num / den`, a tie going to the even significand;
`none` if that lies beyond the greatest finite number. -/
def ofQuotient? (negative : Bool) (num den : Nat) : Option Binary64 :=
  if num = 0 then some ⟨negative, 0, minExponent⟩
  else
    let e := scaleOf num den
    let m := nearest (num * powerDen e) (den * powerNum e)
    let (m, e) := if m = Nat.pow 2 53 then (Nat.pow 2 52, e + 1) else (m, e)
    if e ≤ maxExponent then some ⟨negative, m, e⟩ else none

/-- The number nearest to a natural number. -/
def ofNat? (n : Nat) : Option Binary64 := ofQuotient? false n 1

/-- The numerator of the number's absolute value. -/
def num (x : Binary64) : Nat := x.significand * powerNum x.exponent

/-- The denominator of the number's absolute value. -/
def den (x : Binary64) : Nat := powerDen x.exponent

/-- The numerator of the number, with its sign. -/
def signedNum (x : Binary64) : Int := if x.negative then -(x.num : Int) else x.num

/-- Whether the number is at most another one. -/
def le (x y : Binary64) : Bool := x.signedNum * y.den ≤ y.signedNum * x.den

/-- The rounded product of two numbers, if it is finite. -/
def mul? (x y : Binary64) : Option Binary64 :=
  ofQuotient? (x.negative != y.negative) (x.num * y.num) (x.den * y.den)

/-- The rounded quotient of two numbers, if it is finite; the divisor is not
zero. -/
def div? (x y : Binary64) : Option Binary64 :=
  ofQuotient? (x.negative != y.negative) (x.num * y.den) (x.den * y.num)

/-- The number as an integer, if it is one. -/
def toInt? (x : Binary64) : Option Int :=
  if x.num % x.den = 0 then
    let n : Int := x.num / x.den
    some (if x.negative then -n else n)
  else none

end Binary64

end ArchiveDesk.Number
