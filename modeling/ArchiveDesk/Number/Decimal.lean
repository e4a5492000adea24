import ArchiveDesk.Number.Binary64

/-!
# Decimal texts of binary numbers

Reading: the digits are collected in a 64-bit significand and a power of ten,
and the significand is then scaled by powers of ten that are themselves binary
numbers. Writing: the fewest digits that single the number out, the nearest of
those, positional while the decimal exponent is moderate.
-/

namespace ArchiveDesk.Number

/-- A decimal number in reading: `significand * 10 ^ exponent`. -/
structure Scaled where
  /-- The digits that were collected. -/
  significand : Nat
  /-- The power of ten that they are scaled by. -/
  exponent : Int

namespace Scaled

/-- The first value that no longer fits in 64 bits. -/
def limit : Nat := Nat.pow 2 64

/-- Takes the digits before the point; a digit that no longer fits scales. -/
def whole (digits : List Nat) : Scaled :=
  let rec go (n : Nat) : List Nat → Scaled
    | [] => ⟨n, 0⟩
    | d :: ds =>
      if 10 * n + d < limit then go (10 * n + d) ds
      else ⟨n, ds.length + 1⟩
  go 0 digits

/-- Takes the digits after the point, up to the first that no longer fits. -/
def withFraction (x : Scaled) : List Nat → Scaled
  | [] => x
  | d :: ds =>
    if 10 * x.significand + d < limit then
      withFraction ⟨10 * x.significand + d, x.exponent - 1⟩ ds
    else x

/-- The greatest power of ten that is a binary number. -/
def maxPower : Nat := 308

/-- The binary number nearest to a power of ten. -/
def powerOfTen? (n : Nat) : Option Binary64 := Binary64.ofNat? (Nat.pow 10 n)

/-- Divides by the greatest power of ten a number of times, as long as something
is left. -/
def divideDown? (x : Binary64) : Nat → Option Binary64
  | 0 => some x
  | times + 1 =>
    if x.isZero then some x
    else powerOfTen? maxPower >>= x.div? >>= (divideDown? · times)

/-- Scales by a power of ten, in steps of at most the greatest one. `none` stands
for a number that is too large. -/
def scale? (x : Binary64) (exponent : Int) : Option Binary64 :=
  if x.isZero then some x
  else if 0 ≤ exponent then
    if exponent ≤ maxPower then powerOfTen? exponent.toNat >>= x.mul? else none
  else do
    let down := (-exponent).toNat
    -- The last division is by the rest, which is at most the greatest power.
    let times := (down - 1) / maxPower
    let y ← divideDown? x times
    if y.isZero then return y
    y.div? (← powerOfTen? (down - maxPower * times))

/-- The binary number that is read, if it is finite. -/
def toBinary? (x : Scaled) : Option Binary64 := do
  scale? (← Binary64.ofNat? x.significand) x.exponent

end Scaled

/-- A decimal number in writing: `0.d₁d₂d₃… * 10 ^ point`. -/
structure Digits where
  /-- The digits, of which neither the first nor the last is zero. -/
  digits : List Nat
  /-- The place of the point, counted from before the first digit. -/
  point : Int

namespace Digits

/-- The decimal digits of a natural number. -/
def ofNat (n : Nat) : List Nat := (Nat.toDigits 10 n).map fun c => c.toNat - '0'.toNat

/-- The exponent `p` with `10 ^ (p - 1) ≤ num / den < 10 ^ p`, for a positive
quotient. -/
def pointOf (num den : Nat) : Int :=
  if den ≤ num then ((Nat.toDigits 10 (num / den)).length : Int)
  else
    -- The least shift that brings the quotient to one or more.
    let shift := (Nat.toDigits 10 (den / num)).length
    let shift := if den ≤ num * Nat.pow 10 (shift - 1) then shift - 1 else shift
    1 - (shift : Int)

/-- The multiple of `10 ^ place` nearest to `num / den` that is chosen if it lies
in the rounding interval of the number, whose ends are `low / (2 * den)` and
`high / (2 * den)`. -/
def candidate? (x : Binary64) (point : Int) (count : Nat) : Option Nat :=
  let place : Int := point - count
  let up := Nat.pow 10 place.toNat
  let down := Nat.pow 10 (-place).toNat
  -- The number, and half the distances to its neighbours, all over `4 * den`.
  let value := 4 * x.num
  let above := 2 * Binary64.powerNum x.exponent
  let below :=
    if x.significand = Nat.pow 2 52 ∧ Binary64.minExponent < x.exponent
    then Binary64.powerNum x.exponent else above
  let base := 4 * x.den
  let even := x.significand % 2 = 0
  let inside (n : Nat) : Bool :=
    let lhs := n * up * base
    let low := (value - below) * down
    let high := (value + above) * down
    if even then low ≤ lhs && lhs ≤ high else low < lhs && lhs < high
  let floor := value * down / (base * up)
  let rest := value * down % (base * up)
  let first := if 2 * rest < base * up ∨ (2 * rest = base * up ∧ floor % 2 = 0)
    then floor else floor + 1
  let second := if first = floor then floor + 1 else floor
  if inside first then some first
  else if inside second then some second
  else none

/-- Drops the zeros at the end. -/
def dropZeros (ds : List Nat) : List Nat := (ds.reverse.dropWhile (· == 0)).reverse

/-- The shortest digits that single a positive number out among all binary
numbers; of several, the nearest. Seventeen digits always do. -/
def shortest (x : Binary64) : Digits :=
  let point := pointOf x.num x.den
  let attempt (count : Nat) : Option Digits :=
    (candidate? x point count).map fun n =>
      let ds := ofNat n
      -- Rounding up may have carried into a new leading digit.
      ⟨dropZeros ds, point + ds.length - count⟩
  ((List.range' 1 17).findSome? attempt).getD ⟨[], 0⟩

/-- The text of digits. -/
def text (ds : List Nat) : String := String.join (ds.map toString)

end Digits

namespace Binary64

/-- The text of the number: positional with at least one decimal while the
decimal exponent lies between -5 and 15, and otherwise with a signed exponent. -/
def text (x : Binary64) : String :=
  let sign := if x.negative then "-" else ""
  if x.isZero then sign ++ "0.0"
  else
    let d := Digits.shortest x
    let exponent := d.point - 1
    if -5 ≤ exponent ∧ exponent ≤ 15 then
      if d.point ≤ 0 then
        sign ++ "0." ++ Digits.text (List.replicate (-d.point).toNat 0 ++ d.digits)
      else
        let count := d.point.toNat
        let whole := d.digits.take count ++ List.replicate (count - d.digits.length) 0
        let fraction := d.digits.drop count
        sign ++ Digits.text whole ++ "." ++
          Digits.text (if fraction.isEmpty then [0] else fraction)
    else
      let mantissa := match d.digits with
        | [] => "0"
        | [lead] => toString lead
        | lead :: rest => toString lead ++ "." ++ Digits.text rest
      sign ++ mantissa ++ "e" ++ (if exponent < 0 then "-" else "+") ++ toString exponent.natAbs

end Binary64

end ArchiveDesk.Number
