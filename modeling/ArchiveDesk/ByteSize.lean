import ArchiveDesk.Number.Binary64

/-!
# Readable byte counts

A byte count is shown as it is below 1024. A larger one is made a binary number and divided by
1024, as long as it is at least that and a larger unit is left; what remains is shown with two
decimals.
-/

namespace ArchiveDesk

/-- The units in which a byte count is shown. -/
inductive ByteUnit where
  | bytes
  | kilobytes
  | megabytes
  | gigabytes
  deriving DecidableEq, Repr

/-- The unit's abbreviation. -/
def ByteUnit.symbol : ByteUnit → String
  | bytes => "B"
  | kilobytes => "KB"
  | megabytes => "MB"
  | gigabytes => "GB"

namespace ByteSize

open Number (Binary64)

/-- The binary number 1024, by which a unit exceeds the one before it. -/
def ratio : Binary64 := ⟨false, Nat.pow 2 52, -42⟩

/-- The units after bytes, each of them larger than the one before. -/
def largerUnits : List ByteUnit := [.kilobytes, .megabytes, .gigabytes]

/-- Brings a number of units to the largest of them that it fills, or to the last of the units
that are left. `none` stands for a number that is too large. -/
def reduce? (x : Binary64) (unit : ByteUnit) : List ByteUnit → Option (Binary64 × ByteUnit)
  | [] => some (x, unit)
  | larger :: rest =>
    if ratio.le x then x.div? ratio >>= (reduce? · larger rest) else some (x, unit)

/-- A count as a binary number of its unit. -/
def reduced? (count : Nat) : Option (Binary64 × ByteUnit) :=
  Binary64.ofNat? count >>= (reduce? · .bytes largerUnits)

/-- A number in hundredths, rounded to a whole number of them. -/
def hundredths (x : Binary64) : Nat := Number.nearest (100 * x.num) x.den

/-- A number of hundredths as a decimal with two places. -/
def decimals (n : Nat) : String :=
  let cents := n % 100
  toString (n / 100) ++ "." ++ (if cents < 10 then "0" else "") ++ toString cents

/-- The text shown for a byte count. A count that is no more than bytes is shown as it is, and so
is one beyond all binary numbers. -/
def text (count : Nat) : String :=
  match reduced? count with
  | none | some (_, .bytes) => toString count ++ " " ++ ByteUnit.bytes.symbol
  | some (x, unit) => decimals (hundredths x) ++ " " ++ unit.symbol

end ByteSize

end ArchiveDesk
