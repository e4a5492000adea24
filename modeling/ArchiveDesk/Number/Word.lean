/-!
# Arithmetic in 64 bits

Unsigned numbers of 64 bits: sums and products that stop at the greatest number,
sums that are refused beyond it, and differences that are refused below zero.
-/

namespace ArchiveDesk.Number

/-- The first number that no longer fits in 64 bits. -/
def wordLimit : Nat := Nat.pow 2 64

/-- The greatest number of 64 bits. -/
def wordMax : Nat := wordLimit - 1

/-- The sum, or the greatest number if it is beyond that. -/
def saturatingAdd (a b : Nat) : Nat := min (a + b) wordMax

/-- The product, or the greatest number if it is beyond that. -/
def saturatingMul (a b : Nat) : Nat := min (a * b) wordMax

/-- The sum, if it fits. -/
def add? (a b : Nat) : Option Nat := if a + b < wordLimit then some (a + b) else none

/-- The difference, if it is not below zero. -/
def sub? (a b : Nat) : Option Nat := if b ≤ a then some (a - b) else none

end ArchiveDesk.Number
