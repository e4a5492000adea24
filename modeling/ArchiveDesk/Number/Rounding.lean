/-!
# Rounding to the nearest, ties to even

Quotients of natural numbers are rounded to whole numbers. An exact tie goes to the
even neighbour.
-/

namespace ArchiveDesk.Number

/-- The whole number nearest to `num / den`; a tie goes to the even neighbour. -/
def nearest (num den : Nat) : Nat :=
  let low := num / den
  let rest := num % den
  if 2 * rest < den then low
  else if den < 2 * rest then low + 1
  else if low % 2 = 0 then low
  else low + 1

/-- The count of binary digits of a natural number; zero has none. -/
def bitLength (n : Nat) : Nat := if n = 0 then 0 else n.log2 + 1

end ArchiveDesk.Number
