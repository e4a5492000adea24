import ArchiveDesk.Number.Word

/-!
# Paging through a list

A pager holds a page size and a current page, both numbers of 64 bits and at
least one. The current page is not bounded by the list: a page past the end is
empty.
-/

namespace ArchiveDesk

/-- A page size and a current page. -/
structure Pager where
  /-- How many items a page holds. -/
  size : Nat
  /-- The current page, counted from one. -/
  current : Nat
  one_le_size : 1 ≤ size := by omega
  size_lt : size < Number.wordLimit := by decide
  one_le_current : 1 ≤ current := by omega
  current_lt : current < Number.wordLimit := by decide

namespace Pager

/-- The page sizes that the operator may choose. -/
def offeredSizes : List Nat := [10, 25, 50, 100]

/-- How many page numbers are shown at most. -/
def maxVisible : Nat := 5

/-- The pager of a new list: ten items a page, at the first page. -/
def initial : Pager := { size := 10, current := 1 }

instance : Inhabited Pager := ⟨initial⟩

/-- A page number or size as it is taken: at least one, and within 64 bits. -/
def clamp (n : Nat) : Nat := max 1 (min n Number.wordMax)

private theorem one_le_clamp (n : Nat) : 1 ≤ clamp n := Nat.le_max_left ..

private theorem clamp_lt (n : Nat) : clamp n < Number.wordLimit := by
  simp only [clamp, Number.wordMax, Number.wordLimit, Nat.pow_eq]
  omega

/-- Turns to a page; page zero counts as the first. -/
def setPage (p : Pager) (page : Nat) : Pager :=
  { p with
    current := clamp page
    one_le_current := one_le_clamp page
    current_lt := clamp_lt page }

/-- Chooses a page size, and goes back to the first page. -/
def setSize (_ : Pager) (size : Nat) : Pager where
  size := clamp size
  current := 1
  one_le_size := one_le_clamp size
  size_lt := clamp_lt size

/-- The positions of the current page in a list of a given length: the first, and
the one after the last. `none` stands for a difference below zero. -/
def window? (p : Pager) (count : Nat) : Option (Nat × Nat) := do
  let before ← Number.sub? p.current 1
  let start := Number.saturatingMul before p.size
  let stop := min (Number.saturatingAdd start p.size) count
  return if count ≤ start then (0, 0) else (start, stop)

/-- The positions of the current page; none in place of a difference below zero. -/
def window (p : Pager) (count : Nat) : Nat × Nat := (p.window? count).getD (0, 0)

/-- The items from one position up to another, if these are in order and within
the list. -/
def slice? {α : Type} (items : List α) (start stop : Nat) : Option (List α) :=
  if start ≤ stop ∧ stop ≤ items.length then some ((items.drop start).take (stop - start))
  else none

/-- The items of the current page. `none` stands for a difference below zero, or
for positions that are not in the list. -/
def page? {α : Type} (p : Pager) (items : List α) : Option (List α) := do
  let (start, stop) ← p.window? items.length
  slice? items start stop

/-- The items of the current page; none in place of a failure. -/
def page {α : Type} (p : Pager) (items : List α) : List α := (p.page? items).getD []

/-- How many pages a list of a given length has. -/
def pageCount (p : Pager) (count : Nat) : Nat := (count + p.size - 1) / p.size

/-- The page numbers to show for a list of a given length, with the current page
in their middle where possible. `none` stands for a sum beyond 64 bits, or for a
difference below zero. -/
def visiblePages? (p : Pager) (count : Nat) : Option (List Nat) :=
  let pages := p.pageCount count
  if pages = 0 then some []
  else do
    let width := min maxVisible pages
    let current := min p.current pages
    let first := max (current - width / 2) 1
    let stop ← Number.add? first width
    let last ← Number.sub? stop 1
    let first ← if pages < last
      then Number.add? pages 1 >>= (Number.sub? · width) else some first
    let stop ← Number.add? first width
    return List.range' first (stop - first)

/-- The page numbers to show; none in place of a failure. -/
def visiblePages (p : Pager) (count : Nat) : List Nat := (p.visiblePages? count).getD []

end Pager

end ArchiveDesk
