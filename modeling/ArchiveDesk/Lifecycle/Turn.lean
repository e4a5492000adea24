import ArchiveDesk.Lifecycle.View

/-!
# Turning pages

What the pager below a lifecycle table offers: page sizes, a step back, the page
numbers shown, and a step forth.
-/

namespace ArchiveDesk.Lifecycle

/-- A click on the pager. -/
inductive Turn where
  /-- Chooses a page size. -/
  | size (n : Nat)
  | previous
  /-- Turns to a page number. -/
  | number (n : Nat)
  | next
  deriving DecidableEq, Repr

namespace View

/-- Whether the pager offers a click. -/
def offers (v : View) : Turn → Bool
  | .size n => Pager.offeredSizes.contains n
  | .previous => 1 < v.pager.current
  | .number n => v.visiblePages.contains n
  | .next => v.pager.current < v.pageCount

/-- The page that a click leads to. `none` stands for a difference below zero, or for
a sum beyond 64 bits. -/
def destination? (v : View) : Turn → Option Nat
  | .size n => some (if n = v.pager.size then v.pager.current else 1)
  | .previous => Number.sub? v.pager.current 1
  | .number n => some n
  | .next => Number.add? v.pager.current 1

/-- The view after a click on the pager. Choosing the present size changes
nothing, and neither does a failure. -/
def turn (v : View) (t : Turn) : View :=
  match t with
  | .size n => if n = v.pager.size then v else v.setPageSize n
  | .previous | .number _ | .next => ((v.destination? t).map v.setPage).getD v

/-- What can happen to an open view. -/
inductive Use where
  /-- A click on the pager. -/
  | turn (t : Turn)
  /-- A lookup has its result. Its events are a list in memory, with a length of 64
  bits. -/
  | result (r : Result) (inMemory : r.events.length < Number.wordLimit)

/-- The view after a use. What the pager does not offer cannot be clicked. -/
def after (v : View) : Use → View
  | .turn t => if v.offers t then v.turn t else v
  | .result r _ => v.apply r

/-- The view after any number of uses. -/
def afterAll (v : View) (uses : List Use) : View := uses.foldl after v

end View

end ArchiveDesk.Lifecycle
