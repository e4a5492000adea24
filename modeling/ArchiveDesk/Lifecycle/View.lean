import ArchiveDesk.Lifecycle.Columns
import ArchiveDesk.Lifecycle.Lookup
import ArchiveDesk.Lifecycle.Pager

/-!
# The lifecycle view

The table of one entity's events: its columns, the custom ones among them that
are switched on, the last result and the pager.
-/

namespace ArchiveDesk.Lifecycle

/-- The table of one entity's lifecycle. -/
structure View where
  kind : Kind
  id : String
  title : String
  /-- The columns that are always shown. -/
  mandatory : List Column
  /-- The columns that can be switched on. -/
  custom : List Column
  /-- The fields of the custom columns that are switched on, in the order of
  their switching. -/
  selected : List String
  pager : Pager
  /-- The last result, if there was one. -/
  result : Option Result

namespace View

/-- A view without columns and without a result. -/
def new (kind : Kind) (id title : String) : View where
  kind := kind
  id := id
  title := title
  mandatory := []
  custom := []
  selected := []
  pager := .initial
  result := none

/-- The view with the columns of a choice of fields. -/
def withColumns (v : View) (fields : FieldChoice) (labels : Labels) : View :=
  { v with
    mandatory := columns fields.mandatory labels
    custom := columns fields.custom labels }

/-- Shows a new result, from its first page on. -/
def apply (v : View) (result : Result) : View :=
  { v with result := some result, pager := v.pager.setPage 1 }

/-- Whether a result has come. -/
def isLoaded (v : View) : Bool := v.result.isSome

/-- Whether the table is shown: as long as no result was invalid. -/
def showsResult (v : View) : Bool := (v.result.map Result.isValid).getD true

/-- The events of the result. -/
def events (v : View) : List Event := (v.result.map Result.events).getD []

/-- The events of the current page. -/
def page (v : View) : List Event := v.pager.page v.events

/-- Switches a custom column on or off; other fields have no effect. -/
def toggle (v : View) (id : String) : View :=
  if id ∈ v.selected then { v with selected := v.selected.erase id }
  else if v.custom.any (·.id == id) then { v with selected := v.selected ++ [id] }
  else v

/-- The columns shown: the mandatory ones, then the custom ones that are switched
on, each in the order of the choice. -/
def displayed (v : View) : List Column :=
  v.mandatory ++ v.custom.filter fun c => v.selected.contains c.id

/-- The cells of the current page, by row. -/
def cells (v : View) : List (List String) :=
  v.page.map fun e => v.displayed.map fun c => e.display c.id

/-- How many pages the events fill. -/
def pageCount (v : View) : Nat := v.pager.pageCount v.events.length

/-- The page numbers that the pager shows. -/
def visiblePages (v : View) : List Nat := v.pager.visiblePages v.events.length

/-- Turns to a page. -/
def setPage (v : View) (page : Nat) : View := { v with pager := v.pager.setPage page }

/-- Chooses a page size. -/
def setPageSize (v : View) (size : Nat) : View := { v with pager := v.pager.setSize size }

end View

end ArchiveDesk.Lifecycle
