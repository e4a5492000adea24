import ArchiveDesk.Toml.Value

/-!
# Filling tables

Headers and keys name tables by paths. A table may be opened once, a key may be
set once, and a key with dots adds only to tables that such keys created.
-/

namespace ArchiveDesk.Toml.Entries

/-- The value of a name. -/
def get? (entries : Entries) (name : String) : Option Value :=
  (entries.find? (·.1 == name)).map (·.2)

/-- Replaces what stands under a name; `none` if that is refused. -/
def change (f : Option Value → Option Value) (name : String) : Entries → Option Entries
  | [] => (f none).map fun v => [(name, v)]
  | (k, v) :: rest =>
    if k = name then (f (some v)).map fun w => (k, w) :: rest
    else (change f name rest).map ((k, v) :: ·)

/-- Changes the last element of an array of tables. -/
def changeLast (f : Entries → Option Entries) (elements : List Entries) :
    Option (List Entries) := do
  let last ← f (elements.getLast?.getD [])
  return elements.dropLast ++ [last]

/-- Changes the table at the end of a path of headers. The path leads through
tables and through the last elements of arrays of tables; a missing table is
implied. -/
def within (f : Entries → Option Entries) : List String → Entries → Option Entries
  | [], entries => f entries
  | name :: path, entries =>
    change (fun
      | none => (within f path []).map (.table .implied)
      | some (.table .inline _) => none
      | some (.table origin inner) => (within f path inner).map (.table origin)
      | some (.tables elements) => (changeLast (within f path) elements).map .tables
      | some _ => none) name entries

/-- Whether a key with dots may pass through a table, or end in it. -/
def admitsDotted (origin : Origin) (ends : Bool) : Bool :=
  origin == .dotted || (origin == .implied && !ends)

/-- Sets a value under a key. -/
def assign (value : Value) : List String → Entries → Option Entries
  | [], _ => none
  | name :: path, entries =>
    let ends := path.length == 1
    change (fun old =>
      if path.isEmpty then
        match old with
        | none => some value
        | some _ => none
      else
        match old with
        | none => (assign value path []).map (.table .dotted)
        | some (.table origin inner) => do
          guard (admitsDotted origin ends)
          (assign value path inner).map (.table origin)
        | some (.tables elements) => do
          guard !ends
          (changeLast (assign value path) elements).map .tables
        | some _ => none) name entries

/-- Opens a table. Only a table that was implied by headers may be there. -/
def openTable (name : String) : Entries → Option Entries :=
  change (fun
    | none => some (.table .header [])
    | some (.table .implied inner) => some (.table .header inner)
    | some _ => none) name

/-- Opens a further element of an array of tables. -/
def openElement (name : String) : Entries → Option Entries :=
  change (fun
    | none => some (.tables [[]])
    | some (.tables elements) => some (.tables (elements ++ [[]]))
    | some _ => none) name

end ArchiveDesk.Toml.Entries
