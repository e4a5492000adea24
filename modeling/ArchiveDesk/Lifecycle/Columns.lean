import ArchiveDesk.FileEntry
import ArchiveDesk.Json.Reader

/-!
# Columns of the lifecycle table

Which event fields the table always shows, which ones the operator may add, and
the labels of both. Each comes from a JSON file or, where none is named, from
the built-in choice.
-/

namespace ArchiveDesk.Lifecycle

/-- The fields that a lifecycle table can show. -/
structure FieldChoice where
  /-- The fields that are always shown. -/
  mandatory : List String
  /-- The fields that can be switched on. -/
  custom : List String
  deriving DecidableEq, Repr

namespace FieldChoice

/-- The fields shown where no file chooses others. -/
def builtin : FieldChoice where
  mandatory := ["evType", "evDateTime", "outcome", "outDetail", "outMessg"]
  custom := ["evId", "evIdProc", "evTypeProc", "agId", "obId"]

/-- No fields. -/
def empty : FieldChoice := ⟨[], []⟩

/-- A list of texts. -/
private def texts? : Json.Tree → Option (List String)
  | .array items => items.mapM fun
    | .text pieces => Json.Piece.text? pieces
    | _ => none
  | _ => none

/-- What the members of an object have chosen so far. -/
private structure Partial where
  mandatory : Option (List String)
  custom : Option (List String)

/-- Takes a member of the object. A known name must not come twice, and others
are passed over. -/
private def Partial.take (p : Partial) (member : List Json.Piece × Json.Tree) :
    Option Partial := do
  let name ← Json.Piece.text? member.1
  if name = "mandatoryFields" then
    if p.mandatory.isSome then failure
    return { p with mandatory := ← texts? member.2 }
  else if name = "customFields" then
    if p.custom.isSome then failure
    return { p with custom := ← texts? member.2 }
  else return p

/-- Reads a choice from a JSON text: an object with the two lists, or an array
that holds at most the two of them in order. A missing list is empty. -/
def parse? (s : String) : Option FieldChoice := do
  match ← Json.Tree.parse? s with
  | .object members =>
    let p ← members.foldlM Partial.take ⟨none, none⟩
    return ⟨p.mandatory.getD [], p.custom.getD []⟩
  | .array [] => return empty
  | .array [mandatory] => return ⟨← texts? mandatory, []⟩
  | .array [mandatory, custom] => return ⟨← texts? mandatory, ← texts? custom⟩
  | _ => failure

/-- Reads a choice from a file. -/
def ofFile (e : FileEntry) : Except Failure FieldChoice := do
  match parse? (← e.readText.mapError FileFault.failure) with
  | some choice => .ok choice
  | none => .error (.config "the choice of lifecycle fields is malformed")

/-- The choice to use: the built-in one if no file is named, and no fields if the
file that is named cannot be used. -/
def load : Option FileEntry → FieldChoice
  | none => builtin
  | some e => (ofFile e).toOption.getD empty

end FieldChoice

/-- Labels by key. -/
structure Labels where
  /-- The keys that have a label. -/
  entries : Fields String

namespace Labels

/-- What stands before a field's name in the key of its label. -/
def keyStem : String := "lifeCycle.logbook.displaySteps."

/-- The labels shown where no file gives others. -/
def builtin : Labels :=
  ⟨Fields.ofList <| [
      ("evType", "Event type"),
      ("evDateTime", "Date"),
      ("outcome", "Outcome"),
      ("outDetail", "Detailed outcome"),
      ("outMessg", "Message"),
      ("evId", "Event id"),
      ("evIdProc", "Process id"),
      ("evTypeProc", "Process type"),
      ("agId", "Agent"),
      ("obId", "Object id")].map fun e => (keyStem ++ e.1, e.2)⟩

/-- A member of the object of labels. -/
private def entry? (member : List Json.Piece × Json.Tree) : Option (String × String) := do
  let key ← Json.Piece.text? member.1
  match member.2 with
  | .text pieces => return (key, ← Json.Piece.text? pieces)
  | _ => failure

/-- Reads labels from a JSON text: an object of texts, in which the last label of
a key counts. -/
def parse? (s : String) : Option Labels := do
  match ← Json.Tree.parse? s with
  | .object members => return ⟨Fields.ofList (← members.mapM entry?)⟩
  | _ => failure

/-- Reads labels from a file. -/
def ofFile (e : FileEntry) : Except Failure Labels := do
  match parse? (← e.readText.mapError FileFault.failure) with
  | some labels => .ok labels
  | none => .error (.config "the labels are malformed")

/-- The labels to use: the built-in ones if no file is named or the file that is
named cannot be used. -/
def load : Option FileEntry → Labels
  | none => builtin
  | some e => (ofFile e).toOption.getD builtin

/-- The label of a key, or the key itself if it has none. -/
def labelOf (l : Labels) (key : String) : String := (l.entries.get? key).getD key

end Labels

/-- A column of the table. -/
structure Column where
  /-- The name of the field that the column shows. -/
  id : String
  /-- The heading. -/
  label : String
  deriving DecidableEq, Repr

/-- The columns of the given fields. -/
def columns (ids : List String) (labels : Labels) : List Column :=
  ids.map fun id => ⟨id, labels.labelOf (Labels.keyStem ++ id)⟩

end ArchiveDesk.Lifecycle
