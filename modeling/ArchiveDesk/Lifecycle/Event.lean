import ArchiveDesk.Json.Writer
import ArchiveDesk.Text.UpperCase

/-!
# Lifecycle events

An event of an archive unit's or object group's life, with its field names in
upper case. Events that have only started are left out.
-/

namespace ArchiveDesk.Lifecycle

/-- An event as the server sends it. -/
abbrev RawEvent := Fields Json

/-- The outcome of an event that has not finished. -/
def startedOutcome : String := "STARTED"

/-- Whether the event has not finished. -/
def RawEvent.isStarted (raw : RawEvent) : Bool :=
  match raw.get? "outcome" with
  | some (.text outcome) => outcome == startedOutcome
  | _ => false

/-- A finished event. -/
structure Event where
  /-- The fields, named in upper case. -/
  fields : Fields Json

namespace Event

/-- The event with the names in upper case. Of names that become equal, the
greatest one counts. -/
def ofRaw (raw : RawEvent) : Event :=
  ⟨Fields.ofList (raw.entries.map fun e => (Text.upper e.1, e.2))⟩

/-- The value of a field with exactly this name. -/
def get? (e : Event) (name : String) : Option Json := e.fields.get? name

/-- The text of a cell: nothing for null, a text as it is, and the compact JSON
text of any other value. -/
def cellText : Json → String
  | .null => ""
  | .text s => s
  | value => value.write

/-- The text shown for a field, whatever the case of its name. -/
def display (e : Event) (name : String) : String :=
  ((e.get? (Text.upper name)).map cellText).getD ""

end Event

/-- The finished events of a list. -/
def finished (raw : List RawEvent) : List Event :=
  (raw.filter fun r => !r.isStarted).map Event.ofRaw

end ArchiveDesk.Lifecycle
