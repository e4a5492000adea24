import ArchiveDesk.Desk.Message
import ArchiveDesk.Lifecycle.View
import ArchiveDesk.Text.Blank

/-!
# The panel

The panel is what the operator sees of the workflow and of the last lookup. It
follows the messages of the worker; buttons are offered by the panel alone.
-/

namespace ArchiveDesk

/-- The file that the desk shows as selected. -/
structure SelectedFile where
  name : String
  size : Nat
  deriving DecidableEq, Repr

/-- What is filled in to look a lifecycle up. -/
structure LookupForm where
  kind : Lifecycle.Kind
  id : String
  title : String
  deriving DecidableEq, Repr

/-- What the desk shows. -/
structure Panel where
  phase : Phase
  selected : Option SelectedFile
  prompt : Option PromptKind
  /-- Whether the worker is carrying out a command. -/
  busy : Bool
  error : Option Presentation
  /-- The last lines of the activity log, oldest first. -/
  activity : List String
  showsActivity : Bool
  form : LookupForm
  view : Option Lifecycle.View

namespace Panel

/-- Before the first message. -/
def initial : Panel where
  phase := .idle
  selected := none
  prompt := none
  busy := false
  error := none
  activity := []
  showsActivity := false
  form := ⟨.unit, "", ""⟩
  view := none

/-! ## The activity log -/

/-- How many lines the log keeps. -/
def activityLimit : Nat := 50

/-- A log that has grown by one line: beyond the limit it loses its oldest one. -/
def withinLimit (lines : List String) : List String :=
  if activityLimit < lines.length then lines.tail else lines

/-- What sending a file to an endpoint is called in the log. -/
def endpointName : Target → String
  | .check => "check"
  | .commit => "import"

/-- The line that a notice leaves in the log. -/
def logLine : Notice → String
  | .phaseChanged origin target => origin.name ++ " → " ++ target.name
  | .selected fileName _ => "Selected " ++ fileName
  | .dispatched target fileName => "Sent " ++ fileName ++ " to " ++ endpointName target
  | .prompt kind => kind.title
  | .viewReloaded => "View reloaded"

/-- Adds a line to the log. -/
def log (p : Panel) (line : String) : Panel :=
  { p with activity := withinLimit (p.activity ++ [line]) }

/-! ## Following the worker -/

/-- The panel after a notice, apart from the log. -/
def reflect (p : Panel) : Notice → Panel
  | .phaseChanged _ target => { p with phase := target }
  | .selected fileName size => { p with error := none, selected := some ⟨fileName, size⟩ }
  | .dispatched _ _ => p
  | .prompt kind => { p with prompt := some kind }
  | .viewReloaded => { p with selected := none, error := none }

/-- The panel after a notice. -/
def hear (p : Panel) (n : Notice) : Panel := (p.reflect n).log (logLine n)

/-- Shows a result in the open view, if it is the view of that lookup. -/
def showResult (p : Panel) (kind : Lifecycle.Kind) (id : String) (result : Lifecycle.Result) :
    Panel :=
  { p with view := p.view.map fun v => if v.kind = kind ∧ v.id = id then v.apply result else v }

/-- The panel after an update. -/
def accept (p : Panel) : Update → Panel
  | .busy value => { p with busy := value }
  | .failed cause => { p with error := some cause.presentation }
  | .lifecycle kind id result => p.showResult kind id result

/-! ## What is offered -/

/-- Whether nothing stands in the way of a new command: no dialog is open and the
worker is not busy. -/
def isFree (p : Panel) : Bool := p.prompt.isNone && !p.busy

/-- A file may be chosen. -/
def canChoose (p : Panel) : Bool := p.isFree

/-- The selected file may be sent to the check. -/
def canSubmit (p : Panel) : Bool := p.phase == .idle && p.selected.isSome && p.isFree

/-- The referential may be deleted. -/
def canDelete (p : Panel) : Bool := p.isFree

/-- The view may be reloaded. -/
def canReload (p : Panel) : Bool := p.isFree

/-- A lifecycle may be looked up. -/
def canLookUp (p : Panel) : Bool := !p.busy && !(Text.trim p.form.id).isEmpty

end Panel

end ArchiveDesk
