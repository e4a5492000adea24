import ArchiveDesk.Desk.Panel

/-!
# Actions of the operator

An action changes what the desk shows at once and may send one command.
-/

namespace ArchiveDesk

/-- What the columns of lifecycle tables are made of. -/
structure Catalogue where
  fields : Lifecycle.FieldChoice
  labels : Lifecycle.Labels

/-- What the operator does. -/
inductive Action where
  /-- Chooses the file at a path. -/
  | chooseFile (path : String)
  /-- Sends the selected file to the check. -/
  | submit
  /-- Answers the open dialog. -/
  | answer (choice : Choice)
  | delete
  | reload
  /-- Opens the lifecycle of the form. -/
  | openLifecycle
  deriving DecidableEq, Repr

namespace Panel

/-- The view that the form asks for, unless its identifier is blank. -/
def requested? (p : Panel) (c : Catalogue) : Option Lifecycle.View :=
  let id := Text.trim p.form.id
  if id.isEmpty then none
  else
    let view := Lifecycle.View.new p.form.kind id (Text.trim p.form.title)
    some (view.withColumns c.fields c.labels)

/-- The panel after an action, and the command that the action sends. -/
def act (p : Panel) (c : Catalogue) : Action → Panel × Option Command
  | .chooseFile path => (p, some (.selectFile path))
  | .submit => ({ p with error := none }, some .submit)
  | .answer choice => ({ p with prompt := none }, some (.answer choice))
  | .delete => ({ p with error := none }, some .delete)
  | .reload => (p, some .reload)
  | .openLifecycle =>
    match p.requested? c with
    | none => (p, none)
    | some view => ({ p with view := some view }, some (.fetch view.kind view.id))

end Panel

end ArchiveDesk
