import ArchiveDesk.Desk.Screen

/-!
# The journal of a session

The operator, the worker and the polls take their turns in any order. A journal
follows a session through such an order of moves and writes down, for every
command, which dialog the operator saw when it was sent and which dialogs the
worker had raised when it was carried out.
-/

namespace ArchiveDesk

/-- One turn in a session. -/
inductive Move where
  /-- A click on the page. -/
  | press (press : Press)
  /-- The choice of a file, in the dialog that the page opens for it. -/
  | choose (path : String)
  /-- Typing into the form. -/
  | type (field : FormField) (text : String)
  /-- The worker takes a command. -/
  | work (around : Surroundings)
  | poll

/-- What may be clicked on the page, whichever list is open. -/
def Panel.presses (p : Panel) : List Press :=
  ([none, some .kind, some .pageSize].flatMap p.widgets).filterMap (·.press)

namespace Session

/-- Whether a move can be made. A file can be chosen while its button can be clicked. -/
def Offers (s : Session) : Move → Prop
  | .press press => press ∈ s.panel.presses
  | .choose _ => .browse ∈ s.panel.presses
  | .type _ _ | .work _ | .poll => True

instance (s : Session) : DecidablePred s.Offers := fun m =>
  match m with
  | .press press => inferInstanceAs (Decidable (press ∈ s.panel.presses))
  | .choose _ => inferInstanceAs (Decidable (.browse ∈ s.panel.presses))
  | .type _ _ | .work _ | .poll => inferInstanceAs (Decidable True)

/-- The session after a move. -/
def move (s : Session) : Move → Session
  | .press press => s.press press
  | .choose path => s.act (.chooseFile path)
  | .type field text => s.mapPanel fun p => { p with form := p.form.typed text field }
  | .work around => s.work around
  | .poll => s.poll

/-- The session after a move, if it is offered. What is not offered cannot be done. -/
def next (s : Session) (m : Move) : Session := if s.Offers m then s.move m else s

end Session

/-- The dialog that a notice raises. -/
def Notice.dialog? : Notice → Option PromptKind
  | .prompt kind => some kind
  | _ => none

/-- The dialogs that notices raise, oldest first. -/
def dialogs (notices : List Notice) : List PromptKind := notices.filterMap Notice.dialog?

/-- A command as it was sent. -/
structure Issue where
  command : Command
  /-- The dialog that the panel showed. -/
  dialog : Option PromptKind
  /-- The dialogs that had reached the panel, oldest first. -/
  heard : List PromptKind

/-- A command as it was carried out. -/
structure Handling where
  issue : Issue
  /-- The workflow that the command met. -/
  workflow : Workflow
  /-- The dialogs that the worker had raised before, oldest first. -/
  raised : List PromptKind
  result : Handled

/-- A session with everything that led to it. -/
structure Journal where
  session : Session
  /-- How the commands were sent that the worker has not taken yet. -/
  waiting : List Issue
  /-- The commands that were carried out, oldest first. -/
  handled : List Handling
  /-- The notices that have reached the panel, oldest first. -/
  heard : List Notice

namespace Journal

/-- The journal of a session before its first move. -/
def start (c : Catalogue) : Journal := ⟨.start c, [], [], []⟩

/-- Every notice of the worker so far, also those on their way. -/
def told (j : Journal) : List Notice := j.heard ++ j.session.notices

/-- A command that is sent now. -/
def issue (j : Journal) (command : Command) : Issue :=
  ⟨command, j.session.panel.prompt, dialogs j.heard⟩

/-- A command that is carried out now. -/
def handling (j : Journal) (around : Surroundings) (w : Workflow) (issue : Issue) : Handling :=
  ⟨issue, w, dialogs j.told, Worker.handle around w issue.command⟩

/-- A turn of the operator: what the session has then in commands more than before was
sent in this turn. -/
def operate (j : Journal) (m : Move) : Journal :=
  let session := j.session.move m
  let sent := session.commands.drop j.session.commands.length
  { j with session, waiting := j.waiting ++ sent.map j.issue }

/-- A turn of the worker. -/
def work (j : Journal) (around : Surroundings) : Journal :=
  let session := j.session.move (.work around)
  match j.session.worker, j.waiting with
  | .ready w, issue :: waiting =>
    { j with session, waiting, handled := j.handled ++ [j.handling around w issue] }
  | _, _ => { j with session }

/-- A poll. -/
def poll (j : Journal) : Journal :=
  { j with session := j.session.move .poll, heard := j.told }

/-- The journal after a move, if it is offered. -/
def next (j : Journal) (m : Move) : Journal :=
  if j.session.Offers m then
    match m with
    | .work around => j.work around
    | .poll => j.poll
    | .press _ | .choose _ | .type _ _ => j.operate m
  else j

/-- The journal of a session after moves in any order. -/
def ofMoves (c : Catalogue) (moves : List Move) : Journal := moves.foldl next (start c)

end Journal

end ArchiveDesk
