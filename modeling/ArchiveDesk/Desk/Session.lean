import ArchiveDesk.Desk.Action
import ArchiveDesk.Desk.Worker

/-!
# Sessions

A session joins the panel and the worker by three queues: commands to the worker,
and notices and updates from it. Each queue keeps its order. The operator acts on
the panel, the worker takes commands, and a poll delivers what has arrived:
first all notices, then all updates.
-/

namespace ArchiveDesk

/-- The worker and the workflow that it holds. -/
inductive WorkerState where
  /-- The worker takes commands. -/
  | ready (workflow : Workflow)
  /-- The worker waits for the server without end. -/
  | waiting (workflow : Workflow)
  /-- There is no worker any more. -/
  | gone

/-- A desk and its worker. -/
structure Session where
  catalogue : Catalogue
  panel : Panel
  worker : WorkerState
  /-- Commands that were not taken yet, oldest first. -/
  commands : List Command
  /-- Notices that were not delivered yet, oldest first. -/
  notices : List Notice
  /-- Updates that were not delivered yet, oldest first. -/
  updates : List Update

namespace Session

/-- A session whose worker is ready. -/
def start (c : Catalogue) : Session := ⟨c, .initial, .ready .initial, [], [], []⟩

/-- A session under settings. A worker that has no addresses to turn to says so and
is gone. -/
def ofSettings (c : Catalogue) (settings : Settings) : Session :=
  match settings.formatEndpoints with
  | .ok _ => start c
  | .error cause => { start c with worker := .gone, updates := [.failed cause] }

/-! ## The operator -/

/-- What the desk shows when nobody takes its commands. -/
def workerStopped : Failure := .io "background worker stopped"

/-- Sends a command. -/
def send (s : Session) (c : Command) : Session :=
  match s.worker with
  | .gone => { s with panel := { s.panel with error := some workerStopped.presentation } }
  | _ => { s with commands := s.commands ++ [c] }

/-- Carries out an action of the operator. -/
def act (s : Session) (a : Action) : Session :=
  let (panel, command) := s.panel.act s.catalogue a
  let s := { s with panel }
  match command with
  | none => s
  | some c => s.send c

/-! ## The worker -/

/-- Puts a message into its queue. -/
def deliver (s : Session) : Message → Session
  | .notice n => { s with notices := s.notices ++ [n] }
  | .update u => { s with updates := s.updates ++ [u] }

/-- The worker takes the next command, if there is one, and carries it out. -/
def work (around : Surroundings) (s : Session) : Session :=
  match s.worker, s.commands with
  | .ready w, c :: rest =>
    let h := Worker.handle around w c
    let worker : WorkerState := if h.isEnded then .ready h.state else .waiting h.state
    h.messages.foldl deliver { s with worker, commands := rest }
  | _, _ => s

/-- The worker takes all commands that were sent. -/
def workAll (around : Surroundings) (s : Session) : Session :=
  Nat.repeat (work around) s.commands.length s

/-- The worker stops, and the commands that it has not taken are lost. -/
def hangUp (s : Session) : Session := { s with worker := .gone, commands := [] }

/-! ## Polls -/

/-- Delivers all notices. -/
def hearAll (s : Session) : Session :=
  { s with panel := s.notices.foldl Panel.hear s.panel, notices := [] }

/-- Delivers all updates. -/
def acceptAll (s : Session) : Session :=
  { s with panel := s.updates.foldl Panel.accept s.panel, updates := [] }

/-- Delivers what has arrived. -/
def poll (s : Session) : Session := s.hearAll.acceptAll

end Session

end ArchiveDesk
