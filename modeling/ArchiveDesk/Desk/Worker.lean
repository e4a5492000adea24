import ArchiveDesk.Desk.Message
import ArchiveDesk.Remote.Basic

/-!
# The worker

The worker holds the workflow and carries out one command at a time. It says when
it begins and ends; a command that waits for the server without end is never
ended.
-/

namespace ArchiveDesk

/-- What a command came to. -/
structure Handled where
  /-- The workflow afterwards. -/
  state : Workflow
  /-- Everything that was sent, oldest first. -/
  messages : List Message
  /-- The calls of the referential's service. -/
  calls : List Call
  /-- Whether the command was ended. -/
  isEnded : Bool

/-- What a command meets: the files of the operator, and the server. -/
structure Surroundings where
  files : FileTree
  remote : Remote

namespace Worker

/-- The result of a lookup, unless the server never answers. -/
def lookup? (r : Remote) (kind : Lifecycle.Kind) (id : String) : Option Lifecycle.Result :=
  (r.lookup kind id).map fun answer => (Lifecycle.lookup (fun _ _ => answer) kind id).result

/-- What the workflow does for a command. A lookup does not concern it. -/
def step (s : Surroundings) (w : Workflow) : Command → Step
  | .selectFile path =>
    match Item.ofPath s.files path with
    | .ok item => w.select item
    | .error cause => Step.refuse w cause
  | .submit => w.submit s.remote.service
  | .answer choice => w.answer s.remote.service choice
  | .delete => w.delete s.remote.service
  | .reload => w.reload
  | .fetch kind id =>
    let outcome := if (lookup? s.remote kind id).isSome then .completed else .abandoned
    (Progress.start w).finish outcome

/-- The results that a command finds. -/
def found (s : Surroundings) : Command → List Update
  | .fetch kind id => ((lookup? s.remote kind id).map (Update.lifecycle kind id)).toList
  | _ => []

/-- What is told at the end of a command. -/
def closing : Outcome → List Update
  | .completed => [.busy false]
  | .refused cause => [.failed cause, .busy false]
  | .abandoned => []

/-- Carries out a command. -/
def handle (s : Surroundings) (w : Workflow) (c : Command) : Handled :=
  let step := step s w c
  { state := step.state
    messages := [.update (.busy true)] ++ step.notices.map .notice ++
      (found s c ++ closing step.outcome).map .update
    calls := step.calls
    isEnded := step.outcome != .abandoned }

end Worker

end ArchiveDesk
