import ArchiveDesk.Upload.Workflow

/-!
# Runs of the upload workflow

A run is a list of operations, each with the service that it meets, carried out
one after the other from the initial state. A service may also be scripted: it
then answers from lists that were prepared beforehand.
-/

namespace ArchiveDesk

/-- An operation and the service that it meets. -/
structure Deed where
  operation : Operation
  service : Service

/-- A run so far: the operations with their outcomes, oldest first. -/
structure Run where
  /-- The state that the run has reached. -/
  state : Workflow
  /-- Every operation, with what became of it. -/
  history : List (Deed × Step)

namespace Run

/-- The run without operations. -/
def initial : Run := ⟨.initial, []⟩

/-- The run with one more operation. -/
def extend (r : Run) (deed : Deed) : Run :=
  let step := r.state.perform deed.service deed.operation
  ⟨step.state, r.history ++ [(deed, step)]⟩

/-- The run of a list of operations. -/
def ofDeeds (deeds : List Deed) : Run := deeds.foldl extend initial

/-- Everything that was reported, oldest first. -/
def notices (r : Run) : List Notice := r.history.flatMap (·.2.notices)

/-- Every call that was made, oldest first. -/
def calls (r : Run) : List Call := r.history.flatMap (·.2.calls)

end Run

/-- Answers prepared for a service. A list that is used up goes on with success. -/
structure Script where
  check : List Reply
  commit : List Reply
  delete : List (Except Failure Unit)

namespace Script

/-- The service that gives the next answers. -/
def service (s : Script) : Service where
  send item := match item.target with
    | .check => s.check.headD .accepted
    | .commit => s.commit.headD .accepted
  delete := s.delete.headD (.ok ())

/-- Uses up the answer to a call. -/
def consume (s : Script) : Call → Script
  | .send item => match item.target with
    | .check => { s with check := s.check.tail }
    | .commit => { s with commit := s.commit.tail }
  | .delete => { s with delete := s.delete.tail }

end Script

/-- A workflow that meets a scripted service and reports over one channel throughout. -/
structure Rehearsal where
  state : Workflow
  script : Script
  channel : Channel

namespace Rehearsal

/-- Before the first operation. -/
def start (script : Script) : Rehearsal := ⟨.initial, script, .fresh⟩

/-- The rehearsal whose receiver takes at most so many more reports. -/
def leave (r : Rehearsal) (room : Nat) : Rehearsal := { r with channel := r.channel.leave room }

/-- From now on nobody listens. -/
def mute (r : Rehearsal) : Rehearsal := r.leave 0

/-- The reports of an operation that are heard: those that have arrived since. -/
def heard (r : Rehearsal) (step : Step) : List Notice :=
  step.notices.drop r.channel.arrived.length

/-- Carries out an operation. -/
def perform (r : Rehearsal) (operation : Operation) : Step × Rehearsal :=
  let step := r.state.perform r.script.service operation r.channel
  (step, ⟨step.state, step.calls.foldl Script.consume r.script, step.channel⟩)

/-- The rehearsal after some operations. -/
def after (r : Rehearsal) (operations : List Operation) : Rehearsal :=
  operations.foldl (fun r operation => (r.perform operation).2) r

/-- The steps of some operations. -/
def steps (r : Rehearsal) : List Operation → List Step
  | [] => []
  | operation :: operations =>
    let (step, r) := r.perform operation
    step :: r.steps operations

end Rehearsal

end ArchiveDesk
