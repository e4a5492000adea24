import ArchiveDesk.Upload.Item
import ArchiveDesk.Upload.Prompt

/-!
# The upload workflow

One referential file at a time is checked, confirmed and imported. The workflow
holds one upload slot, a phase, at most one open dialog, and whether an import
was sent. An operation makes at most one call to the remote service. A failing
call becomes a dialog; only an operation out of phase is refused. A call that is
never answered leaves the workflow as it stood when the call was made. What the
workflow reports goes over a channel, whose receiver may be gone.
-/

namespace ArchiveDesk

/-- What the workflow reports to the desk. -/
inductive Notice where
  | phaseChanged (origin target : Phase)
  | selected (fileName : String) (size : Nat)
  | dispatched (target : Target) (fileName : String)
  | prompt (kind : PromptKind)
  | viewReloaded
  deriving DecidableEq, Repr

/-- A channel for reports: what has arrived, and how long its receiver stays. -/
structure Channel where
  /-- The reports that have arrived, oldest first. -/
  arrived : List Notice
  /-- How many more reports arrive before the receiver is gone, if it does not stay. -/
  room : Option Nat
  deriving DecidableEq, Repr

namespace Channel

/-- A channel with a receiver that stays, on which some reports have arrived. -/
def holding (notices : List Notice) : Channel := ⟨notices, none⟩

/-- Before the first report. -/
def fresh : Channel := holding []

/-- Sends a report. Once the receiver is gone, the report comes back instead. -/
def send (c : Channel) (notice : Notice) : Except Notice Unit × Channel :=
  match c.room with
  | none => (.ok (), { c with arrived := c.arrived ++ [notice] })
  | some 0 => (.error notice, c)
  | some (room + 1) => (.ok (), ⟨c.arrived ++ [notice], some room⟩)

/-- The channel whose receiver takes at most so many more reports. One that is gone does
not come back. -/
def leave (c : Channel) (room : Nat) : Channel :=
  { c with room := some (c.room.elim room (min room)) }

end Channel

/-- A call to the remote service. -/
inductive Call where
  /-- A file is sent to the endpoint that it is meant for. -/
  | send (item : Item)
  /-- The active referential is deleted. -/
  | delete
  deriving DecidableEq

/-- How the service answers a file that it is sent. -/
inductive Reply where
  | accepted
  | failed (cause : Failure)
  /-- The service never answers. -/
  | silent
  deriving DecidableEq, Repr

/-- How the remote service answers during one operation. -/
structure Service where
  /-- The answer to a file. -/
  send : Item → Reply
  /-- The answer to a deletion, which always comes. -/
  delete : Except Failure Unit

/-- What the operator, or the desk for the operator, asks of the workflow. -/
inductive Operation where
  | select (item : Item)
  | submit
  | commit
  | cancel
  | delete
  | reload
  | answer (choice : Choice)
  deriving DecidableEq

/-- How an operation ends. -/
inductive Outcome where
  | completed
  | refused (cause : Failure)
  /-- The operation was given up while it waited for the service. -/
  | abandoned
  deriving DecidableEq, Repr

/-- The state of an upload. -/
structure Workflow where
  phase : Phase
  /-- The file in the upload slot. -/
  slot : Option Item
  /-- The dialog that waits for an answer. -/
  pending : Option PromptKind
  /-- Whether an import was sent since the view was last reloaded. -/
  committed : Bool
  deriving DecidableEq

/-- An operation under way: the state it has reached, the channel it reports over, and
what it has called so far. -/
structure Progress where
  state : Workflow
  channel : Channel
  calls : List Call

/-- A finished operation. -/
structure Step extends Progress where
  outcome : Outcome

namespace Progress

/-- Before anything has happened. -/
def start (w : Workflow) (channel : Channel := .fresh) : Progress := ⟨w, channel, []⟩

/-- The reports that have arrived. -/
def notices (p : Progress) : List Notice := p.channel.arrived

/-- Reports on a channel with a receiver have arrived. -/
@[simp] theorem notices_holding (w : Workflow) (notices : List Notice) (calls : List Call) :
    Progress.notices ⟨w, .holding notices, calls⟩ = notices :=
  rfl

/-- Reports something. The channel's answer is dropped: the receiver may be gone. -/
def report (p : Progress) (notice : Notice) : Progress :=
  { p with channel := (p.channel.send notice).2 }

/-- Enters a phase, which is reported unless it is the present one. -/
def enter (p : Progress) (phase : Phase) : Progress :=
  if p.state.phase = phase then p
  else { p with state := { p.state with phase } }.report (.phaseChanged p.state.phase phase)

/-- Opens a dialog in place of any other. -/
def ask (p : Progress) (kind : PromptKind) : Progress :=
  { p with state := { p.state with pending := some kind } }.report (.prompt kind)

/-- Closes the dialog if it is of this kind. -/
def dismiss (p : Progress) (kind : PromptKind) : Progress :=
  if p.state.pending = some kind then { p with state := { p.state with pending := none } } else p

/-- Puts a file into the slot. -/
def hold (p : Progress) (item : Item) : Progress :=
  { p with state := { p.state with slot := some item } }

/-- Calls the service. -/
def call (p : Progress) (call : Call) : Progress := { p with calls := p.calls ++ [call] }

/-- Sends a file that is in flight: it is held in the slot, reported and called. -/
def send (p : Progress) (item : Item) : Progress :=
  ((p.hold item).report (.dispatched item.target item.fileName)).call (.send item)

/-- Empties the slot, forgets the import and returns to idle. The confirmation of
an import concerns the file in the slot and goes with it; any other dialog stays
open. -/
def reload (p : Progress) : Progress :=
  let p := p.dismiss .confirmImport
  let p := { p with state := { p.state with slot := none, committed := false } }
  (p.enter .idle).report .viewReloaded

/-- Ends the operation. -/
def finish (p : Progress) (outcome : Outcome) : Step := { p with outcome }

end Progress

namespace Step

/-- An operation that is refused changes, reports and calls nothing. -/
def refuse (w : Workflow) (cause : Failure) (channel : Channel := .fresh) : Step :=
  (Progress.start w channel).finish (.refused cause)

/-- An operation that is refused because of its phase. -/
def outOfPhase (w : Workflow) (operation : String) (channel : Channel := .fresh) : Step :=
  refuse w (.outOfPhase operation w.phase) channel

end Step

namespace Workflow

/-- Before the first operation. -/
def initial : Workflow := ⟨.idle, none, none, false⟩

/-- What choosing a file is called in a refusal. -/
def selectName : String := "select a file"

/-- What checking a file is called in a refusal. -/
def submitName : String := "submit for validation"

/-- What importing a file is called in a refusal. -/
def commitName : String := "import"

/-- What giving an import up is called in a refusal. -/
def cancelName : String := "cancel the import"

/-- Puts a file into the slot, in place of one that is resolved. -/
def select (w : Workflow) (item : Item) (channel : Channel := .fresh) : Step :=
  if w.phase = .idle ∨ w.phase = .done then
    if w.slot.all (·.status.isResolved) then
      ((Progress.start w channel).enter .idle
        |>.report (.selected item.fileName item.size)
        |>.hold { item with target := .check, status := .queued }
        |>.finish .completed)
    else Step.refuse w .slotTaken channel
  else Step.outOfPhase w selectName channel

/-- Sends the file in the slot to the check. -/
def submit (w : Workflow) (service : Service) (channel : Channel := .fresh) : Step :=
  if w.phase = .idle then
    match w.slot with
    | none => Step.refuse w .noCandidate channel
    | some item =>
      let sent := { item with target := .check, status := .inFlight }
      let p := ((Progress.start w channel).enter .checking).send sent
      match service.send sent with
      | .accepted =>
        (p.hold { sent with status := .queued }
          |>.enter .awaitingConfirmation
          |>.ask .confirmImport
          |>.finish .completed)
      | .failed _ =>
        (p.hold { sent with status := .failed }
          |>.enter .rejected
          |>.ask .invalidFile
          |>.finish .completed)
      | .silent => p.finish .abandoned
  else Step.outOfPhase w submitName channel

/-- Sends the checked file to the import. If that is refused, the phase stays and
the file stays in the slot until a reload. -/
def commit (w : Workflow) (service : Service) (channel : Channel := .fresh) : Step :=
  if w.phase = .awaitingConfirmation then
    match w.slot with
    | none => Step.refuse w .noCandidate channel
    | some item =>
      let p := (Progress.start w channel).dismiss .confirmImport
      let p := { p with state := { p.state with committed := true } }
      let sent := { item with target := .commit, status := .inFlight }
      let p := (p.enter .committing).send sent
      match service.send sent with
      | .accepted =>
        (p.hold { sent with status := .succeeded }
          |>.enter .done
          |>.ask .imported
          |>.finish .completed)
      | .failed _ =>
        (p.hold { sent with status := .failed }
          |>.ask .alreadyExists
          |>.finish .completed)
      | .silent => p.finish .abandoned
  else Step.outOfPhase w commitName channel

/-- Drops the checked file without importing it. -/
def cancel (w : Workflow) (channel : Channel := .fresh) : Step :=
  if w.phase = .awaitingConfirmation then
    ((Progress.start w channel).dismiss .confirmImport).reload.finish .completed
  else Step.outOfPhase w cancelName channel

/-- Deletes the active referential and reloads, whether that succeeds or not; only
success opens a dialog. -/
def delete (w : Workflow) (service : Service) (channel : Channel := .fresh) : Step :=
  let p := ((Progress.start w channel).enter .deleting).call .delete
  let p := match service.delete with
    | .ok () => p.ask .referentialEmpty
    | .error _ => p
  p.reload.finish .completed

/-- Reloads the view. -/
def reload (w : Workflow) (channel : Channel := .fresh) : Step :=
  (Progress.start w channel).reload.finish .completed

/-- Answers the open dialog, which is closed first. -/
def answer (w : Workflow) (service : Service) (choice : Choice)
    (channel : Channel := .fresh) : Step :=
  match w.pending with
  | none => Step.refuse w .noPendingPrompt channel
  | some kind =>
    let w := { w with pending := none }
    match kind, choice with
    | .confirmImport, .accept => w.commit service channel
    | .confirmImport, .decline => w.cancel channel
    | .invalidFile, _ | .referentialEmpty, _ => w.reload channel
    | .imported, _ | .alreadyExists, _ => (Progress.start w channel).finish .completed

/-- Carries out an operation. -/
def perform (w : Workflow) (service : Service) (operation : Operation)
    (channel : Channel := .fresh) : Step :=
  match operation with
  | .select item => w.select item channel
  | .submit => w.submit service channel
  | .commit => w.commit service channel
  | .cancel => w.cancel channel
  | .delete => w.delete service channel
  | .reload => w.reload channel
  | .answer choice => w.answer service choice channel

end Workflow

end ArchiveDesk
