import ArchiveDesk.Desk.Session
import ArchiveDesk.Proofs.Upload.Listening

/-!
# Turns of a session

What a turn of the operator or of the worker does to a session, written as one
update of it. A command of the operator goes to the end of the queue; the worker
takes one from the front and sends what its step reports.
-/

namespace ArchiveDesk

/-- The workflow that the worker holds. -/
def WorkerState.workflow? : WorkerState → Option Workflow
  | .ready w | .waiting w => some w
  | .gone => none

/-- The worker after a command. -/
def Handled.worker (h : Handled) : WorkerState :=
  if h.isEnded then .ready h.state else .waiting h.state

/-- The worker holds what the command left. -/
theorem Handled.workflow?_worker (h : Handled) : h.worker.workflow? = some h.state := by
  unfold worker
  split <;> rfl

/-- A worker that has carried out a command is there. -/
theorem Handled.worker_ne_gone (h : Handled) : h.worker ≠ .gone := by
  unfold worker
  split <;> simp

/-- The notices of a command. -/
def Handled.notices (h : Handled) : List Notice := h.messages.filterMap Message.notice?

/-- The updates of a command. -/
def Handled.updates (h : Handled) : List Update := h.messages.filterMap Message.update?

/-- What a command came to, without its updates. -/
def Handled.progress (h : Handled) : Progress := ⟨h.state, .holding h.notices, h.calls⟩

namespace Message

/-- Notices that were sent as messages are found again. -/
@[simp] theorem filterMap_notice?_notices (notices : List Notice) :
    (notices.map notice).filterMap notice? = notices := by
  rw [List.filterMap_map]
  exact List.filterMap_some

/-- No notice is found among updates. -/
@[simp] theorem filterMap_notice?_updates (updates : List Update) :
    (updates.map update).filterMap notice? = [] := by
  rw [List.filterMap_map]
  exact List.filterMap_eq_nil_iff.mpr fun _ _ => rfl

/-- No update is found among notices. -/
@[simp] theorem filterMap_update?_notices (notices : List Notice) :
    (notices.map notice).filterMap update? = [] := by
  rw [List.filterMap_map]
  exact List.filterMap_eq_nil_iff.mpr fun _ _ => rfl

/-- Updates that were sent as messages are found again. -/
@[simp] theorem filterMap_update?_updates (updates : List Update) :
    (updates.map update).filterMap update? = updates := by
  rw [List.filterMap_map]
  exact List.filterMap_some

end Message

namespace Worker

/-- All that the step of a command reports arrives. -/
theorem channel_step (around : Surroundings) (w : Workflow) (c : Command) :
    (step around w c).channel = .holding (step around w c).notices := by
  have hperform := w.channel_perform around.remote.service
  cases c with
  | selectFile path =>
    cases hitem : Item.ofPath around.files path with
    | ok item =>
      simp only [step, hitem]
      exact hperform (.select item)
    | error cause =>
      simp only [step, hitem]
      rfl
  | submit => exact hperform .submit
  | answer choice => exact hperform (.answer choice)
  | delete => exact hperform .delete
  | reload => exact hperform .reload
  | fetch kind id => rfl

/-- What a command came to is what its step came to. -/
theorem progress_handle (around : Surroundings) (w : Workflow) (c : Command) :
    (handle around w c).progress = (step around w c).toProgress := by
  have hnotices : (handle around w c).notices = (step around w c).notices := by
    simp only [handle, Handled.notices, List.filterMap_append,
      Message.filterMap_notice?_notices, Message.filterMap_notice?_updates, List.append_nil]
    rfl
  rw [Handled.progress, hnotices, ← channel_step]
  rfl

/-- The worker says that a command begins, what it has found, and how it ends. -/
theorem updates_handle (around : Surroundings) (w : Workflow) (c : Command) :
    (handle around w c).updates =
      [.busy true] ++ found around c ++ closing (step around w c).outcome := by
  simp only [handle, Handled.updates, List.filterMap_append, Message.filterMap_update?_notices,
    Message.filterMap_update?_updates, List.append_assoc]
  rfl

/-- The worker reports a failure exactly if the command was refused. -/
theorem failed_mem_updates_iff {around : Surroundings} {w : Workflow} {c : Command}
    {cause : Failure} :
    .failed cause ∈ (handle around w c).updates ↔
      (step around w c).outcome = .refused cause := by
  have hfound : .failed cause ∉ found around c := by
    cases c <;> simp [found]
  have hclosing (outcome : Outcome) :
      .failed cause ∈ closing outcome ↔ outcome = .refused cause := by
    cases outcome <;> simp [closing, eq_comm]
  rw [updates_handle, List.mem_append, hclosing]
  simp [hfound]

end Worker

namespace Session

/-- Messages join the queues in their order. -/
theorem foldl_deliver (s : Session) (messages : List Message) :
    messages.foldl deliver s = { s with
      notices := s.notices ++ messages.filterMap Message.notice?
      updates := s.updates ++ messages.filterMap Message.update? } := by
  induction messages generalizing s with
  | nil => simp
  | cons m messages ih =>
    rw [List.foldl_cons, ih]
    cases m <;> simp [deliver, List.filterMap_cons, Message.notice?, Message.update?]

/-- A turn of a worker that takes a command. -/
theorem work_ready {s : Session} {w : Workflow} {c : Command} {rest : List Command}
    (around : Surroundings) (hworker : s.worker = .ready w) (hcommands : s.commands = c :: rest) :
    s.work around = { s with
      worker := (Worker.handle around w c).worker
      commands := rest
      notices := s.notices ++ (Worker.handle around w c).notices
      updates := s.updates ++ (Worker.handle around w c).updates } := by
  simp only [work, hworker, hcommands, foldl_deliver]
  rfl

/-- Without a command, the worker does nothing. -/
theorem work_of_commands_eq_nil {s : Session} (around : Surroundings)
    (hcommands : s.commands = []) : s.work around = s := by
  unfold work
  split
  · rename_i heq
    simp [hcommands] at heq
  · rfl

/-- A worker that is not ready takes no command. -/
theorem work_of_not_ready {s : Session} (around : Surroundings)
    (hworker : ∀ w, s.worker ≠ .ready w) : s.work around = s := by
  unfold work
  split
  · rename_i heq _
    exact absurd heq (hworker _)
  · rfl

/-- While there is a worker, a command joins its queue. -/
theorem send_eq {s : Session} (hworker : s.worker ≠ .gone) (c : Command) :
    s.send c = { s with commands := s.commands ++ [c] } := by
  unfold send
  split
  · rename_i heq
    exact absurd heq hworker
  · rfl

/-- An action with a command changes the panel and sends it. -/
theorem act_eq_of_some {s : Session} (hworker : s.worker ≠ .gone) {action : Action} {panel : Panel}
    {c : Command} (haction : s.panel.act s.catalogue action = (panel, some c)) :
    s.act action = { s with panel, commands := s.commands ++ [c] } := by
  have hsend := send_eq (s := { s with panel }) hworker c
  simpa only [act, haction] using hsend

/-- An action without a command changes the panel alone. -/
theorem act_eq_of_none {s : Session} {action : Action} {panel : Panel}
    (haction : s.panel.act s.catalogue action = (panel, none)) :
    s.act action = { s with panel } := by
  simp only [act, haction]

/-- Without an identifier no view is opened. -/
theorem openLifecycle_of_none {s : Session} (hview : s.panel.requested? s.catalogue = none) :
    s.act .openLifecycle = s := by
  have haction : s.panel.act s.catalogue .openLifecycle = (s.panel, none) := by
    simp only [Panel.act, hview]
  rw [act_eq_of_none haction]

/-- A view is opened, and its lifecycle is looked up. -/
theorem openLifecycle_of_some {s : Session} (hworker : s.worker ≠ .gone) {view : Lifecycle.View}
    (hview : s.panel.requested? s.catalogue = some view) :
    s.act .openLifecycle = { s with
      panel := { s.panel with view := some view }
      commands := s.commands ++ [.fetch view.kind view.id] } := by
  refine act_eq_of_some hworker ?_
  simp only [Panel.act, hview]

end Session

/-! ## A small desk -/

/-- No lifecycle fields. -/
def Catalogue.bare : Catalogue := ⟨.empty, ⟨.empty⟩⟩

/-- One empty file, and a server that accepts files and deletions. -/
def Surroundings.willing : Surroundings where
  files := ⟨[], [(["a"], .file .empty)]⟩
  remote := {
    service := ⟨fun _ => .accepted, .ok ()⟩
    lookup _ _ := some (.error (.io "no lifecycles")) }

end ArchiveDesk
