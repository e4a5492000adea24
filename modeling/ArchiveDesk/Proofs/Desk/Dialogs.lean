import ArchiveDesk.Desk.Journal
import ArchiveDesk.Proofs.Desk.Session
import ArchiveDesk.Proofs.Upload.Effect

/-!
# How dialogs reach the panel

A notice may raise a dialog, and the panel shows the last one that was raised.
The workflow, too, has at most one dialog. This file compares the two for each
command: a command raises a dialog with a notice, but it can also close one
without saying so. It also says when a command imports a file.
-/

namespace ArchiveDesk

/-! ## Dialogs of notices -/

/-- Without notices no dialog is raised. -/
@[simp] theorem dialogs_nil : dialogs [] = [] := rfl

/-- Dialogs are raised in the order of the notices. -/
@[simp] theorem dialogs_append (notices others : List Notice) :
    dialogs (notices ++ others) = dialogs notices ++ dialogs others :=
  List.filterMap_append

/-- The first notice raises its dialog first. -/
@[simp] theorem dialogs_cons (n : Notice) (notices : List Notice) :
    dialogs (n :: notices) = n.dialog?.toList ++ dialogs notices := by
  cases h : n.dialog? <;> simp [dialogs, h]

/-- Entering a phase raises no dialog. -/
@[simp] theorem dialogs_entering (origin target : Phase) :
    dialogs (origin.entering target) = [] := by
  unfold Phase.entering
  split <;> rfl

namespace Panel

/-- A notice with a dialog replaces the one that is shown. -/
theorem prompt_hear (p : Panel) (n : Notice) : (p.hear n).prompt = n.dialog?.or p.prompt := by
  cases n <;> rfl

/-- After some notices the panel shows the last of their dialogs. -/
theorem prompt_foldl_hear (p : Panel) (notices : List Notice) :
    (notices.foldl hear p).prompt = (dialogs notices).getLast?.or p.prompt := by
  induction notices generalizing p with
  | nil => rfl
  | cons n notices ih =>
    rw [List.foldl_cons, ih, prompt_hear, dialogs_cons, List.getLast?_append, Option.or_assoc]
    cases n.dialog? <;> rfl

/-- Updates leave the dialog alone. -/
theorem prompt_foldl_accept (p : Panel) (updates : List Update) :
    (updates.foldl accept p).prompt = p.prompt := by
  induction updates generalizing p with
  | nil => rfl
  | cons u updates ih =>
    rw [List.foldl_cons, ih]
    cases u <;> rfl

end Panel

/-! ## What a command does to the dialog -/

/-- The operation that a command asks of the workflow. -/
def Command.operation? (files : FileTree) : Command → Option Operation
  | .selectFile path => (Item.ofPath files path).toOption.map .select
  | .submit => some .submit
  | .answer choice => some (.answer choice)
  | .delete => some .delete
  | .reload => some .reload
  | .fetch _ _ => none

/-- An answer is asked for by an answer alone. -/
theorem Command.operation?_eq_answer (files : FileTree) {c : Command} {choice : Choice} :
    c.operation? files = some (.answer choice) ↔ c = .answer choice := by
  cases c <;> simp [operation?]

/-- No command asks for an import directly. -/
theorem Command.operation?_ne_commit {files : FileTree} {c : Command} :
    c.operation? files ≠ some .commit := by
  cases c <;> simp [operation?]

/-- What an operation, if there is one, does to the dialog of the workflow, and what
its notices say of it. -/
inductive Workflow.DialogEffect (w : Workflow) (op : Option Operation) (p : Progress) : Prop where
  /-- One dialog is raised. -/
  | raised (kind : PromptKind) (hnotices : dialogs p.notices = [kind])
      (hpending : p.state.pending = some kind)
  /-- The dialog is closed, if there was one. The notices say nothing of it. -/
  | closed (hop : op.isSome = true) (hnotices : dialogs p.notices = [])
      (hpending : p.state.pending = none)
  /-- The dialog stays. No answer leaves the dialog that it meets. -/
  | kept (hop : ∀ choice, op = some (.answer choice) → w.pending = none)
      (hnotices : dialogs p.notices = []) (hpending : p.state.pending = w.pending)

/-- Without the confirmation, the dialog is either closed or the same as before. -/
private theorem dialogEffect_of_withoutConfirmation {w : Workflow} {op : Operation} {p : Progress}
    (hop : ∀ choice, op ≠ .answer choice) (hnotices : dialogs p.notices = [])
    (hpending : p.state.pending = w.withoutConfirmation) : w.DialogEffect (some op) p := by
  cases hkind : w.pending with
  | none =>
    refine .closed rfl hnotices ?_
    rw [hpending, Workflow.withoutConfirmation, hkind]
    rfl
  | some kind =>
    by_cases hconfirm : kind = .confirmImport
    · refine .closed rfl hnotices ?_
      rw [hpending, Workflow.withoutConfirmation, hkind, hconfirm]
      rfl
    · refine .kept (fun choice h => absurd (Option.some.inj h) (hop choice)) hnotices ?_
      simp [hpending, Workflow.withoutConfirmation, hkind, Option.filter_some, hconfirm]

/-- Every effect on a workflow does one of the three to its dialog. -/
theorem Workflow.Effect.dialog {w : Workflow} {service : Service} {op : Operation} {step : Step}
    (heffect : w.Effect service op step) : w.DialogEffect (some op) step.toProgress := by
  cases heffect with
  | refused cause hop =>
    refine .kept ?_ rfl rfl
    intro choice hanswer
    rw [Option.some.inj hanswer] at hop
    simpa [Admits] using hop
  | selected item => exact .kept (by simp) (by simp [Notice.dialog?]) rfl
  | unchecked item => exact .kept (by simp) rfl rfl
  | passed | rejected | imported | conflicted | deleted => exact .raised _ rfl rfl
  | unimported | cancelled => exact .closed rfl rfl rfl
  | acknowledged | closed => exact .closed rfl (by simp [Notice.dialog?]) rfl
  | reloaded =>
    exact dialogEffect_of_withoutConfirmation (by simp) (by simp [Notice.dialog?]) rfl
  | undeleted => exact dialogEffect_of_withoutConfirmation (by simp) rfl rfl

/-- A file is imported by a commit, or by accepting, in the phase of the confirmation
and in no other one. -/
theorem Workflow.Effect.imports_iff {w : Workflow} {service : Service} {op : Operation}
    {step : Step} (hw : w.Coherent) (heffect : w.Effect service op step) :
    (∃ item, .send item ∈ step.calls ∧ item.target = .commit) ↔
      (op = .commit ∨ op = .answer .accept) ∧ w.pending = some .confirmImport := by
  rw [hw.confirming]
  cases heffect with
  | refused cause hop =>
    refine ⟨fun ⟨_, hsend, _⟩ => absurd hsend List.not_mem_nil, ?_⟩
    rintro ⟨rfl | rfl, hphase⟩
    · exact absurd hphase hop
    · simp [Admits, hw.confirming.mpr hphase] at hop
  | imported item hop hphase | conflicted item hop hphase | unimported item hop hphase =>
    exact ⟨fun _ => ⟨hop, hphase⟩, fun _ => ⟨_, List.mem_singleton_self _, rfl⟩⟩
  | cancelled hop => rcases hop with rfl | rfl <;> simp
  | acknowledged hpending hkind | closed hpending hkind =>
    rw [← hw.confirming, hpending]
    rcases hkind with rfl | rfl <;> simp
  | _ => simp [Item.marked]

namespace Worker

variable {around : Surroundings} {w : Workflow} {c : Command}

/-- A command does what its operation does. -/
theorem step_of_operation? {op : Operation} (hop : c.operation? around.files = some op) :
    step around w c = w.perform around.remote.service op := by
  cases c with
  | selectFile path =>
    cases hitem : Item.ofPath around.files path with
    | ok item =>
      obtain rfl : Operation.select item = op := by
        simpa [Command.operation?, hitem, Except.toOption] using hop
      simp only [step, hitem, Workflow.perform]
    | error cause => simp [Command.operation?, hitem, Except.toOption] at hop
  | fetch => simp [Command.operation?] at hop
  | _ =>
    obtain rfl := Option.some.inj hop
    rfl

/-- A command that asks nothing of the workflow leaves it alone. -/
theorem step_of_operation?_eq_none (hop : c.operation? around.files = none) :
    (step around w c).toProgress = Progress.start w := by
  cases c with
  | selectFile path =>
    cases hitem : Item.ofPath around.files path with
    | ok item => simp [Command.operation?, hitem, Except.toOption] at hop
    | error cause =>
      simp only [step, hitem]
      rfl
  | fetch => rfl
  | _ => simp [Command.operation?] at hop

/-- A command has the effect of its operation, or none. -/
theorem step_effect (hw : w.Coherent) :
    (∃ op, c.operation? around.files = some op ∧
      w.Effect around.remote.service op (step around w c)) ∨
    (c.operation? around.files = none ∧ (step around w c).toProgress = Progress.start w) := by
  cases hop : c.operation? around.files with
  | none => exact .inr ⟨rfl, step_of_operation?_eq_none hop⟩
  | some op =>
    refine .inl ⟨op, rfl, ?_⟩
    rw [step_of_operation? hop]
    exact Workflow.perform_effect _ hw op

/-- A command leaves a coherent workflow. -/
theorem step_coherent (hw : w.Coherent) : (step around w c).state.Coherent := by
  rcases step_effect hw with ⟨op, -, heffect⟩ | ⟨-, hstep⟩
  · exact heffect.coherent hw
  · rw [hstep]
    exact hw

/-- What a command does to the dialog. -/
theorem handle_dialog (around : Surroundings) (c : Command) (hw : w.Coherent) :
    w.DialogEffect (c.operation? around.files) (handle around w c).progress := by
  rw [progress_handle]
  rcases step_effect hw with ⟨op, hop, heffect⟩ | ⟨hop, hstep⟩
  · rw [hop]
    exact heffect.dialog
  · rw [hop, hstep]
    exact .kept (by simp) rfl rfl

/-- A file is imported by one command alone: by accepting while the confirmation is
open in the workflow. -/
theorem imports_iff (hw : w.Coherent) :
    (∃ item, .send item ∈ (step around w c).calls ∧ item.target = .commit) ↔
      c = .answer .accept ∧ w.pending = some .confirmImport := by
  rcases step_effect hw with ⟨op, hop, heffect⟩ | ⟨hop, hstep⟩
  · rw [heffect.imports_iff hw, ← Command.operation?_eq_answer around.files, hop,
      Option.some.injEq, or_iff_right]
    rintro rfl
    exact Command.operation?_ne_commit hop
  · rw [hstep, ← Command.operation?_eq_answer around.files, hop]
    simp [Progress.start]

end Worker

end ArchiveDesk
