import ArchiveDesk.Proofs.Upload.History

/-!
# Refused operations

An operation is refused for its phase, for want of a file or of a dialog, or because
the slot is taken. The file lists when a workflow refuses what, and proves that a
workflow reached by operations refuses exactly this, whatever the service answers.
A refusal leaves no trace. For answers this rests on coherence: an answer closes the
dialog before the import begins, so it must not be refused after that.
-/

namespace ArchiveDesk

namespace Workflow

/-- When an operation is refused, and why. Deleting and reloading never are. -/
inductive Refuses (w : Workflow) : Operation → Failure → Prop where
  | selectOutOfPhase {item : Item} (hidle : w.phase ≠ .idle) (hdone : w.phase ≠ .done) :
      Refuses w (.select item) (.outOfPhase selectName w.phase)
  | slotTaken {item : Item} (hphase : w.phase = .idle) (hslot : w.slot ≠ none) :
      Refuses w (.select item) .slotTaken
  | submitOutOfPhase (hphase : w.phase ≠ .idle) :
      Refuses w .submit (.outOfPhase submitName w.phase)
  | noCandidate (hphase : w.phase = .idle) (hslot : w.slot = none) :
      Refuses w .submit .noCandidate
  | commitOutOfPhase (hphase : w.phase ≠ .awaitingConfirmation) :
      Refuses w .commit (.outOfPhase commitName w.phase)
  | cancelOutOfPhase (hphase : w.phase ≠ .awaitingConfirmation) :
      Refuses w .cancel (.outOfPhase cancelName w.phase)
  | noPendingPrompt {choice : Choice} (hpending : w.pending = none) :
      Refuses w (.answer choice) .noPendingPrompt

variable {w : Workflow} {op : Operation} {cause : Failure}

/-- What is refused does nothing else. -/
theorem perform_of_refuses (service : Service) (hw : w.Coherent) (hop : w.Refuses op cause) :
    w.perform service op = .refuse w cause := by
  cases hop with
  | selectOutOfPhase hidle hdone =>
    rw [perform, select, if_neg (not_or.mpr ⟨hidle, hdone⟩), Step.outOfPhase]
  | slotTaken hphase hslot =>
    -- The file in the slot still waits for its check, so it is not resolved.
    obtain ⟨item, hheld, -, hstatus⟩ := (hw.idle hphase).resolve_left hslot
    have hunresolved : ¬ w.slot.all (·.status.isResolved) = true := by
      simp [hheld, hstatus, Status.isResolved]
    rw [perform, select, if_pos (.inl hphase), if_neg hunresolved]
  | submitOutOfPhase hphase => rw [perform, submit, if_neg hphase, Step.outOfPhase]
  | noCandidate hphase hslot => simp only [perform, submit, hphase, hslot, if_true]
  | commitOutOfPhase hphase => rw [perform, commit, if_neg hphase, Step.outOfPhase]
  | cancelOutOfPhase hphase => rw [perform, cancel, if_neg hphase, Step.outOfPhase]
  | noPendingPrompt hpending => simp only [perform, answer, hpending]

/-- What the workflow does not admit is in the list. -/
theorem exists_refuses (hw : w.Coherent) (hop : ¬ w.Admits op) : ∃ cause, w.Refuses op cause := by
  cases op with
  | select item =>
    by_cases hidle : w.phase = .idle
    · refine ⟨_, .slotTaken hidle fun hnone => hop ⟨.inl hidle, ?_⟩⟩
      rw [hnone]
      rfl
    · refine ⟨_, .selectOutOfPhase hidle fun hdone => hop ⟨.inr hdone, ?_⟩⟩
      obtain ⟨-, item, hheld, -, hstatus⟩ := hw.done hdone
      simp [hheld, hstatus, Status.isResolved]
  | submit =>
    by_cases hidle : w.phase = .idle
    · refine ⟨_, .noCandidate hidle ?_⟩
      by_contra hslot
      exact hop ⟨hidle, Option.isSome_iff_ne_none.mpr hslot⟩
    · exact ⟨_, .submitOutOfPhase hidle⟩
  | commit => exact ⟨_, .commitOutOfPhase hop⟩
  | cancel => exact ⟨_, .cancelOutOfPhase hop⟩
  | delete => exact absurd trivial hop
  | reload => exact absurd trivial hop
  | answer choice => exact ⟨_, .noPendingPrompt (Option.not_isSome_iff_eq_none.mp hop)⟩

/-- Only what is not admitted ends in a refusal. -/
theorem Effect.not_admits {service : Service} {step : Step} (heffect : w.Effect service op step)
    (houtcome : step.outcome = .refused cause) : ¬ w.Admits op := by
  cases heffect with
  | refused _ hop => exact hop
  | _ => cases houtcome

/-- A coherent workflow refuses what is in the list and nothing else. -/
theorem outcome_eq_refused_iff (service : Service) (hw : w.Coherent) :
    (w.perform service op).outcome = .refused cause ↔ w.Refuses op cause := by
  constructor
  · intro houtcome
    have hop := (perform_effect service hw op).not_admits houtcome
    obtain ⟨other, hother⟩ := exists_refuses hw hop
    rw [perform_of_refuses service hw hother] at houtcome
    obtain rfl : other = cause := Outcome.refused.inj houtcome
    exact hother
  · intro hop
    rw [perform_of_refuses service hw hop]
    rfl

end Workflow

/-- **Errors are exact and atomic.** A workflow reached by operations refuses exactly the
operations in the list, for the cause given there, whatever the service answers; and
what is refused leaves the workflow as it was, reports nothing and calls nothing. -/
theorem Run.refused_iff_refuses (deeds : List Deed) (service : Service) (op : Operation)
    (cause : Failure) :
    let w := (ofDeeds deeds).state
    let step := w.perform service op
    (step.outcome = .refused cause ↔ w.Refuses op cause) ∧
      (step.outcome = .refused cause → step.state = w ∧ step.notices = [] ∧ step.calls = []) := by
  intro w step
  have hw : w.Coherent := coherent_ofDeeds deeds
  have hiff : step.outcome = .refused cause ↔ w.Refuses op cause :=
    Workflow.outcome_eq_refused_iff service hw
  refine ⟨hiff, fun houtcome => ?_⟩
  have hstep : step = .refuse w cause := Workflow.perform_of_refuses service hw (hiff.mp houtcome)
  rw [hstep]
  exact ⟨rfl, rfl, rfl⟩

end ArchiveDesk
