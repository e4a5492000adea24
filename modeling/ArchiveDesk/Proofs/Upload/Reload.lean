import ArchiveDesk.Proofs.Upload.History

/-!
# What reloads the view

A reload is asked for by itself, or it ends a deletion, a cancelled import or the answer to a
dialog. It sends no file, and it is the only thing that empties the slot.
-/

namespace ArchiveDesk

/-- Whether an operation with this outcome reloads the view. -/
def Workflow.ReloadedBy (w : Workflow) (op : Operation) (outcome : Outcome) : Prop :=
  match op with
  | .reload | .delete => True
  | .cancel => outcome = .completed
  | .answer choice =>
    w.pending = some .confirmImport ∧ choice = .decline ∨
      w.pending = some .invalidFile ∨ w.pending = some .referentialEmpty
  | .select _ | .submit | .commit => False

namespace Workflow.Effect

variable {w : Workflow} {service : Service} {op : Operation} {step : Step}

/-- The view is reloaded by the operations that are to reload it, and by no others. -/
theorem reloads_iff (hw : w.Coherent) (heffect : w.Effect service op step) :
    Entry.Reloads (⟨op, service⟩, step) ↔ w.ReloadedBy op step.outcome := by
  cases heffect with
  | refused cause hop =>
    refine iff_of_false List.not_mem_nil ?_
    cases op with
    | delete | reload => exact absurd trivial hop
    | cancel => exact nofun
    | answer choice =>
      have hpending : w.pending = none := Option.not_isSome_iff_eq_none.mp hop
      simp [ReloadedBy, hpending]
    | _ => exact id
  | imported _ hop hphase | conflicted _ hop hphase | unimported _ hop hphase
  | cancelled hop hphase =>
    -- In this phase the open dialog is the confirmation, which the answer is for.
    have hpending := hw.confirming.mpr hphase
    rcases hop with rfl | rfl <;> simp [Entry.Reloads, ReloadedBy, hpending]
  | acknowledged hpending hkind | closed hpending hkind =>
    rcases hkind with rfl | rfl <;> simp [Entry.Reloads, ReloadedBy, hpending]
  | selected => simp [Entry.Reloads, ReloadedBy, Phase.entering]
  | _ => simp [Entry.Reloads, ReloadedBy]

/-- An operation that reloads the view sends no file. -/
theorem sent_eq_nil_of_reloads (heffect : w.Effect service op step)
    (hreloads : Entry.Reloads (⟨op, service⟩, step)) (target : Target) :
    Entry.sent target (⟨op, service⟩, step) = [] := by
  cases heffect with
  | refused => rfl
  | passed | rejected | unchecked | imported | conflicted | unimported =>
    simp [Entry.Reloads] at hreloads
  | _ => rfl

/-- A slot with a file is emptied by a reload of the view, and by nothing else. -/
theorem slot_eq_none_iff {held : Item} (heffect : w.Effect service op step)
    (hheld : w.slot = some held) :
    step.state.slot = none ↔ Entry.Reloads (⟨op, service⟩, step) := by
  cases heffect with
  | refused | closed =>
    refine iff_of_false ?_ List.not_mem_nil
    change ¬ w.slot = none
    simp [hheld]
  | _ => simp [Entry.Reloads, Phase.entering]

end Workflow.Effect

end ArchiveDesk
