import ArchiveDesk.Proofs.Upload.History

/-!
# The path of the phases

Every change of the phase is reported. The changes that a run reports form one path from the
idle phase to the present one, and a file advances along it from the check to the import. The
path is left in two ways only, into a deletion and back to idle, and a deletion is back at
idle before its operation ends.
-/

namespace ArchiveDesk

/-- The change of phase that a notice reports, from the first phase to the second. -/
def Notice.phaseChange? : Notice → Option (Phase × Phase)
  | .phaseChanged origin target => some (origin, target)
  | _ => none

/-- The changes of phase that some notices report. -/
def phaseChanges (notices : List Notice) : List (Phase × Phase) :=
  notices.filterMap Notice.phaseChange?

namespace Phase

/-- The changes that bring a file from its check to its import. -/
def advances : List (Phase × Phase) :=
  [(.idle, .checking), (.checking, .awaitingConfirmation), (.checking, .rejected),
    (.awaitingConfirmation, .committing), (.committing, .done)]

/-- A phase can be followed by another one: the file advances, a deletion begins, or the
upload returns to idle. -/
def LeadsTo (origin target : Phase) : Prop :=
  origin ≠ target ∧ ((origin, target) ∈ advances ∨ target = .deleting ∨ target = .idle)

instance (origin target : Phase) : Decidable (origin.LeadsTo target) :=
  inferInstanceAs (Decidable (_ ∧ _))

/-- The changes lead from one phase to another: each begins where the last one ended, and
can be made. -/
inductive Path : Phase → List (Phase × Phase) → Phase → Prop where
  | nil (p : Phase) : Path p [] p
  | cons {p q r : Phase} {changes : List (Phase × Phase)} (hchange : p.LeadsTo q)
      (hrest : Path q changes r) : Path p ((p, q) :: changes) r

/-- Two paths that meet are one. -/
theorem Path.append {p q r : Phase} {changes more : List (Phase × Phase)}
    (hpath : Path p changes q) (hmore : Path q more r) : Path p (changes ++ more) r := by
  induction hpath with
  | nil => exact hmore
  | cons hchange _ ih => exact .cons hchange (ih hmore)

/-- A single change is a path. -/
theorem LeadsTo.path {p q : Phase} (hchange : p.LeadsTo q) : Path p [(p, q)] q :=
  .cons hchange (.nil q)

/-- Every phase but idle leads to idle. -/
theorem leadsTo_idle {p : Phase} (hp : p ≠ .idle) : p.LeadsTo .idle := ⟨hp, .inr (.inr rfl)⟩

/-- Every phase but a deletion leads to a deletion. -/
theorem leadsTo_deleting {p : Phase} (hp : p ≠ .deleting) : p.LeadsTo .deleting :=
  ⟨hp, .inr (.inl rfl)⟩

end Phase

/-- Changes of phase are reported in the order of the notices. -/
@[simp] theorem phaseChanges_append (notices more : List Notice) :
    phaseChanges (notices ++ more) = phaseChanges notices ++ phaseChanges more :=
  List.filterMap_append

/-- Returning to idle from any phase is a path, of one change or none. -/
theorem path_entering_idle (p : Phase) : p.Path (phaseChanges (p.entering .idle)) .idle := by
  unfold Phase.entering
  split
  · rename_i hsame
    exact hsame ▸ .nil p
  · rename_i hother
    exact (Phase.leadsTo_idle hother).path

/-- A return to idle, and a notice without a change after it, change to nothing else. -/
theorem eq_idle_of_mem_entering {p origin target : Phase} {n : Notice}
    (hn : n.phaseChange? = none)
    (hchange : (origin, target) ∈ phaseChanges (p.entering .idle ++ [n])) : target = .idle := by
  have hnone : phaseChanges [n] = [] := by simp [phaseChanges, hn]
  rw [phaseChanges_append, hnone, List.append_nil] at hchange
  unfold Phase.entering at hchange
  split at hchange
  · exact absurd hchange List.not_mem_nil
  · exact (Prod.mk.inj (List.mem_singleton.mp hchange)).2

namespace Workflow.Effect

variable {w : Workflow} {service : Service} {op : Operation} {step : Step}

/-- Every effect reports a path from the phase before it to the phase after it. -/
theorem path (hw : w.Coherent) (heffect : w.Effect service op step) :
    w.phase.Path (phaseChanges step.notices) step.state.phase := by
  have hidle := path_entering_idle w.phase
  cases heffect with
  | refused | closed => exact .nil _
  | selected | reloaded | acknowledged =>
    rw [Progress.notices_holding, phaseChanges_append]
    exact hidle.append (.nil _)
  | passed _ hphase | rejected _ hphase | imported _ _ hphase =>
    rw [hphase]
    exact .cons (by decide) (Phase.LeadsTo.path (by decide))
  | unchecked _ hphase | conflicted _ _ hphase | unimported _ _ hphase | cancelled _ hphase =>
    rw [hphase]
    exact Phase.LeadsTo.path (by decide)
  | deleted | undeleted =>
    -- No operation meets a deletion that is still under way, so a deletion is a change.
    exact .cons (Phase.leadsTo_deleting hw.settled) (Phase.LeadsTo.path (by decide))

/-- A deletion is entered by deleting alone, which goes on to idle and ends there. -/
theorem phaseChanges_of_deleting (heffect : w.Effect service op step) {origin : Phase}
    (hchange : (origin, .deleting) ∈ phaseChanges step.notices) :
    op = .delete ∧ phaseChanges step.notices = [(origin, .deleting), (.deleting, .idle)] := by
  cases heffect with
  | deleted | undeleted =>
    obtain rfl : origin = w.phase := by simpa [phaseChanges, Notice.phaseChange?] using hchange
    exact ⟨rfl, rfl⟩
  | refused | closed => exact absurd hchange List.not_mem_nil
  | selected | reloaded | acknowledged => cases eq_idle_of_mem_entering rfl hchange
  | _ => simp [phaseChanges, Notice.phaseChange?] at hchange

/-- Only a file in the slot is checked. -/
theorem isSome_slot_of_checking (heffect : w.Effect service op step) {origin : Phase}
    (hchange : (origin, .checking) ∈ phaseChanges step.notices) : w.slot.isSome := by
  cases heffect with
  | passed _ _ hslot | rejected _ _ hslot | unchecked _ _ hslot => exact hslot ▸ rfl
  | refused | closed => exact absurd hchange List.not_mem_nil
  | selected | reloaded | acknowledged => cases eq_idle_of_mem_entering rfl hchange
  | _ => simp [phaseChanges, Notice.phaseChange?] at hchange

end Workflow.Effect

namespace Run

/-- The changes that a run reports lead from idle to its phase. -/
theorem path_ofDeeds (deeds : List Deed) :
    Phase.Path .idle (phaseChanges (ofDeeds deeds).notices) (ofDeeds deeds).state.phase := by
  induction deeds using ofDeeds_induction with
  | nil => exact .nil .idle
  | concat deeds deed step hrun heffect ih =>
    rw [hrun, notices_concat, phaseChanges_append]
    exact ih.append (heffect.path (coherent_ofDeeds deeds))

/-- **Legal phase paths.** The changes of phase that a run reports lead from idle to the
present phase, each a change that can be made. Whatever is done next, a deletion that it
enters is followed by the return to idle in the same operation, which is a deletion; and a
check is entered only with a file in the slot. -/
theorem ofDeeds_phasePath (deeds : List Deed) :
    let r := ofDeeds deeds
    Phase.Path .idle (phaseChanges r.notices) r.state.phase ∧
    ∀ deed : Deed,
      let step := r.state.perform deed.service deed.operation
      (∀ origin, (origin, .deleting) ∈ phaseChanges step.notices →
        deed.operation = .delete ∧
          phaseChanges step.notices = [(origin, .deleting), (.deleting, .idle)]) ∧
      (∀ origin, (origin, .checking) ∈ phaseChanges step.notices → r.state.slot.isSome) := by
  intro r
  refine ⟨path_ofDeeds deeds, fun deed => ?_⟩
  have heffect := Workflow.perform_effect deed.service (coherent_ofDeeds deeds) deed.operation
  exact ⟨fun _ => heffect.phaseChanges_of_deleting, fun _ => heffect.isSome_slot_of_checking⟩

end Run

end ArchiveDesk
