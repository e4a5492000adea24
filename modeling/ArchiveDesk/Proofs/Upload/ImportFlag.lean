import ArchiveDesk.Proofs.Upload.Reload

/-!
# What the import flag says

The workflow remembers with one flag that an import was sent. The flag is raised before the
file is sent and taken down by every reload of the view, so it can be read off the history: it
says that a file was sent to the import after the last reload. How the import ended, and which
file is in the slot now, does not matter.
-/

namespace ArchiveDesk

/-- The history ends in a stretch without a reload in which a file was sent to the target. -/
def SentSinceReload (target : Target) (history : List Entry) : Prop :=
  ∃ before stretch, history = before ++ stretch ∧ (∀ e ∈ stretch, ¬ e.Reloads) ∧
    sends target stretch ≠ []

/-- Nothing is sent in the empty history. -/
theorem not_sentSinceReload_nil (target : Target) : ¬ SentSinceReload target [] := by
  rintro ⟨before, stretch, hsplit, -, hsends⟩
  obtain ⟨-, rfl⟩ := List.append_eq_nil_iff.mp hsplit.symm
  exact hsends rfl

/-- One more entry starts afresh if it reloads, and otherwise adds what it has sent. -/
theorem sentSinceReload_concat (target : Target) (history : List Entry) (e : Entry) :
    SentSinceReload target (history ++ [e]) ↔
      ¬ e.Reloads ∧ (e.sent target ≠ [] ∨ SentSinceReload target history) := by
  constructor
  · rintro ⟨before, stretch, hsplit, hstretch, hsends⟩
    obtain rfl | ⟨stretch, rfl, hbefore⟩ := suffix_concat hsplit
    · exact absurd rfl hsends
    · obtain ⟨hearlier, hlast⟩ := List.forall_mem_append.mp hstretch
      refine ⟨hlast e (List.mem_singleton_self e), ?_⟩
      by_cases hsent : e.sent target = []
      · rw [sends_concat, hsent, List.append_nil] at hsends
        exact .inr ⟨before, stretch, hbefore, hearlier, hsends⟩
      · exact .inl hsent
  · rintro ⟨hreloads, hsent | ⟨before, stretch, rfl, hstretch, hsends⟩⟩
    · exact ⟨history, [e], rfl, List.forall_mem_singleton.mpr hreloads,
        by simpa [sends] using hsent⟩
    · refine ⟨before, stretch ++ [e], List.append_assoc .., ?_, by simp [sends_concat, hsends]⟩
      exact List.forall_mem_append.mpr ⟨hstretch, List.forall_mem_singleton.mpr hreloads⟩

namespace Workflow.Effect

variable {w : Workflow} {service : Service} {op : Operation} {step : Step}

/-- The flag is up after an operation that does not reload the view, if the operation sends a
file to the import or if the flag was up before. -/
theorem committed_iff (heffect : w.Effect service op step) :
    step.state.committed = true ↔ ¬ Entry.Reloads (⟨op, service⟩, step) ∧
      (Entry.sent .commit (⟨op, service⟩, step) ≠ [] ∨ w.committed = true) := by
  cases heffect with
  | refused =>
    exact ⟨fun hcommitted => ⟨List.not_mem_nil, .inr hcommitted⟩,
      fun h => h.2.resolve_left (not_not.mpr rfl)⟩
  | _ => simp [Entry.Reloads, Entry.sent, Item.marked, Phase.entering]

/-- The choice and the check of a file leave the flag alone. -/
theorem committed_eq (heffect : w.Effect service op step)
    (hop : op = .submit ∨ ∃ item, op = .select item) : step.state.committed = w.committed := by
  cases heffect with
  | refused | selected | passed | rejected | unchecked | closed => rfl
  | imported _ hother | conflicted _ hother | unimported _ hother | cancelled hother =>
    rcases hother with rfl | rfl <;> simp at hop
  | _ => simp at hop

end Workflow.Effect

namespace Run

/-- The flag is up if and only if a file was sent to the import since the last reload. -/
theorem committed_iff_sentSinceReload (deeds : List Deed) :
    (ofDeeds deeds).state.committed = true ↔
      SentSinceReload .commit (ofDeeds deeds).history := by
  induction deeds using ofDeeds_induction with
  | nil => exact iff_of_false (by decide) (not_sentSinceReload_nil .commit)
  | concat deeds deed step hrun heffect ih =>
    rw [hrun, sentSinceReload_concat, ← ih]
    exact heffect.committed_iff

/-- **Meaning of the import flag.** After every run the flag is up if and only if a file was
sent to the import since the view was last reloaded. Whatever is done next reloads the view
exactly if it is one of the operations that are to do so, and then it sends nothing; and the
choice or the check of another file leaves the flag alone. -/
theorem ofDeeds_committed_iff (deeds : List Deed) :
    let r := ofDeeds deeds
    (r.state.committed = true ↔ SentSinceReload .commit r.history) ∧
    ∀ deed : Deed,
      let step := r.state.perform deed.service deed.operation
      (Entry.Reloads (deed, step) ↔ r.state.ReloadedBy deed.operation step.outcome) ∧
      (Entry.Reloads (deed, step) → ∀ target, Entry.sent target (deed, step) = []) ∧
      (deed.operation = .submit ∨ (∃ item, deed.operation = .select item) →
        step.state.committed = r.state.committed) := by
  intro r
  refine ⟨committed_iff_sentSinceReload deeds, fun deed => ?_⟩
  have hw := coherent_ofDeeds deeds
  have heffect := Workflow.perform_effect deed.service hw deed.operation
  exact ⟨heffect.reloads_iff hw, heffect.sent_eq_nil_of_reloads, heffect.committed_eq⟩

end Run

end ArchiveDesk
