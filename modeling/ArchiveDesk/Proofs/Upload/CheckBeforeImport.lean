import ArchiveDesk.Proofs.Upload.History

/-!
# A file is checked before it is imported

The import of a file always follows a check that the same file has just passed:
nothing is sent, deleted, reloaded or selected in between. Two invariants carry
this through a run. While the confirmation is awaited, the history ends in the
passed check of the file in the slot. And a stretch of the history without a new
selection has sent at most one file to each target, none at all while a selected
file still waits for its check.
-/

namespace ArchiveDesk

/-- The last thing that a history did was to pass the check of this file. -/
def EndsInPassedCheck (history : List Entry) (item : Item) : Prop :=
  ∃ earlier c between checked, history = earlier ++ c :: between ∧
    c.SendsOnly checked ∧ checked.target = .check ∧ c.1.service.send checked = .accepted ∧
    checked.SameFile item ∧ ∀ e ∈ between, e.Quiet

/-- Every import is the only thing that its operation does, and follows the passed
check of the same file. -/
def ImportsChecked (history : List Entry) : Prop :=
  AtEach (fun before e => ∀ item, .send item ∈ e.2.calls → item.target = .commit →
    e.SendsOnly item ∧ EndsInPassedCheck before item) history

/-- Only the file that was selected last is sent, and while no other file is selected
it is sent at most once to each target. -/
def SentOncePerSelection (history : List Entry) : Prop :=
  AtEach (fun before e => ∀ item, .send item ∈ e.2.calls →
    ∃ chosen, lastSelected? before = some chosen ∧ item.SameFile chosen) history ∧
  ∀ before stretch after, history = before ++ stretch ++ after →
    (∀ e ∈ stretch, e.selected? = none) → ∀ target, (sends target stretch).length ≤ 1

/-- What a stretch without a selection may have sent when it ends in this workflow. -/
def Workflow.Spares (w : Workflow) (stretch : List Entry) : Prop :=
  (∀ target, (sends target stretch).length ≤ 1) ∧
  (w.phase = .idle → w.slot.isSome → ∀ target, sends target stretch = []) ∧
  (w.phase = .awaitingConfirmation → sends .commit stretch = [])

/-- A quiet entry leaves a passed check the last thing that was done. -/
theorem EndsInPassedCheck.concat {history : List Entry} {item : Item} {e : Entry}
    (hhistory : EndsInPassedCheck history item) (he : e.Quiet) :
    EndsInPassedCheck (history ++ [e]) item := by
  obtain ⟨earlier, c, between, checked, rfl, hsends, htarget, hreply, hsame, hquiet⟩ := hhistory
  refine ⟨earlier, c, between ++ [e], checked, by simp, hsends, htarget, hreply, hsame, ?_⟩
  intro x hx
  rcases List.mem_append.mp hx with hx | hx
  · exact hquiet x hx
  · rwa [List.mem_singleton.mp hx]

namespace Workflow.Effect

variable {w : Workflow} {service : Service} {op : Operation} {step : Step}

/-- A refused operation is quiet. -/
theorem quiet_refuse (cause : Failure) : Entry.Quiet (⟨op, service⟩, Step.refuse w cause) := by
  refine ⟨rfl, List.not_mem_nil, ?_⟩
  cases op <;> rfl

/-- A file is sent for the check from the idle phase and for the import from the phase
of the confirmation, each time the file in the slot and nothing else. -/
theorem send_cases (heffect : w.Effect service op step) {item : Item}
    (hsend : .send item ∈ step.calls) :
    ∃ held, w.slot = some held ∧ item.SameFile held ∧
      Entry.SendsOnly (⟨op, service⟩, step) item ∧
      (w.phase = .idle ∧ item.target = .check ∨
        w.phase = .awaitingConfirmation ∧ item.target = .commit) := by
  cases heffect with
  | passed held hphase hheld | rejected held hphase hheld | unchecked held hphase hheld =>
    obtain rfl : item = held.marked .check .inFlight := by simpa using hsend
    exact ⟨held, hheld, ⟨rfl, rfl⟩, ⟨rfl, by simp [Entry.Reloads], rfl⟩, .inl ⟨hphase, rfl⟩⟩
  | imported held hop hphase hheld | conflicted held hop hphase hheld
  | unimported held hop hphase hheld =>
    obtain rfl : item = held.marked .commit .inFlight := by simpa using hsend
    refine ⟨held, hheld, ⟨rfl, rfl⟩, ⟨rfl, by simp [Entry.Reloads], ?_⟩, .inr ⟨hphase, rfl⟩⟩
    rcases hop with rfl | rfl <;> rfl
  | refused => exact absurd hsend List.not_mem_nil
  | _ => simp at hsend

/-- The confirmation is awaited after a passed check, and as long as nothing else is
done. -/
theorem endsInPassedCheck (heffect : w.Effect service op step) {history : List Entry}
    (hhistory : w.phase = .awaitingConfirmation → ∀ held, w.slot = some held →
      EndsInPassedCheck history held)
    (hphase : step.state.phase = .awaitingConfirmation) {item : Item}
    (hslot : step.state.slot = some item) :
    EndsInPassedCheck (history ++ [(⟨op, service⟩, step)]) item := by
  cases heffect with
  | passed held _ _ hreply =>
    obtain rfl := Option.some.inj hslot
    exact ⟨history, _, [], held.marked .check .inFlight, rfl,
      ⟨rfl, by simp [Entry.Reloads], rfl⟩, rfl, hreply, ⟨rfl, rfl⟩, by simp⟩
  | refused cause => exact (hhistory hphase item hslot).concat (quiet_refuse cause)
  | closed => exact (hhistory hphase item hslot).concat ⟨rfl, List.not_mem_nil, rfl⟩
  | _ => simp at hphase

/-- Without a selection, no effect makes a stretch send a file twice to a target. -/
theorem spares_concat (heffect : w.Effect service op step)
    (hselected : Entry.selected? (⟨op, service⟩, step) = none) {stretch : List Entry}
    (hstretch : w.Spares stretch) :
    step.state.Spares (stretch ++ [(⟨op, service⟩, step)]) := by
  obtain ⟨honce, hfresh, hawaiting⟩ := hstretch
  unfold Spares
  simp only [sends_concat]
  cases heffect with
  | selected => simp [Entry.selected?] at hselected
  | passed held hphase hheld | rejected held hphase hheld | unchecked held hphase hheld =>
    have hnone := hfresh hphase (by simp [hheld])
    refine ⟨fun target => ?_, by simp, by simp [hnone, Entry.sent, Item.marked]⟩
    cases target <;> simp [hnone, Entry.sent, Item.marked]
  | imported held hop hphase hheld | conflicted held hop hphase hheld
  | unimported held hop hphase hheld =>
    have hnone := hawaiting hphase
    refine ⟨fun target => ?_, by simp, by simp⟩
    cases target with
    | check => simpa [Entry.sent, Item.marked] using honce .check
    | commit => simp [hnone, Entry.sent, Item.marked]
  | refused | closed =>
    simp only [Entry.sent, Step.refuse, Progress.start, Progress.finish, List.filterMap_nil,
      List.append_nil]
    exact ⟨honce, hfresh, hawaiting⟩
  | _ =>
    -- The view was reloaded: the slot is empty, so nothing is left to be sent.
    exact ⟨fun target => by simpa [Entry.sent] using honce target, by simp, by simp⟩

end Workflow.Effect

namespace Run

/-- While the confirmation is awaited, the file in the slot has just passed its check. -/
theorem endsInPassedCheck (deeds : List Deed)
    (hphase : (ofDeeds deeds).state.phase = .awaitingConfirmation) {item : Item}
    (hslot : (ofDeeds deeds).state.slot = some item) :
    EndsInPassedCheck (ofDeeds deeds).history item := by
  induction deeds using ofDeeds_induction generalizing item with
  | nil => simp [ofDeeds, initial, Workflow.initial] at hphase
  | concat deeds deed step hrun heffect ih =>
    rw [hrun] at hphase hslot ⊢
    exact heffect.endsInPassedCheck (fun hphase _ => ih hphase) hphase hslot

/-- Every import of a run follows the passed check of its file. -/
theorem importsChecked (deeds : List Deed) : ImportsChecked (ofDeeds deeds).history := by
  induction deeds using ofDeeds_induction with
  | nil => exact atEach_nil
  | concat deeds deed step hrun heffect ih =>
    rw [hrun]
    refine AtEach.concat ih fun item hsend htarget => ?_
    obtain ⟨held, hheld, hsame, honly, ⟨-, hcheck⟩ | ⟨hphase, -⟩⟩ := heffect.send_cases hsend
    · simp [htarget] at hcheck
    · obtain ⟨earlier, c, between, checked, hsplit, hsends, hcheck, hreply, hpassed, hquiet⟩ :=
        endsInPassedCheck deeds hphase hheld
      exact ⟨honly, earlier, c, between, checked, hsplit, hsends, hcheck, hreply,
        hpassed.trans hsame.symm, hquiet⟩

/-- Every file that a run sends is the one that was selected last. -/
theorem sends_lastSelected (deeds : List Deed) :
    AtEach (fun before e => ∀ item, .send item ∈ e.2.calls →
      ∃ chosen, lastSelected? before = some chosen ∧ item.SameFile chosen)
      (ofDeeds deeds).history := by
  induction deeds using ofDeeds_induction with
  | nil => exact atEach_nil
  | concat deeds deed step hrun heffect ih =>
    rw [hrun]
    refine AtEach.concat ih fun item hsend => ?_
    obtain ⟨held, hheld, hsame, -⟩ := heffect.send_cases hsend
    obtain ⟨chosen, hchosen, hsame'⟩ := slot_sameFile deeds hheld
    exact ⟨chosen, hchosen, hsame.trans hsame'⟩

/-- A stretch without a selection at the end of a run has sent at most one file to each
target. -/
theorem spares_suffix (deeds : List Deed) {before stretch : List Entry}
    (hsplit : (ofDeeds deeds).history = before ++ stretch)
    (hstretch : ∀ e ∈ stretch, e.selected? = none) : (ofDeeds deeds).state.Spares stretch := by
  induction deeds using ofDeeds_induction generalizing stretch with
  | nil =>
    obtain ⟨-, rfl⟩ := List.append_eq_nil_iff.mp hsplit.symm
    simp [Workflow.Spares, sends]
  | concat deeds deed step hrun heffect ih =>
    rw [hrun] at hsplit ⊢
    obtain rfl | ⟨stretch, rfl, hbefore⟩ := suffix_concat hsplit
    · simp [Workflow.Spares, sends]
    · exact heffect.spares_concat (hstretch _ (by simp))
        (ih hbefore fun e he => hstretch e (by simp [he]))

/-- A stretch without a selection sends at most one file to each target. -/
theorem sends_stretch_le (deeds : List Deed) {before stretch after : List Entry}
    (hsplit : (ofDeeds deeds).history = before ++ stretch ++ after)
    (hstretch : ∀ e ∈ stretch, e.selected? = none) (target : Target) :
    (sends target stretch).length ≤ 1 := by
  induction deeds using ofDeeds_induction generalizing after with
  | nil =>
    obtain ⟨hnil, -⟩ := List.append_eq_nil_iff.mp hsplit.symm
    obtain ⟨-, rfl⟩ := List.append_eq_nil_iff.mp hnil
    simp [sends]
  | concat deeds deed step hrun heffect ih =>
    rw [hrun] at hsplit
    obtain rfl | ⟨after, rfl, hbefore⟩ := suffix_concat hsplit
    · rw [List.append_nil, ← hrun] at hsplit
      exact (spares_suffix _ hsplit hstretch).1 target
    · exact ih hbefore

/-- **Check before import.** In every run of a new workflow, an import is sent only
after a check of the same file that passed, with no other call, no reload and no
successful selection between the two; and a selected file is sent to each target at
most once. -/
theorem ofDeeds_checked (deeds : List Deed) :
    ImportsChecked (ofDeeds deeds).history ∧ SentOncePerSelection (ofDeeds deeds).history :=
  ⟨importsChecked deeds, sends_lastSelected deeds,
    fun _ _ _ hsplit hstretch => sends_stretch_le deeds hsplit hstretch⟩

end Run

end ArchiveDesk
