import ArchiveDesk.Proofs.Upload.Reload

/-!
# How a file leaves the slot

A file leaves the slot when the view is reloaded or another file is selected. Some answers to
a dialog reload the view, so it matters whether the dialog is about the file: whether it was
raised after the file was selected, or before. The reports of a run tell the two apart. The
dialogs of a failed check and of a deletion stay open over a reload and over the selection of
another file, and closing them late takes that file away.
-/

namespace ArchiveDesk

/-- The notice tells of a selection, or it raises a dialog. -/
def Notice.isMark : Notice → Bool
  | .selected _ _ | .prompt _ => true
  | _ => false

/-- The last selection or dialog that was reported, whichever of the two it is. -/
def lastMark? (notices : List Notice) : Option Notice := (notices.filter Notice.isMark).getLast?

/-- The file that was in the slot is not there any more: the slot is empty, or another file
was selected. -/
def Entry.Vacates (e : Entry) : Prop := e.2.state.slot = none ∨ e.selected?.isSome

namespace Run

/-- Since this dialog was raised, no other was raised and no file was selected. -/
def RaisedLast (r : Run) (kind : PromptKind) : Prop := lastMark? r.notices = some (.prompt kind)

/-- Since this file was selected, no dialog was raised and no other file was selected. -/
def SelectedLast (r : Run) (item : Item) : Prop :=
  lastMark? r.notices = some (.selected item.fileName item.size)

instance (r : Run) (kind : PromptKind) : Decidable (r.RaisedLast kind) :=
  inferInstanceAs (Decidable (_ = _))

instance (r : Run) (item : Item) : Decidable (r.SelectedLast item) :=
  inferInstanceAs (Decidable (_ = _))

/-- Whether an operation with this outcome makes the file leave the slot. For an answer this
depends on the age of its dialog. A dialog that was raised after the file was selected has to
be a confirmation, which is declined, or the dialog of a failed check; an older one has to be
the dialog of a failed check or of a deletion. -/
def Releases (r : Run) (held : Item) (op : Operation) (outcome : Outcome) : Prop :=
  match op with
  | .reload | .delete => True
  | .cancel => outcome = .completed
  | .select _ => outcome = .completed ∧ r.state.phase = .done
  | .submit | .commit => False
  | .answer choice => ∃ kind, r.state.pending = some kind ∧
    (r.RaisedLast kind ∧
        (kind = .confirmImport ∧ choice = .decline ∨ kind = .invalidFile) ∨
      r.SelectedLast held ∧ (kind = .invalidFile ∨ kind = .referentialEmpty))

end Run

/-- The last mark tells how old the dialog and the file in the slot are: it is one of the two.
A confirmation is never older than the file, and the dialog of a deletion never younger. -/
structure Workflow.Marked (w : Workflow) (mark : Option Notice) : Prop where
  dialog : ∀ kind, w.pending = some kind → mark = some (.prompt kind) ∨
    kind ≠ .confirmImport ∧ ∃ fileName size, mark = some (.selected fileName size)
  file : ∀ held, w.slot = some held → mark = some (.selected held.fileName held.size) ∨
    ∃ kind, mark = some (.prompt kind) ∧ kind ≠ .referentialEmpty

/-- The last mark of two lists is that of the second one, if it has one. -/
theorem lastMark?_append (notices more : List Notice) :
    lastMark? (notices ++ more) = (lastMark? more).or (lastMark? notices) := by
  simp [lastMark?, List.getLast?_append]

/-- Entering a phase leaves no mark. -/
theorem lastMark?_entering_append (origin target : Phase) (notices : List Notice) :
    lastMark? (origin.entering target ++ notices) = lastMark? notices := by
  have hnone : lastMark? (origin.entering target) = none := by
    unfold Phase.entering
    split <;> rfl
  rw [lastMark?_append, hnone, Option.or_none]

namespace Workflow

variable {w : Workflow} {service : Service} {op : Operation} {step : Step}

/-- A dialog that is left without the confirmation was open before. -/
theorem pending_of_withoutConfirmation {kind : PromptKind}
    (hkind : w.withoutConfirmation = some kind) : w.pending = some kind :=
  (Option.filter_eq_some_iff.mp hkind).1

/-- The reports of an effect keep the marks in step with the workflow. -/
theorem Effect.marked (hw : w.Coherent) (heffect : w.Effect service op step)
    {mark : Option Notice} (hmark : w.Marked mark) :
    step.state.Marked ((lastMark? step.notices).or mark) := by
  cases heffect with
  | refused => exact hmark
  | selected item hphase =>
    rw [Progress.notices_holding, lastMark?_entering_append]
    refine ⟨fun kind hkind => .inr ⟨?_, _, _, rfl⟩, fun held hheld => .inl ?_⟩
    · rintro rfl
      refine hw.pending_ne ?_ hkind
      rcases hphase with hphase | hphase <;> simp [hphase]
    · obtain rfl := Option.some.inj hheld
      rfl
  | passed | rejected | imported | conflicted =>
    refine ⟨fun kind hkind => .inl ?_, fun held _ => .inr ⟨_, rfl, by simp⟩⟩
    obtain rfl := Option.some.inj hkind
    rfl
  | unchecked item _ hheld =>
    -- The file is in flight from now on, but it is the same file.
    refine ⟨hmark.dialog, fun held hslot => ?_⟩
    obtain rfl := Option.some.inj hslot
    exact hmark.file item hheld
  | unimported item _ _ hheld =>
    refine ⟨nofun, fun held hslot => ?_⟩
    obtain rfl := Option.some.inj hslot
    exact hmark.file item hheld
  | closed => exact ⟨nofun, hmark.file⟩
  | cancelled | acknowledged => exact ⟨nofun, nofun⟩
  | reloaded =>
    rw [Progress.notices_holding, lastMark?_entering_append]
    exact ⟨fun kind hkind => hmark.dialog kind (pending_of_withoutConfirmation hkind), nofun⟩
  | undeleted =>
    exact ⟨fun kind hkind => hmark.dialog kind (pending_of_withoutConfirmation hkind), nofun⟩
  | deleted =>
    refine ⟨fun kind hkind => .inl ?_, nofun⟩
    obtain rfl := Option.some.inj hkind
    rfl

/-- A file in the slot is replaced only after its import. -/
theorem Effect.phase_of_selected (hw : w.Coherent) {item held : Item}
    (heffect : w.Effect service (.select item) step) (hcompleted : step.outcome = .completed)
    (hheld : w.slot = some held) : w.phase = .done := by
  cases heffect with
  | refused => cases hcompleted
  | selected _ hphase hslot =>
    refine hphase.resolve_left fun hidle => ?_
    -- An idle workflow holds a file that waits for its check, which is not resolved.
    obtain hnone | ⟨waiting, hwaiting, -, hstatus⟩ := hw.idle hidle
    · simp [hnone] at hheld
    · simp [hwaiting, hstatus, Status.isResolved] at hslot
  | imported _ hop | conflicted _ hop | unimported _ hop => simp at hop
  | cancelled hop => simp at hop

end Workflow

namespace Run

/-- The last mark of a run tells how old its dialog and its file are. -/
theorem marked_ofDeeds (deeds : List Deed) :
    (ofDeeds deeds).state.Marked (lastMark? (ofDeeds deeds).notices) := by
  induction deeds using ofDeeds_induction with
  | nil => exact ⟨nofun, nofun⟩
  | concat deeds deed step hrun heffect ih =>
    rw [hrun, notices_concat, lastMark?_append]
    exact heffect.marked (coherent_ofDeeds deeds) ih

/-- Of an open dialog and the file in the slot, one is older. A confirmation is not, and the
dialog of a deletion is. -/
theorem raisedLast_or_selectedLast (deeds : List Deed) {held : Item} {kind : PromptKind}
    (hheld : (ofDeeds deeds).state.slot = some held)
    (hpending : (ofDeeds deeds).state.pending = some kind) :
    (ofDeeds deeds).RaisedLast kind ∧ kind ≠ .referentialEmpty ∨
      (ofDeeds deeds).SelectedLast held ∧ kind ≠ .confirmImport := by
  have hmarked := marked_ofDeeds deeds
  -- Dialog and file are dated by the same mark, which is either a dialog or a selection.
  rcases hmarked.file held hheld with hselected | ⟨other, hraised, hother⟩
  · refine .inr ⟨hselected, ?_⟩
    rcases hmarked.dialog kind hpending with hraised | ⟨hkind, -⟩
    · cases hselected.symm.trans hraised
    · exact hkind
  · rcases hmarked.dialog kind hpending with hraised' | ⟨-, _, _, hselected⟩
    · cases hraised.symm.trans hraised'
      exact .inl ⟨hraised, hother⟩
    · cases hraised.symm.trans hselected

/-- An answer reloads the view exactly if it makes the file in the slot leave it, and the age
of its dialog says which of the two ways this is. -/
theorem reloadedBy_answer_iff (deeds : List Deed) {held : Item} {choice : Choice}
    {outcome : Outcome} (hheld : (ofDeeds deeds).state.slot = some held) :
    (ofDeeds deeds).state.ReloadedBy (.answer choice) outcome ↔
      (ofDeeds deeds).Releases held (.answer choice) outcome := by
  constructor
  · rintro (⟨hpending, hchoice⟩ | hpending | hpending)
    · rcases raisedLast_or_selectedLast deeds hheld hpending with ⟨hraised, -⟩ | ⟨-, hkind⟩
      · exact ⟨_, hpending, .inl ⟨hraised, .inl ⟨rfl, hchoice⟩⟩⟩
      · exact absurd rfl hkind
    · rcases raisedLast_or_selectedLast deeds hheld hpending with ⟨hraised, -⟩ | ⟨hselected, -⟩
      · exact ⟨_, hpending, .inl ⟨hraised, .inr rfl⟩⟩
      · exact ⟨_, hpending, .inr ⟨hselected, .inl rfl⟩⟩
    · rcases raisedLast_or_selectedLast deeds hheld hpending with ⟨-, hkind⟩ | ⟨hselected, -⟩
      · exact absurd rfl hkind
      · exact ⟨_, hpending, .inr ⟨hselected, .inr rfl⟩⟩
  · rintro ⟨kind, hpending, ⟨-, ⟨rfl, hchoice⟩ | rfl⟩ | ⟨-, rfl | rfl⟩⟩
    · exact .inl ⟨hpending, hchoice⟩
    · exact .inr (.inl hpending)
    · exact .inr (.inl hpending)
    · exact .inr (.inr hpending)

/-- A file leaves the slot by the operations that release it, and by no others. -/
theorem vacates_iff_releases (deeds : List Deed) {service : Service} {op : Operation}
    {step : Step} {held : Item} (hheld : (ofDeeds deeds).state.slot = some held)
    (heffect : (ofDeeds deeds).state.Effect service op step) :
    Entry.Vacates (⟨op, service⟩, step) ↔ (ofDeeds deeds).Releases held op step.outcome := by
  have hw := coherent_ofDeeds deeds
  rw [Entry.Vacates, heffect.slot_eq_none_iff hheld, heffect.reloads_iff hw]
  cases op with
  | select item =>
    refine (or_iff_right id).trans ⟨fun hselected => ?_, fun h => ?_⟩
    · have hcompleted : step.outcome = .completed := by
        by_contra hother
        simp [Entry.selected?, hother] at hselected
      exact ⟨hcompleted, heffect.phase_of_selected hw hcompleted hheld⟩
    · simp [Entry.selected?, h.1]
  | answer choice =>
    rw [← reloadedBy_answer_iff deeds hheld]
    exact or_iff_left (by simp [Entry.selected?])
  | _ => exact or_iff_left (by simp [Entry.selected?])

/-- **No silent loss of a file, but for late answers.** A file in the slot leaves it by a
reload, a deletion or a cancelled import, when another file is selected after its import, or
by an answer: to a dialog that was raised after the file was selected, or else to the older
dialog of a failed check or of a deletion. Any other operation leaves the same file in the
slot, and every open dialog is either younger or older than the file. -/
theorem ofDeeds_vacates_iff (deeds : List Deed) (deed : Deed) {held : Item}
    (hheld : (ofDeeds deeds).state.slot = some held) :
    let r := ofDeeds deeds
    let step := r.state.perform deed.service deed.operation
    (Entry.Vacates (deed, step) ↔ r.Releases held deed.operation step.outcome) ∧
    (¬ Entry.Vacates (deed, step) → ∃ item, step.state.slot = some item ∧ item.SameFile held) ∧
    (∀ kind, r.state.pending = some kind → r.RaisedLast kind ∨ r.SelectedLast held) := by
  intro r step
  have heffect : r.state.Effect deed.service deed.operation step :=
    Workflow.perform_effect deed.service (coherent_ofDeeds deeds) deed.operation
  refine ⟨vacates_iff_releases deeds hheld heffect, fun hstays => ?_, fun kind hpending => ?_⟩
  · obtain ⟨hslot, hselected⟩ := not_or.mp hstays
    obtain ⟨item, hitem⟩ := Option.ne_none_iff_exists'.mp hslot
    obtain ⟨other, hother, hsame⟩ :=
      heffect.slot_of_selected?_eq_none (Option.not_isSome_iff_eq_none.mp hselected) hitem
    obtain rfl := Option.some.inj (hheld.symm.trans hother)
    exact ⟨item, hitem, hsame⟩
  · exact (raisedLast_or_selectedLast deeds hheld hpending).imp And.left And.left

/-- A service that accepts no file, but deletes the referential. -/
def refusing : Service := ⟨fun _ => .failed (.transport "status 400"), .ok ()⟩

/-- A file fails its check. -/
def rejectedDeeds : List Deed := [⟨.select (.new "a" .empty), refusing⟩, ⟨.submit, refusing⟩]

/-- Closing the dialog of a failed check takes the file away that the dialog is about. -/
theorem ofDeeds_vacates_rejectedDeeds :
    (ofDeeds rejectedDeeds).state.slot = some ⟨"a", .empty, .check, .failed⟩ ∧
      Entry.Vacates (⟨.answer .accept, refusing⟩,
        (ofDeeds rejectedDeeds).state.perform refusing (.answer .accept)) := by
  have hslot : (ofDeeds rejectedDeeds).state.slot = some ⟨"a", .empty, .check, .failed⟩ := by
    decide
  refine ⟨hslot, (ofDeeds_vacates_iff rejectedDeeds ⟨.answer .accept, refusing⟩ hslot).1.mpr ?_⟩
  exact ⟨.invalidFile, by decide, .inl ⟨by decide, .inr rfl⟩⟩

/-- A file is selected while the dialog of a deletion is open. -/
def emptiedDeeds : List Deed := [⟨.delete, refusing⟩, ⟨.select (.new "b" .empty), refusing⟩]

/-- A file is selected while the dialog of another file is open, which has failed its check. -/
def reselectedDeeds : List Deed :=
  rejectedDeeds ++ [⟨.reload, refusing⟩, ⟨.select (.new "b" .empty), refusing⟩]

/-- The open dialog is older than the file in the slot, and yet any answer to it empties the
slot. -/
def LosesToOlder (r : Run) (kind : PromptKind) : Prop :=
  r.state.pending = some kind ∧ ∃ held, r.state.slot = some held ∧ r.SelectedLast held ∧
    ∀ service choice, (r.state.answer service choice).state.slot = none

/-- Closing the older dialog of a deletion, or of a failed check, takes the file away that was
selected in the meantime. -/
theorem losesToOlder_emptiedDeeds_reselectedDeeds :
    (ofDeeds emptiedDeeds).LosesToOlder .referentialEmpty ∧
      (ofDeeds reselectedDeeds).LosesToOlder .invalidFile := by
  constructor <;>
    exact ⟨by decide, ⟨"b", .empty, .check, .queued⟩, by decide, by decide, fun _ _ => rfl⟩

end Run

end ArchiveDesk
