import ArchiveDesk.Proofs.Desk.Journal

/-!
# Imports and the consent to them

A file is imported only when the operator accepts a dialog. But an acceptance does
not say which dialog it is for, and the worker takes it for the one that it has
raised last. So a confirmation that the operator has not seen yet can be given by
closing another dialog, and this is the only way to import without consent.
-/

namespace ArchiveDesk

namespace Handling

/-- The command sent a file to the import. -/
def Imports (h : Handling) : Prop := ∃ item, .send item ∈ h.result.calls ∧ item.target = .commit

/-- The operator accepted the confirmation of an import. -/
def Consented (h : Handling) : Prop :=
  h.issue.command = .answer .accept ∧ h.issue.dialog = some .confirmImport

/-- The operator accepted another dialog, and the confirmation that the worker took it
for had not been seen. -/
def Misread (h : Handling) : Prop :=
  h.issue.command = .answer .accept ∧ h.issue.dialog ≠ some .confirmImport ∧
    h.workflow.pending = some .confirmImport ∧ h.Late

namespace Sound

variable {h : Handling} {told : List PromptKind}

/-- An import is an acceptance that the worker takes for the confirmation. -/
theorem imports_iff (hh : h.Sound told) :
    h.Imports ↔ h.issue.command = .answer .accept ∧ h.workflow.pending = some .confirmImport := by
  obtain ⟨around, hresult⟩ := hh.result
  rw [Imports, hresult]
  exact Worker.imports_iff hh.coherent

/-- An operator who had seen every dialog saw the one that the worker has. -/
theorem dialog_eq_of_not_late {heard : List PromptKind} (hh : h.Sound told)
    (hissue : h.issue.Sound heard) (hlate : ¬ h.Late) {kind shown : PromptKind}
    (hpending : h.workflow.pending = some kind) (hdialog : h.issue.dialog = some shown) :
    shown = kind := by
  have hseen : h.issue.heard = h.raised := not_not.mp hlate
  have hshown := hissue.shown shown hdialog
  rw [hseen, hh.pending kind hpending] at hshown
  exact (Option.some.inj hshown).symm

/-- An import lacks consent exactly if its acceptance was misread. -/
theorem consented_iff {heard : List PromptKind} (hh : h.Sound told)
    (hissue : h.issue.Sound heard) : (h.Imports → h.Consented) ↔ ¬ h.Misread := by
  rw [hh.imports_iff]
  constructor
  · rintro hconsent ⟨haccept, hdialog, hpending, -⟩
    exact hdialog (hconsent ⟨haccept, hpending⟩).2
  · rintro hread ⟨haccept, hpending⟩
    refine ⟨haccept, ?_⟩
    by_contra hdialog
    have hsuits := hissue.suits
    rw [haccept] at hsuits
    obtain ⟨shown, hshown⟩ := Option.isSome_iff_exists.mp hsuits
    have hlate : h.Late := by
      by_contra hlate
      obtain rfl := hh.dialog_eq_of_not_late hissue hlate hpending hshown
      exact hdialog hshown
    exact hread ⟨haccept, hdialog, hpending, hlate⟩

end Sound

end Handling

namespace Journal

/-- **Consent to imports.** However the moves of a session follow each other, an import
always comes from an acceptance that was given while the panel showed a dialog; and all
imports have the consent of the operator if and only if no acceptance is misread. -/
theorem imports_consented_iff (c : Catalogue) (moves : List Move) :
    (∀ h ∈ (ofMoves c moves).handled, h.Imports →
      h.issue.command = .answer .accept ∧ h.issue.dialog.isSome = true) ∧
    ((∀ h ∈ (ofMoves c moves).handled, h.Imports → h.Consented) ↔
      ∀ h ∈ (ofMoves c moves).handled, ¬ h.Misread) := by
  have hsound := sound_ofMoves c moves
  constructor
  · intro h hh himports
    obtain ⟨haccept, -⟩ := (hsound.handled h hh).imports_iff.mp himports
    have hsuits := (hsound.issue_handled hh).suits
    rw [haccept] at hsuits
    exact ⟨haccept, hsuits⟩
  · exact forall₂_congr fun h hh => (hsound.handled h hh).consented_iff (hsound.issue_handled hh)

/-- The operator deletes the referential and has a file checked before the panel hears of
either, and then closes the dialog about the deletion. -/
def hastyMoves : List Move :=
  [.choose "a", .work .willing, .poll, .press (.act .delete), .choose "a", .press (.act .submit),
    .work .willing, .poll, .work .willing, .work .willing, .press (.act (.answer .accept)),
    .work .willing]

/-- Closing a dialog that says nothing about an import can start one. -/
theorem exists_import_not_consented :
    ¬ ∀ (c : Catalogue) (moves : List Move), ∀ h ∈ (ofMoves c moves).handled,
      h.Imports → h.Consented := by
  intro hconsent
  have hclosing : ∃ h ∈ (ofMoves .bare hastyMoves).handled,
      h.issue.dialog = some .referentialEmpty ∧
        h.result.calls = [.send ⟨"a", .empty, .commit, .inFlight⟩] := by decide +kernel
  obtain ⟨h, hh, hdialog, hcalls⟩ := hclosing
  have himports : h.Imports := ⟨_, hcalls ▸ List.mem_singleton_self _, rfl⟩
  have hconsented := hconsent .bare hastyMoves h hh himports
  rw [Handling.Consented, hdialog] at hconsented
  simp at hconsented

end Journal

end ArchiveDesk
