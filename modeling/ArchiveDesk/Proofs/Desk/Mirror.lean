import ArchiveDesk.Proofs.Desk.Gestures
import ArchiveDesk.Proofs.Upload.History

/-!
# The panel mirrors the workflow

The panel knows the workflow by its notices alone. Every operation reports all that it
does to the phase and to the file in the slot, in its order, so a panel that has heard
everything shows the phase of the workflow and the file in its slot. Nothing else that
happens to a desk changes these two.
-/

namespace ArchiveDesk

/-- A file as the panel shows it. -/
def Item.shown (i : Item) : SelectedFile := ⟨i.fileName, i.size⟩

namespace Panel

/-- The panel shows the phase of the workflow and the file in its slot, if there is one. -/
structure Mirrors (p : Panel) (w : Workflow) : Prop where
  phase : p.phase = w.phase
  selected : p.selected = w.slot.map Item.shown

/-- A panel that shows the same of the upload mirrors the same workflow. -/
theorem Mirrors.congr {p q : Panel} {w : Workflow} (hp : p.Mirrors w) (hq : q.SameUpload p) :
    q.Mirrors w :=
  ⟨hq.phase.trans hp.phase, hq.selected.trans hp.selected⟩

/-- Entering a phase is heard, unless it is the present one. -/
theorem foldl_hear_entering {p : Panel} {origin : Phase} (hphase : p.phase = origin)
    (target : Phase) :
    ((origin.entering target).foldl hear p).phase = target ∧
      ((origin.entering target).foldl hear p).selected = p.selected := by
  unfold Phase.entering
  split
  · rename_i hsame
    exact ⟨hphase.trans hsame, rfl⟩
  · exact ⟨rfl, rfl⟩

end Panel

/-- A panel that mirrors the workflow and hears what an operation reports mirrors the
workflow that the operation leaves. -/
theorem Workflow.Effect.mirrors {w : Workflow} {service : Service} {op : Operation} {step : Step}
    {p : Panel} (heffect : w.Effect service op step) (hp : p.Mirrors w) :
    (step.notices.foldl Panel.hear p).Mirrors step.state := by
  have hidle := Panel.foldl_hear_entering hp.phase .idle
  cases heffect with
  | refused => exact hp
  | closed => exact ⟨hp.phase, hp.selected⟩
  | selected item =>
    rw [Progress.notices_holding, List.foldl_append]
    exact ⟨hidle.1, rfl⟩
  | passed item _ hslot | rejected item _ hslot | unchecked item _ hslot =>
    refine ⟨rfl, hp.selected.trans ?_⟩
    rw [hslot]
    rfl
  | imported item _ _ hslot | unimported item _ _ hslot | conflicted item _ _ hslot =>
    refine ⟨rfl, hp.selected.trans ?_⟩
    rw [hslot]
    rfl
  | reloaded | acknowledged =>
    rw [Progress.notices_holding, List.foldl_append]
    exact ⟨hidle.1, rfl⟩
  | cancelled | deleted | undeleted => exact ⟨rfl, rfl⟩

/-! ## Everything else that happens to a desk -/

namespace Panel

/-- A notice changes alike what two panels show of the upload. -/
theorem SameUpload.hear {p q : Panel} (h : p.SameUpload q) (n : Notice) :
    (p.hear n).SameUpload (q.hear n) := by
  cases n with
  | phaseChanged => exact ⟨rfl, h.selected⟩
  | selected | viewReloaded => exact ⟨h.phase, rfl⟩
  | dispatched | prompt => exact ⟨h.phase, h.selected⟩

/-- No update changes what the panel shows of the upload. -/
theorem accept_sameUpload (p : Panel) (u : Update) : (p.accept u).SameUpload p := by
  cases u <;> exact ⟨rfl, rfl⟩

end Panel

/-- Whatever happens to a desk, its panel shows of the upload what the notices alone
would make of it. -/
theorem Session.foldl_undergo_sameUpload {s : Session} {p : Panel} (hs : s.panel.SameUpload p)
    (happenings : List Happening) :
    (happenings.foldl undergo s).panel.SameUpload
      ((happenings.filterMap Happening.notice?).foldl Panel.hear p) := by
  induction happenings generalizing s p with
  | nil => exact hs
  | cons happening happenings ih =>
    cases happening with
    | message m =>
      cases m with
      | notice n => exact ih (hs.hear n)
      | update u => exact ih ((s.panel.accept_sameUpload u).trans hs)
    | gesture g => exact ih ((s.spares_receive g).upload.trans hs)

namespace Run

/-- A panel that has heard the whole run mirrors its workflow. -/
theorem mirrors_foldl_hear (deeds : List Deed) :
    ((ofDeeds deeds).notices.foldl Panel.hear .initial).Mirrors (ofDeeds deeds).state := by
  induction deeds using ofDeeds_induction with
  | nil => exact ⟨rfl, rfl⟩
  | concat deeds deed step hrun heffect ih =>
    rw [hrun, notices_concat, List.foldl_append]
    exact heffect.mirrors ih

/-- **The panel mirrors the workflow.** After every run, a panel that was told everything
from the beginning shows the phase of the workflow and the file in its slot; and so does
the panel of a desk to which other things have happened in between. -/
theorem ofDeeds_mirrored (deeds : List Deed) :
    ((ofDeeds deeds).notices.foldl Panel.hear .initial).Mirrors (ofDeeds deeds).state ∧
    ∀ (s : Session) (happenings : List Happening), s.panel = .initial →
      happenings.filterMap Happening.notice? = (ofDeeds deeds).notices →
      (happenings.foldl Session.undergo s).panel.Mirrors (ofDeeds deeds).state := by
  have hrun := mirrors_foldl_hear deeds
  refine ⟨hrun, fun s happenings hpanel hnotices => ?_⟩
  have hsame : s.panel.SameUpload .initial := ⟨by rw [hpanel], by rw [hpanel]⟩
  have hshown := Session.foldl_undergo_sameUpload hsame happenings
  rw [hnotices] at hshown
  exact hrun.congr hshown

/-- A file is selected and checked. -/
def checkedDeeds : List Deed :=
  [⟨.select (.new "a" .empty), Surroundings.willing.remote.service⟩,
    ⟨.submit, Surroundings.willing.remote.service⟩]

/-- The panel hears of it while the operator asks for more. -/
def interruptedHappenings : List Happening :=
  [.message (.notice (.selected "a" 0)), .gesture (.press (.act .submit)),
    .message (.notice (.phaseChanged .idle .checking)), .gesture (.choose "b"),
    .message (.notice (.dispatched .check "a")), .message (.update (.busy false)),
    .message (.notice (.phaseChanged .checking .awaitingConfirmation)),
    .message (.notice (.prompt .confirmImport)), .gesture (.press (.act (.answer .decline)))]

/-- The file awaits its confirmation, and the panel shows it, although the dialog has just
been answered. -/
theorem ofDeeds_mirrored_interruptedHappenings :
    interruptedHappenings.filterMap Happening.notice? = (ofDeeds checkedDeeds).notices ∧
      (interruptedHappenings.foldl Session.undergo (.start .bare)).panel.Mirrors
        (ofDeeds checkedDeeds).state := by
  have hnotices :
      interruptedHappenings.filterMap Happening.notice? = (ofDeeds checkedDeeds).notices := by
    decide
  exact ⟨hnotices, (ofDeeds_mirrored checkedDeeds).2 (.start .bare) _ rfl hnotices⟩

end Run

end ArchiveDesk
