import ArchiveDesk.Proofs.Json.Writer
import ArchiveDesk.Proofs.Lifecycle.Finished
import ArchiveDesk.Proofs.Text.UpperCase

/-!
# The outcome that is shown

Whether an event has finished is read from its field `outcome`, and the table shows the field
`OUTCOME` of the finished event, into which several fields may have been merged. The file shows
that these are the same field: no other name in capitals is `OUTCOME` has greater bytes than
the one in small letters.
-/

namespace ArchiveDesk.Lifecycle

/-- The raw event leaves nothing behind, wherever it stands in a list. -/
def RawEvent.IsDropped (raw : RawEvent) : Prop :=
  ∀ before after, finished (before ++ raw :: after) = finished before ++ finished after

/-- The raw event becomes this finished one, wherever it stands in a list. -/
def RawEvent.Becomes (raw : RawEvent) (e : Event) : Prop :=
  ∀ before after, finished (before ++ raw :: after) = finished before ++ e :: finished after

/-- The events of two lists are finished one after the other. -/
theorem finished_append (raws others : List RawEvent) :
    finished (raws ++ others) = finished raws ++ finished others := by
  simp [finished]

namespace RawEvent

/-- An event that has only started is dropped wherever it stands. -/
theorem HasStarted.isDropped {raw : RawEvent} (h : raw.HasStarted) : raw.IsDropped := by
  intro before after
  rw [finished_append, finished_cons_of_hasStarted h]

/-- Any other event becomes its finished one wherever it stands. -/
theorem becomes_of_not_hasStarted {raw : RawEvent} (h : ¬ raw.HasStarted) :
    raw.Becomes (.ofRaw raw) := by
  intro before after
  rw [finished_append, finished_cons_of_not_hasStarted h]

/-- An event that becomes a finished one is not dropped. -/
theorem Becomes.not_isDropped {raw : RawEvent} {e : Event} (h : raw.Becomes e) :
    ¬ raw.IsDropped := by
  intro hdropped
  have hsame := (h [] []).symm.trans (hdropped [] [])
  simp [finished] at hsame

/-- Only events that have just started are dropped. -/
theorem isDropped_iff {raw : RawEvent} : raw.IsDropped ↔ raw.HasStarted := by
  refine ⟨fun hdropped => ?_, HasStarted.isDropped⟩
  by_contra hstarted
  exact (becomes_of_not_hasStarted hstarted).not_isDropped hdropped

/-- All others become their fields under upper-case names. -/
theorem becomes_iff {raw : RawEvent} {e : Event} :
    raw.Becomes e ↔ ¬ raw.HasStarted ∧ e = .ofRaw raw := by
  constructor
  · intro h
    have hstarted : ¬ raw.HasStarted := fun hs => h.not_isDropped hs.isDropped
    have hsame := (h [] []).symm.trans (becomes_of_not_hasStarted hstarted [] [])
    simp only [List.nil_append, finished, List.filter_nil, List.map_nil, List.cons.injEq,
      and_true] at hsame
    exact ⟨hstarted, hsame⟩
  · rintro ⟨hstarted, rfl⟩
    exact becomes_of_not_hasStarted hstarted

end RawEvent

/-! ## One field for both -/

/-- The name of the outcome in upper case. -/
theorem upper_outcome : Text.upper "outcome" = "OUTCOME" := by rfl

/-- Of the names that become `OUTCOME`, the one in small letters is the greatest. -/
theorem le_outcome_of_upper_eq {name : String} (h : Text.upper name = "OUTCOME") :
    name ≤ "outcome" := by
  have hplain : Text.ArePlainCapitals "OUTCOME".toList := by decide
  have hsmall : String.ofList ("OUTCOME".toList.map Char.toLower) = "outcome" := by decide
  rw [← hsmall]
  exact Text.le_of_upper_eq hplain h

namespace Event

/-- The outcome of a raw event is kept under its name in upper case. -/
theorem get?_ofRaw_outcome {raw : RawEvent} {outcome : Json}
    (h : raw.get? "outcome" = some outcome) : (ofRaw raw).get? "OUTCOME" = some outcome := by
  rw [get?_ofRaw_iff]
  refine ⟨"outcome", h, upper_outcome, fun other _ hother => ?_⟩
  exact Text.bytes_le_iff.mpr (le_outcome_of_upper_eq hother)

/-- Only a text is shown as a bare word in capitals. -/
theorem cellText_eq_started_iff {value : Json} :
    cellText value = startedOutcome ↔ value = .text startedOutcome := by
  have hhead {s : String} (hs : s = startedOutcome) : s.toList.head? = some 'S' := by
    rw [hs]
    rfl
  cases value with
  | text s => simp [cellText]
  | null => simp [cellText, startedOutcome]
  | bool _ | integer _ | float _ | array _ | object _ =>
    refine iff_of_false (fun htext => ?_) nofun
    exact Json.head?_write_ne_capital _ (by decide) (hhead htext)

/-- A table shows the outcome of the raw event. -/
theorem display_outcome {raw : RawEvent} {outcome : Json}
    (h : raw.get? "outcome" = some outcome) :
    (ofRaw raw).display "outcome" = cellText outcome := by
  rw [display, upper_outcome, get?_ofRaw_outcome h]
  rfl

end Event

/-- **The outcome shown is the one that counts.** An event is either dropped or becomes a
finished one. If it has a field `outcome`, whatever its other fields, it is dropped exactly when
this field is the text `STARTED`, and otherwise the field `OUTCOME` of the finished event has its
value. So a finished event that shows `STARTED` comes from one without a field `outcome`. -/
theorem outcome_agrees (raw : RawEvent) :
    (¬ raw.IsDropped ↔ ∃ e, raw.Becomes e) ∧
    (∀ outcome, raw.get? "outcome" = some outcome →
      (raw.IsDropped ↔ outcome = .text "STARTED") ∧
      ∀ e, raw.Becomes e → e.get? "OUTCOME" = some outcome) ∧
    ∀ e, raw.Becomes e → e.display "outcome" = "STARTED" → "outcome" ∉ raw.keys := by
  refine ⟨?_, fun outcome houtcome => ⟨?_, fun e he => ?_⟩, fun e he hdisplay hkey => ?_⟩
  · simp [RawEvent.isDropped_iff, RawEvent.becomes_iff]
  · rw [RawEvent.isDropped_iff, RawEvent.HasStarted, houtcome, Option.some_inj]
  · obtain ⟨-, rfl⟩ := RawEvent.becomes_iff.mp he
    exact Event.get?_ofRaw_outcome houtcome
  · obtain ⟨hstarted, rfl⟩ := RawEvent.becomes_iff.mp he
    obtain ⟨outcome, houtcome⟩ := Fields.mem_keys_iff.mp hkey
    rw [Event.display_outcome houtcome] at hdisplay
    have htext : outcome = .text "STARTED" := Event.cellText_eq_started_iff.mp hdisplay
    rw [htext] at houtcome
    exact hstarted houtcome

/-- A field with the same name in capitals does not count beside it. -/
example : (finished [.ofList [("OUTCOME", .text "STARTED"), ("outcome", .text "OK")]]).map
    (·.display "outcome") = ["OK"] := by rfl

end ArchiveDesk.Lifecycle
