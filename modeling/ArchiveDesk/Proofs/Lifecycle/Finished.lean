import ArchiveDesk.Lifecycle.Event
import ArchiveDesk.Proofs.Fields
import ArchiveDesk.Proofs.Text.Utf8

/-!
# The finished events of a lifecycle

Events that have only started are left out, and the others keep their order. The names of an
event's fields are put in upper case, which may make several of them equal, since upper-casing
is not one-to-one and can lengthen a text. The file says which value is then kept: that of the
name whose bytes are the greatest.
-/

namespace ArchiveDesk.Lifecycle

/-- The event has not finished: its outcome is this text and no other. -/
def RawEvent.HasStarted (raw : RawEvent) : Prop :=
  raw.get? "outcome" = some (.text "STARTED")

/-- The names of the event are those of the raw event in upper case. A field that becomes one
with others keeps its value if its name was the greatest of theirs in the order of bytes. -/
structure Event.UpperCases (e : Event) (raw : RawEvent) : Prop where
  names : ∀ name, name ∈ e.fields.keys ↔ ∃ original ∈ raw.keys, Text.upper original = name
  values : ∀ original ∈ raw.keys,
    (∀ other ∈ raw.keys, Text.upper other = Text.upper original →
      Text.bytes other ≤ Text.bytes original) →
    e.get? (Text.upper original) = raw.get? original

/-- The finished events of a list: in its order, one for each event but those that have only
started, with its names in upper case. -/
inductive Finished : List RawEvent → List Event → Prop where
  | nil : Finished [] []
  | started {raw : RawEvent} {raws : List RawEvent} {events : List Event}
      (hstarted : raw.HasStarted) (hrest : Finished raws events) :
      Finished (raw :: raws) events
  | kept {raw : RawEvent} {e : Event} {raws : List RawEvent} {events : List Event}
      (hstarted : ¬ raw.HasStarted) (hupper : e.UpperCases raw) (hrest : Finished raws events) :
      Finished (raw :: raws) (e :: events)

/-- The test for a start recognises the events that have only started. -/
theorem RawEvent.isStarted_iff (raw : RawEvent) : raw.isStarted = true ↔ raw.HasStarted := by
  unfold isStarted HasStarted startedOutcome
  split
  · rename_i outcome houtcome
    simp [houtcome]
  · rename_i hother
    simp only [Bool.false_eq_true, false_iff]
    exact hother "STARTED"

namespace Event

/-- The value under a name is that of the greatest name that becomes this one. -/
theorem get?_ofRaw_iff {raw : RawEvent} {name : String} {value : Json} :
    (ofRaw raw).get? name = some value ↔ ∃ original, raw.get? original = some value ∧
      Text.upper original = name ∧
      ∀ other ∈ raw.keys, Text.upper other = name → Text.bytes other ≤ Text.bytes original := by
  rw [get?, ofRaw, Fields.get?_ofList_map_iff raw.ascending]
  simp [Fields.get?_eq_some_iff, Fields.keys, Text.bytes_le_iff]

/-- The names of a finished event are those of the raw event in upper case. -/
theorem mem_keys_ofRaw_iff {raw : RawEvent} {name : String} :
    name ∈ (ofRaw raw).fields.keys ↔ ∃ original ∈ raw.keys, Text.upper original = name := by
  rw [ofRaw, Fields.mem_keys_ofList]
  simp [Fields.keys]

/-- A finished event has the fields of the raw event under names in upper case. -/
theorem ofRaw_upperCases (raw : RawEvent) : (ofRaw raw).UpperCases raw := by
  refine ⟨fun name => mem_keys_ofRaw_iff, fun original horiginal hgreatest => ?_⟩
  obtain ⟨value, hvalue⟩ := Fields.mem_keys_iff.mp horiginal
  rw [hvalue, get?_ofRaw_iff]
  exact ⟨original, hvalue, rfl, hgreatest⟩

/-- The names and values of an event in upper case are determined. -/
theorem UpperCases.eq_ofRaw {e : Event} {raw : RawEvent} (h : e.UpperCases raw) :
    e = ofRaw raw := by
  obtain ⟨fields⟩ := e
  refine congrArg Event.mk (Fields.ext_get? fun name => ?_)
  cases hname : (ofRaw raw).get? name with
  | some value =>
    obtain ⟨original, hvalue, rfl, hgreatest⟩ := get?_ofRaw_iff.mp hname
    have hmem : original ∈ raw.keys := Fields.mem_keys_iff.mpr ⟨value, hvalue⟩
    exact ((h.values original hmem hgreatest).trans hvalue).trans hname.symm
  | none =>
    refine Eq.trans (Option.eq_none_iff_forall_ne_some.mpr fun value hvalue => ?_) hname.symm
    have hkey : name ∈ (ofRaw raw).fields.keys :=
      mem_keys_ofRaw_iff.mpr ((h.names name).mp (Fields.mem_keys_iff.mpr ⟨value, hvalue⟩))
    obtain ⟨value', hvalue'⟩ := Fields.mem_keys_iff.mp hkey
    exact absurd (hname.symm.trans hvalue') nofun

/-- A field keeps its value unless its name becomes equal to another one. -/
theorem UpperCases.get?_or_exists {e : Event} {raw : RawEvent} (h : e.UpperCases raw)
    {original : String} {value : Json} (hvalue : raw.get? original = some value) :
    e.get? (Text.upper original) = some value ∨
      ∃ other ∈ raw.keys, other ≠ original ∧ Text.upper other = Text.upper original := by
  by_cases hother : ∃ other ∈ raw.keys, other ≠ original ∧ Text.upper other = Text.upper original
  · exact .inr hother
  · refine .inl ((h.values original (Fields.mem_keys_iff.mpr ⟨value, hvalue⟩) ?_).trans hvalue)
    intro other hmem hupper
    have hsame : other = original := by
      by_contra hne
      exact hother ⟨other, hmem, hne, hupper⟩
    exact Text.bytes_le_iff.mpr hsame.le

end Event

/-- An event that has only started leaves nothing behind. -/
theorem finished_cons_of_hasStarted {raw : RawEvent} (h : raw.HasStarted) (raws : List RawEvent) :
    finished (raw :: raws) = finished raws := by
  simp [finished, (RawEvent.isStarted_iff raw).mpr h]

/-- Any other event is kept in its place. -/
theorem finished_cons_of_not_hasStarted {raw : RawEvent} (h : ¬ raw.HasStarted)
    (raws : List RawEvent) : finished (raw :: raws) = Event.ofRaw raw :: finished raws := by
  have hraw : raw.isStarted = false := by
    rw [← Bool.not_eq_true, RawEvent.isStarted_iff]
    exact h
  simp [finished, hraw]

/-- **Finished events in upper case.** What is kept of a list are all its events but those that
have only started, in the order of the list; their names are put in upper case, and of names
that become equal the greatest in the order of bytes decides the value. So no field is lost
unless another name of the event becomes equal to its name. -/
theorem finished_eq_iff (raws : List RawEvent) (events : List Event) :
    (finished raws = events ↔ Finished raws events) ∧
    ∀ (e : Event) (raw : RawEvent), e.UpperCases raw →
      ∀ original value, raw.get? original = some value →
        e.get? (Text.upper original) = some value ∨
          ∃ other ∈ raw.keys, other ≠ original ∧ Text.upper other = Text.upper original := by
  refine ⟨⟨?_, ?_⟩, fun e raw hupper original value => hupper.get?_or_exists⟩
  · rintro rfl
    induction raws with
    | nil => exact .nil
    | cons raw raws ih =>
      by_cases hstarted : raw.HasStarted
      · rw [finished_cons_of_hasStarted hstarted]
        exact .started hstarted ih
      · rw [finished_cons_of_not_hasStarted hstarted]
        exact .kept hstarted (Event.ofRaw_upperCases raw) ih
  · intro h
    induction h with
    | nil => rfl
    | started hstarted _ ih => rw [finished_cons_of_hasStarted hstarted, ih]
    | kept hstarted hupper _ ih =>
      rw [finished_cons_of_not_hasStarted hstarted, ih, hupper.eq_ofRaw]

/-- A sharp s becomes two letters, and its bytes are greater than theirs. -/
example : (finished [.ofList [("ß", .integer 2), ("SS", .integer 1)]]).map (·.get? "SS") =
    [some (.integer 2)] := by rfl

end ArchiveDesk.Lifecycle
