import ArchiveDesk.Proofs.Lifecycle.Outcome

/-!
# Finished events are in their final form

The names of a finished event are their own upper case. So its fields, taken as a raw event
again, give the same event, and what is shown for a name depends on its upper case only.
-/

namespace ArchiveDesk.Lifecycle

namespace Event

/-- What a table shows of an event for a name: nothing without a field under the upper case of
the name or if that is null, a text as it is, and the compact text of any other value. -/
inductive Shows (e : Event) (name : String) : String → Prop where
  | absent (habsent : Text.upper name ∉ e.fields.keys) : Shows e name ""
  | null (hvalue : e.get? (Text.upper name) = some .null) : Shows e name ""
  | text {s : String} (hvalue : e.get? (Text.upper name) = some (.text s)) : Shows e name s
  | compact {value : Json} (hvalue : e.get? (Text.upper name) = some value)
      (hnull : value ≠ .null) (htext : ∀ s, value ≠ .text s) : Shows e name value.write

/-- What is displayed for a name is what a table shows for it. -/
theorem shows_display (e : Event) (name : String) : e.Shows name (e.display name) := by
  rw [display]
  cases hvalue : e.get? (Text.upper name) with
  | none =>
    refine .absent fun hkey => ?_
    obtain ⟨value, hvalue'⟩ := Fields.mem_keys_iff.mp hkey
    rw [← get?, hvalue] at hvalue'
    cases hvalue'
  | some value =>
    cases value with
    | null => exact .null hvalue
    | text s => exact .text hvalue
    | bool _ | integer _ | float _ | array _ | object _ =>
      exact .compact hvalue (by simp) (by simp)

/-- What a table shows for a name is displayed, and nothing else. -/
theorem Shows.eq_display {e : Event} {name text : String} (h : e.Shows name text) :
    e.display name = text := by
  rw [display]
  cases h with
  | absent habsent =>
    have hnone : e.get? (Text.upper name) = none :=
      Option.eq_none_iff_forall_ne_some.mpr fun value hvalue =>
        habsent (Fields.mem_keys_iff.mpr ⟨value, hvalue⟩)
    rw [hnone]
    rfl
  | null hvalue =>
    rw [hvalue]
    rfl
  | text hvalue =>
    rw [hvalue]
    rfl
  | @compact value hvalue hnull htext =>
    rw [hvalue]
    cases value with
    | null => exact absurd rfl hnull
    | text s => exact absurd rfl (htext s)
    | bool _ | integer _ | float _ | array _ | object _ => rfl

/-- The event has its names in upper case. -/
def IsUpper (e : Event) : Prop := ∀ name ∈ e.fields.keys, Text.upper name = name

/-- The names of a finished event are in upper case. -/
theorem isUpper_ofRaw (raw : RawEvent) : (ofRaw raw).IsUpper := by
  intro name hname
  obtain ⟨original, -, rfl⟩ := mem_keys_ofRaw_iff.mp hname
  exact Text.upper_upper original

/-- An event whose names are in upper case is not changed by being finished again. -/
theorem IsUpper.ofRaw_fields {e : Event} (h : e.IsUpper) : ofRaw e.fields = e := by
  refine (UpperCases.eq_ofRaw ⟨fun name => ?_, fun original horiginal _ => ?_⟩).symm
  · constructor
    · intro hname
      exact ⟨name, hname, h name hname⟩
    · rintro ⟨original, horiginal, rfl⟩
      rwa [h original horiginal]
  · rw [h original horiginal]
    rfl

/-- Its field for the outcome is not the one from which it is read whether an event has
finished. -/
theorem IsUpper.not_hasStarted {e : Event} (h : e.IsUpper) :
    ¬ RawEvent.HasStarted e.fields := by
  intro hstarted
  have hname := h "outcome" (Fields.mem_keys_iff.mpr ⟨_, hstarted⟩)
  rw [upper_outcome] at hname
  exact absurd hname (by decide)

end Event

/-- The names of all finished events are in upper case. -/
theorem isUpper_of_mem_finished {raws : List RawEvent} {e : Event} (h : e ∈ finished raws) :
    e.IsUpper := by
  obtain ⟨raw, -, rfl⟩ := List.mem_map.mp h
  exact Event.isUpper_ofRaw raw

/-- Events whose names are in upper case are not changed by being finished again. -/
theorem finished_map_fields {events : List Event} (h : ∀ e ∈ events, e.IsUpper) :
    finished (events.map Event.fields) = events := by
  induction events with
  | nil => rfl
  | cons e events ih =>
    have he : e.IsUpper := h e List.mem_cons_self
    rw [List.map_cons, finished_cons_of_not_hasStarted he.not_hasStarted, he.ofRaw_fields,
      ih fun e' he' => h e' (List.mem_cons_of_mem e he')]

/-- **Finished events stay as they are.** Taking the finished events of a list as raw events
again gives the same events, and their names are in upper case. Names with the same upper case
show the same of an event: the field under this upper case. -/
theorem finished_stable (raws : List RawEvent) :
    finished ((finished raws).map Event.fields) = finished raws ∧
    ∀ e ∈ finished raws,
      (∀ name ∈ e.fields.keys, Text.upper name = name) ∧
      (∀ a b, Text.upper a = Text.upper b → e.display a = e.display b) ∧
      ∀ name text, e.display name = text ↔ e.Shows name text := by
  refine ⟨finished_map_fields fun e => isUpper_of_mem_finished, fun e he => ?_⟩
  refine ⟨isUpper_of_mem_finished he, fun a b hupper => ?_, fun name text => ?_⟩
  · rw [Event.display, Event.display, hupper]
  · constructor
    · rintro rfl
      exact e.shows_display name
    · exact Event.Shows.eq_display

/-- A ligature is found under the letters that it becomes. -/
example : (finished [.ofList [("eﬀect", .text "none")]]).map (·.display "EFFect") = ["none"] := by
  rfl

end ArchiveDesk.Lifecycle
