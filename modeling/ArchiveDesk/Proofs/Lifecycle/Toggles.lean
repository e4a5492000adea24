import ArchiveDesk.Lifecycle.View
import Mathlib.Data.List.Induction
import Mathlib.Data.List.Nodup

/-!
# Switching columns on and off

The view keeps the fields that are switched on in the order of their switching, but shows their
columns in the order of the choice. So of all the switching only its parity for each field is
seen, also if the choice names a field more than once.
-/

namespace ArchiveDesk.Lifecycle

/-- The columns of the given fields, wherever their labels come from. -/
def columnsOf (labelOf : String → String) (ids : List String) : List Column :=
  ids.map fun id => ⟨id, labelOf (Labels.keyStem ++ id)⟩

/-- The columns of some fields have these fields as their ids. -/
theorem map_id_columnsOf (labelOf : String → String) (ids : List String) :
    (columnsOf labelOf ids).map (·.id) = ids := by
  rw [columnsOf, List.map_map]
  exact List.map_id ids

/-- The columns of some of the fields are some of the columns. -/
theorem filter_columnsOf (labelOf : String → String) (ids : List String) (p : String → Bool) :
    (columnsOf labelOf ids).filter (fun c => p c.id) = columnsOf labelOf (ids.filter p) := by
  rw [columnsOf, List.filter_map]
  rfl

namespace View

/-- A view that nobody has used, with the columns of a choice of fields. -/
def fresh (kind : Kind) (id title : String) (fields : FieldChoice) (labelOf : String → String) :
    View :=
  { View.new kind id title with
    mandatory := columnsOf labelOf fields.mandatory
    custom := columnsOf labelOf fields.custom }

/-- A new view that is given its columns is a fresh one. -/
theorem withColumns_eq_fresh (kind : Kind) (id title : String) (fields : FieldChoice)
    (labels : Labels) : (View.new kind id title).withColumns fields labels =
      fresh kind id title fields labels.labelOf := rfl

/-- The fields that can be switched on. -/
def customIds (v : View) : List String := v.custom.map (·.id)

/-- The view after fields were switched one after the other. -/
def toggleAll (v : View) (ids : List String) : View := ids.foldl toggle v

/-- The last field is switched last. -/
theorem toggleAll_concat (v : View) (ids : List String) (id : String) :
    v.toggleAll (ids ++ [id]) = (v.toggleAll ids).toggle id :=
  List.foldl_concat _ _ _ _

/-- Switching a field takes it away, adds it at the end, or does nothing. -/
theorem toggle_cases (v : View) (id : String) :
    (id ∈ v.selected ∧ v.toggle id = { v with selected := v.selected.erase id }) ∨
      (id ∉ v.selected ∧ id ∈ v.customIds ∧
        v.toggle id = { v with selected := v.selected ++ [id] }) ∨
      (id ∉ v.selected ∧ id ∉ v.customIds ∧ v.toggle id = v) := by
  have hcustom : v.custom.any (·.id == id) = true ↔ id ∈ v.customIds := by
    simp [customIds]
  unfold toggle
  by_cases hselected : id ∈ v.selected
  · exact .inl ⟨hselected, if_pos hselected⟩
  · rw [if_neg hselected]
    by_cases hid : id ∈ v.customIds
    · exact .inr (.inl ⟨hselected, hid, if_pos (hcustom.mpr hid)⟩)
    · exact .inr (.inr ⟨hselected, hid, if_neg (mt hcustom.mp hid)⟩)

variable {v w : View} {ids : List String}

/-- Switching a field keeps the columns that are always shown. -/
@[simp] theorem mandatory_toggle (v : View) (id : String) :
    (v.toggle id).mandatory = v.mandatory := by
  obtain ⟨-, htaken⟩ | ⟨-, -, hadded⟩ | ⟨-, -, hkept⟩ := v.toggle_cases id
  · rw [htaken]
  · rw [hadded]
  · rw [hkept]

/-- Switching a field keeps the columns that can be chosen. -/
@[simp] theorem custom_toggle (v : View) (id : String) : (v.toggle id).custom = v.custom := by
  obtain ⟨-, htaken⟩ | ⟨-, -, hadded⟩ | ⟨-, -, hkept⟩ := v.toggle_cases id
  · rw [htaken]
  · rw [hadded]
  · rw [hkept]

/-- No field is switched on twice. -/
theorem nodup_selected_toggle (hnodup : v.selected.Nodup) (id : String) :
    (v.toggle id).selected.Nodup := by
  obtain ⟨-, htaken⟩ | ⟨hout, -, hadded⟩ | ⟨-, -, hkept⟩ := v.toggle_cases id
  · rw [htaken]
    exact hnodup.erase id
  · rw [hadded, ← List.concat_eq_append]
    exact hnodup.concat hout
  · rw [hkept]
    exact hnodup

/-- Switching a field changes whether that field is switched on, if it is one of the custom ones,
and no other. -/
theorem mem_selected_toggle_iff (hnodup : v.selected.Nodup) (id other : String) :
    other ∈ (v.toggle id).selected ↔ if other = id then id ∈ v.customIds ∧ id ∉ v.selected
      else other ∈ v.selected := by
  obtain ⟨hin, htaken⟩ | ⟨hout, hcustom, hadded⟩ | ⟨hout, hcustom, hkept⟩ := v.toggle_cases id
  · -- no duplicate is left of what is taken away
    rw [htaken, hnodup.mem_erase_iff]
    split
    · exact iff_of_false (fun hne => hne.1 ‹_›) (fun hnew => hnew.2 hin)
    · exact and_iff_right ‹_›
  · rw [hadded, List.mem_append, List.mem_singleton]
    split
    · exact iff_of_true (.inr ‹_›) ⟨hcustom, hout⟩
    · exact or_iff_left ‹_›
  · rw [hkept]
    split
    · subst other
      exact iff_of_false hout (fun hnew => hcustom hnew.1)
    · exact Iff.rfl

/-- A view has become another one by switching fields: the columns to choose from are the same,
and the fields that are switched on are those switched an odd number of times. -/
structure Switched (v : View) (ids : List String) (w : View) : Prop where
  mandatory : w.mandatory = v.mandatory
  custom : w.custom = v.custom
  nodup : w.selected.Nodup
  mem_selected_iff : ∀ id, id ∈ w.selected ↔ id ∈ v.customIds ∧ ids.count id % 2 = 1

/-- A view that was switched has the same fields to choose from. -/
theorem Switched.customIds_eq (h : v.Switched ids w) : w.customIds = v.customIds := by
  rw [customIds, h.custom]
  rfl

/-- One more field is switched. -/
theorem Switched.toggle (h : v.Switched ids w) (id : String) :
    v.Switched (ids ++ [id]) (w.toggle id) where
  mandatory := by rw [mandatory_toggle, h.mandatory]
  custom := by rw [custom_toggle, h.custom]
  nodup := nodup_selected_toggle h.nodup id
  mem_selected_iff other := by
    rw [mem_selected_toggle_iff h.nodup, h.mem_selected_iff, h.mem_selected_iff, h.customIds_eq,
      List.count_append]
    split
    · subst other
      have hparity : (ids.count id + 1) % 2 = 1 ↔ ¬ ids.count id % 2 = 1 := by omega
      rw [List.count_singleton_self, hparity]
      exact and_congr_right fun hcustom => not_congr (and_iff_right hcustom)
    · have hnone : [id].count other = 0 := List.count_eq_zero.mpr (by simpa using ‹_›)
      rw [hnone, Nat.add_zero]

/-- A view in which no field was on is switched by the fields, one after the other. -/
theorem switched_toggleAll (hnone : v.selected = []) (ids : List String) :
    v.Switched ids (v.toggleAll ids) := by
  induction ids using List.reverseRecOn with
  | nil =>
    refine ⟨rfl, rfl, ?_, fun id => ?_⟩
    · simp [toggleAll, hnone]
    · simp [toggleAll, hnone]
  | append_singleton ids id ih =>
    rw [toggleAll_concat]
    exact ih.toggle id

/-- A field that cannot be switched on is not switched off either. -/
theorem Switched.toggle_eq_self (h : v.Switched ids w) {id : String} (hid : id ∉ v.customIds) :
    w.toggle id = w := by
  obtain ⟨hselected, -⟩ | ⟨-, hcustom, -⟩ | ⟨-, -, hkept⟩ := w.toggle_cases id
  · exact absurd ((h.mem_selected_iff id).mp hselected).1 hid
  · exact absurd (h.customIds_eq ▸ hcustom) hid
  · exact hkept

/-- Only fields that can be switched on matter. -/
theorem toggleAll_filter (hnone : v.selected = []) (ids : List String) :
    v.toggleAll (ids.filter (· ∈ v.customIds)) = v.toggleAll ids := by
  induction ids using List.reverseRecOn with
  | nil => rfl
  | append_singleton ids id ih =>
    rw [List.filter_append, toggleAll_concat]
    by_cases hid : id ∈ v.customIds
    · rw [List.filter_cons_of_pos (by simpa using hid), List.filter_nil, toggleAll_concat, ih]
    · rw [List.filter_cons_of_neg (by simpa using hid), List.filter_nil, List.append_nil, ih,
        (switched_toggleAll hnone ids).toggle_eq_self hid]

/-- The columns on display are the mandatory ones and those switched an odd number of times. -/
theorem Switched.displayed_eq (h : v.Switched ids w) :
    w.displayed = v.mandatory ++ v.custom.filter fun c => ids.count c.id % 2 = 1 := by
  rw [displayed, h.mandatory, h.custom]
  congr 1
  refine List.filter_congr fun c hc => ?_
  have hid : c.id ∈ v.customIds := List.mem_map_of_mem hc
  rw [Bool.eq_iff_iff, List.contains_iff_mem, h.mem_selected_iff, decide_eq_true_eq]
  exact and_iff_right hid

/-- **Only the parity of the switching is seen.** Whatever fields a choice names, also more than
once, and whatever labels they have: after any switching a view shows its mandatory columns and
then exactly those custom ones whose field was switched an odd number of times, each in the order
of the choice. So the order of the switching does not matter, other fields have no effect, and
the fields that are switched on are custom ones, each of them once. -/
theorem displayed_toggleAll (kind : Kind) (id title : String) (fields : FieldChoice)
    (labelOf : String → String) (ids : List String) :
    let v := fresh kind id title fields labelOf
    (v.toggleAll ids).displayed = columnsOf labelOf fields.mandatory ++
      columnsOf labelOf (fields.custom.filter fun field => ids.count field % 2 = 1) ∧
    (∀ others, ids.Perm others → (v.toggleAll others).displayed = (v.toggleAll ids).displayed) ∧
    v.toggleAll (ids.filter (· ∈ fields.custom)) = v.toggleAll ids ∧
    (v.toggleAll ids).selected.Nodup ∧
    ∀ field ∈ (v.toggleAll ids).selected, field ∈ fields.custom := by
  intro v
  have hswitched (ids : List String) : v.Switched ids (v.toggleAll ids) :=
    switched_toggleAll rfl ids
  have hcustom : v.customIds = fields.custom := map_id_columnsOf labelOf fields.custom
  have hdisplayed (ids : List String) : (v.toggleAll ids).displayed =
      columnsOf labelOf fields.mandatory ++
        columnsOf labelOf (fields.custom.filter fun field => ids.count field % 2 = 1) := by
    rw [(hswitched ids).displayed_eq, ← filter_columnsOf]
    rfl
  refine ⟨hdisplayed ids, fun others hperm => ?_, ?_, (hswitched ids).nodup, fun field hfield => ?_⟩
  · rw [hdisplayed, hdisplayed]
    simp only [hperm.count_eq]
  · rw [← hcustom]
    exact toggleAll_filter rfl ids
  · rw [← hcustom]
    exact (((hswitched ids).mem_selected_iff field).mp hfield).1

/-- A field that is chosen twice has two columns, and both come and go together. -/
example : ((fresh .unit "aeaq" "" ⟨["outcome"], ["agId", "evId", "agId"]⟩ (·)).toggleAll
    ["evId", "agId", "evType", "evId"]).displayed.map (·.id) = ["outcome", "agId", "agId"] := by
  decide

end View

end ArchiveDesk.Lifecycle
