import ArchiveDesk.Fields
import Mathlib.Order.Basic
import Mathlib.Data.List.Induction
import Mathlib.Data.String.Basic

/-!
# Looking up fields

What a field holds after it was set, and after a list of names and values was turned into
fields. Fields are determined by what is found under each name.
-/

namespace ArchiveDesk.Fields

variable {α : Type}

private theorem find?_put (key : String) (value : α) (l : List (String × α)) (name : String) :
    (put key value l).find? (·.1 == name) =
      if key = name then some (key, value) else l.find? (·.1 == name) := by
  induction l with
  | nil => simp [put]
  | cons head rest ih =>
    obtain ⟨k, v⟩ := head
    simp only [put]
    split
    · by_cases hname : key = name <;> simp [hname]
    · split
      · rename_i heq
        subst heq
        by_cases hname : key = name <;> simp [hname]
      · rename_i hne
        by_cases hk : k = name
        · have hname : key ≠ name := fun h => hne (h.trans hk.symm)
          simp [hk, hname]
        · simp [hk, ih]

/-- No field is set at first. -/
@[simp] theorem get?_empty (name : String) : (empty : Fields α).get? name = none := rfl

/-- Setting a field changes this field only. -/
theorem get?_insert (f : Fields α) (key : String) (value : α) (name : String) :
    (f.insert key value).get? name = if key = name then some value else f.get? name := by
  simp only [get?, insert, find?_put]
  split <;> rfl

/-- The empty list sets no field. -/
@[simp] theorem ofList_nil : (ofList [] : Fields α) = empty := rfl

/-- The last entry of a list is set last. -/
theorem ofList_concat (l : List (String × α)) (e : String × α) :
    ofList (l ++ [e]) = (ofList l).insert e.1 e.2 := by
  simp [ofList, List.foldl_append]

/-- A field holds a value if and only if they stand together in the list. -/
theorem get?_eq_some_iff {f : Fields α} {name : String} {value : α} :
    f.get? name = some value ↔ (name, value) ∈ f.entries := by
  obtain ⟨l, hl⟩ := f
  simp only [get?]
  induction l with
  | nil => simp
  | cons head rest ih =>
    obtain ⟨hhead, hrest⟩ := List.pairwise_cons.mp hl
    by_cases hname : head.1 = name
    · subst hname
      have hnot : (head.1, value) ∉ rest := fun h => lt_irrefl head.1 (hhead (head.1, value) h)
      simp [hnot, Prod.ext_iff, eq_comm]
    · simp only [List.find?_cons, beq_eq_false_iff_ne.mpr hname, List.mem_cons, Prod.ext_iff,
        Ne.symm hname, false_and, false_or]
      exact ih hrest

/-- The keys are the names of the fields that hold a value. -/
theorem mem_keys_iff {f : Fields α} {name : String} :
    name ∈ f.keys ↔ ∃ value, f.get? name = some value := by
  simp [keys, get?_eq_some_iff]

/-- The fields of a list have the names that stand in the list. -/
theorem mem_keys_ofList {l : List (String × α)} {name : String} :
    name ∈ (ofList l).keys ↔ name ∈ l.map (·.1) := by
  induction l using List.reverseRecOn with
  | nil => simp [keys, empty]
  | append_singleton l e ih =>
    rw [mem_keys_iff] at ih ⊢
    simp only [ofList_concat, get?_insert, List.map_append, List.map_singleton, List.mem_append,
      List.mem_singleton, ← ih]
    by_cases hname : e.1 = name
    · simp [hname]
    · simp [hname, Ne.symm hname]

/-- Fields with the same value under each name are the same. -/
theorem ext_get? {f g : Fields α} (h : ∀ name, f.get? name = g.get? name) : f = g := by
  have hmem (e : String × α) : e ∈ f.entries ↔ e ∈ g.entries := by
    rw [← get?_eq_some_iff, ← get?_eq_some_iff, h]
  obtain ⟨l, hl⟩ := f
  obtain ⟨m, hm⟩ := g
  congr
  have hperm : l.Perm m := by
    refine (List.perm_ext_iff_of_nodup ?_ ?_).mpr hmem
    · exact hl.imp fun hlt => ne_of_apply_ne Prod.fst hlt.ne
    · exact hm.imp fun hlt => ne_of_apply_ne Prod.fst hlt.ne
  exact hperm.eq_of_pairwise (fun a b _ _ hab hba => absurd hba (lt_asymm hab)) hl hm

/-- Renaming names of a list in increasing order, and keeping the last value of those that
become equal, keeps the value of the greatest of them. -/
theorem get?_ofList_map_iff {l : List (String × α)} (hl : l.Pairwise (fun a b => a.1 < b.1))
    (rename : String → String) {name : String} {value : α} :
    (ofList (l.map fun e => (rename e.1, e.2))).get? name = some value ↔
      ∃ e ∈ l, e.2 = value ∧ rename e.1 = name ∧ ∀ e' ∈ l, rename e'.1 = name → e'.1 ≤ e.1 := by
  induction l using List.reverseRecOn with
  | nil => simp
  | append_singleton l last ih =>
    obtain ⟨hl', -, hlast⟩ := List.pairwise_append.mp hl
    have hless (e : String × α) (he : e ∈ l) : e.1 < last.1 := hlast e he last (by simp)
    rw [List.map_append, List.map_singleton, ofList_concat, get?_insert]
    split
    · rename_i hname
      constructor
      · rintro ⟨rfl⟩
        refine ⟨last, by simp, rfl, hname, fun e he _ => ?_⟩
        rcases List.mem_append.mp he with he | he
        · exact (hless e he).le
        · rw [List.mem_singleton.mp he]
      · rintro ⟨e, he, rfl, -, hgreatest⟩
        rcases List.mem_append.mp he with he | he
        · -- The last name is greater than this one, and it becomes the same.
          exact absurd (hgreatest last (by simp) hname) (not_le.mpr (hless e he))
        · rw [List.mem_singleton.mp he]
    · rename_i hname
      rw [ih hl']
      constructor
      · rintro ⟨e, he, hvalue, hrename, hgreatest⟩
        refine ⟨e, List.mem_append_left _ he, hvalue, hrename, fun e' he' hrename' => ?_⟩
        rcases List.mem_append.mp he' with he' | he'
        · exact hgreatest e' he' hrename'
        · exact absurd (List.mem_singleton.mp he' ▸ hrename') hname
      · rintro ⟨e, he, hvalue, hrename, hgreatest⟩
        rcases List.mem_append.mp he with he | he
        · exact ⟨e, he, hvalue, hrename, fun e' he' => hgreatest e' (List.mem_append_left _ he')⟩
        · exact absurd (List.mem_singleton.mp he ▸ hrename) hname

end ArchiveDesk.Fields
