/-!
# Named fields in key order

A finite map from texts to values, kept as a list in strictly increasing key
order. Keys are compared by their code points, which is also the order of their
UTF-8 bytes.
-/

namespace ArchiveDesk

/-- Named values in strictly increasing order of their names. -/
structure Fields (α : Type) where
  /-- The names and values, in order. -/
  entries : List (String × α)
  /-- The names increase strictly. -/
  ascending : entries.Pairwise (fun a b => a.1 < b.1)

namespace Fields

variable {α : Type}

/-- No fields. -/
def empty : Fields α := ⟨[], .nil⟩

/-- Puts a value into an ordered list, replacing one of the same name. -/
def put (key : String) (value : α) : List (String × α) → List (String × α)
  | [] => [(key, value)]
  | (k, v) :: rest =>
    if key < k then (key, value) :: (k, v) :: rest
    else if key = k then (key, value) :: rest
    else (k, v) :: put key value rest

/-- The names after a value was put. -/
theorem mem_put {key : String} {value : α} {l : List (String × α)} {e : String × α}
    (h : e ∈ put key value l) : e = (key, value) ∨ e ∈ l := by
  induction l with
  | nil => simpa [put] using h
  | cons head rest ih =>
    obtain ⟨k, v⟩ := head
    simp only [put] at h
    split at h
    · simpa using h
    · split at h
      · rcases List.mem_cons.mp h with h | h
        · exact .inl h
        · exact .inr (List.mem_cons_of_mem _ h)
      · rcases List.mem_cons.mp h with h | h
        · exact .inr (h ▸ List.mem_cons_self)
        · exact (ih h).imp_right (List.mem_cons_of_mem _)

/-- Putting a value keeps the order. -/
theorem put_ascending {key : String} {value : α} {l : List (String × α)}
    (h : l.Pairwise (fun a b => a.1 < b.1)) :
    (put key value l).Pairwise (fun a b => a.1 < b.1) := by
  induction l with
  | nil => simp [put]
  | cons head rest ih =>
    obtain ⟨k, v⟩ := head
    obtain ⟨hhead, hrest⟩ := List.pairwise_cons.mp h
    simp only [put]
    split
    · next hlt =>
      refine List.pairwise_cons.mpr ⟨fun e he => ?_, h⟩
      rcases List.mem_cons.mp he with rfl | he
      · exact hlt
      · exact String.lt_trans hlt (hhead e he)
    · next hnlt =>
      split
      · next heq =>
        subst heq
        exact List.pairwise_cons.mpr ⟨hhead, hrest⟩
      · next hne =>
        have hkey : k < key := by
          rcases String.le_total k key with hle | hle
          · exact String.not_le.mp fun hge => hne (String.le_antisymm hge hle)
          · exact absurd (String.not_le.mp fun hge => hne (String.le_antisymm hle hge)) hnlt
        refine List.pairwise_cons.mpr ⟨fun e he => ?_, ih hrest⟩
        rcases mem_put he with rfl | he
        · exact hkey
        · exact hhead e he

/-- Sets a field. -/
def insert (f : Fields α) (key : String) (value : α) : Fields α :=
  ⟨put key value f.entries, put_ascending f.ascending⟩

/-- The fields of a list of names and values; the last value of a name counts. -/
def ofList (l : List (String × α)) : Fields α :=
  l.foldl (fun f e => f.insert e.1 e.2) empty

/-- The value of a field. -/
def get? (f : Fields α) (key : String) : Option α :=
  (f.entries.find? (·.1 == key)).map (·.2)

/-- The names in order. -/
def keys (f : Fields α) : List String := f.entries.map (·.1)

end Fields

end ArchiveDesk
