import ArchiveDesk.Proofs.Upload.Effect
import ArchiveDesk.Upload.Run
import Mathlib.Data.List.Induction

/-!
# Histories of upload runs

A run is read through its history. This file names what an entry of a history
shows from outside, its calls, its reports and its successful selection, and gives
the induction over runs: every entry is an effect on a coherent workflow. The
workflow of a run is therefore coherent, and the file in its slot is always the
one that was selected last. A deletion waits until it is answered, so only a
file that is sent can be left without an answer.
-/

namespace ArchiveDesk

/-- Two files have the same name and the same bytes. -/
def Item.SameFile (i j : Item) : Prop := i.fileName = j.fileName ∧ i.content = j.content

/-- Being the same file is symmetric. -/
theorem Item.SameFile.symm {i j : Item} (h : i.SameFile j) : j.SameFile i := ⟨h.1.symm, h.2.symm⟩

/-- Being the same file is transitive. -/
theorem Item.SameFile.trans {i j k : Item} (h : i.SameFile j) (h' : j.SameFile k) : i.SameFile k :=
  ⟨h.1.trans h'.1, h.2.trans h'.2⟩

/-- An operation that was carried out, with what became of it. -/
abbrev Entry := Deed × Step

namespace Entry

/-- The file that the entry selected successfully. -/
def selected? (e : Entry) : Option Item :=
  match e.1.operation, e.2.outcome with
  | .select item, .completed => some item
  | _, _ => none

/-- The files that the entry sent to a target. -/
def sent (target : Target) (e : Entry) : List Item :=
  e.2.calls.filterMap fun
    | .send item => if item.target = target then some item else none
    | .delete => none

/-- The entry reloaded the view. -/
def Reloads (e : Entry) : Prop := .viewReloaded ∈ e.2.notices

/-- Nothing was called, reloaded or successfully selected. -/
def Quiet (e : Entry) : Prop := e.2.calls = [] ∧ ¬ e.Reloads ∧ e.selected? = none

/-- One file was sent, and nothing else was called, reloaded or selected. -/
def SendsOnly (e : Entry) (item : Item) : Prop :=
  e.2.calls = [.send item] ∧ ¬ e.Reloads ∧ e.selected? = none

end Entry

/-- The file that was selected last in a history. -/
def lastSelected? (history : List Entry) : Option Item :=
  (history.filterMap Entry.selected?).getLast?

/-- The files that a history sent to a target, oldest first. -/
def sends (target : Target) (history : List Entry) : List Item :=
  history.flatMap (Entry.sent target)

/-- Every entry of a history satisfies `P` together with the entries before it. -/
def AtEach (P : List Entry → Entry → Prop) (history : List Entry) : Prop :=
  ∀ before e after, history = before ++ e :: after → P before e

/-- In the empty history there is no entry that has to satisfy anything. -/
theorem atEach_nil {P : List Entry → Entry → Prop} : AtEach P [] := by
  intro before e after hsplit
  simp at hsplit

/-- If a list with one more element is cut in two, the second part is empty or ends in this
element. -/
theorem suffix_concat {α : Type} {xs before stretch : List α} {x : α}
    (hsplit : xs ++ [x] = before ++ stretch) :
    stretch = [] ∨ ∃ rest, stretch = rest ++ [x] ∧ xs = before ++ rest := by
  rcases stretch.eq_nil_or_concat with rfl | ⟨rest, last, rfl⟩
  · exact .inl rfl
  · rw [List.concat_eq_append, ← List.append_assoc] at hsplit
    obtain ⟨hbefore, hlast⟩ := List.append_inj' hsplit rfl
    obtain rfl := List.singleton_inj.mp hlast
    exact .inr ⟨rest, List.concat_eq_append, hbefore⟩

/-- A list with one more element is split at this element or before it. -/
theorem split_concat {α : Type} {xs before after : List α} {x y : α}
    (hsplit : xs ++ [y] = before ++ x :: after) :
    (xs = before ∧ y = x ∧ after = []) ∨
      ∃ rest, after = rest ++ [y] ∧ xs = before ++ x :: rest := by
  obtain hnil | ⟨rest, hrest, hbefore⟩ := suffix_concat hsplit
  · cases hnil
  · cases rest with
    | nil =>
      obtain ⟨rfl, rfl⟩ := List.cons.inj hrest
      exact .inl ⟨by rw [hbefore, List.append_nil], rfl, rfl⟩
    | cons first rest =>
      obtain ⟨rfl, rfl⟩ := List.cons.inj hrest
      exact .inr ⟨rest, rfl, hbefore⟩

/-- A history of entries that satisfy a property goes on with one more of them. -/
theorem AtEach.concat {P : List Entry → Entry → Prop} {history : List Entry} {e : Entry}
    (hhistory : AtEach P history) (he : P history e) : AtEach P (history ++ [e]) := by
  intro before x after hsplit
  rcases split_concat hsplit with ⟨rfl, rfl, -⟩ | ⟨rest, -, hrest⟩
  · exact he
  · exact hhistory before x rest hrest

/-- The file that was selected last is that of the last entry, if it selects one. -/
theorem lastSelected?_concat (history : List Entry) (e : Entry) :
    lastSelected? (history ++ [e]) = e.selected?.or (lastSelected? history) := by
  cases h : e.selected? with
  | none => simp [lastSelected?, h]
  | some item => simp [lastSelected?, h]

/-- What an entry sends is sent after what was sent before. -/
theorem sends_concat (target : Target) (history : List Entry) (e : Entry) :
    sends target (history ++ [e]) = sends target history ++ e.sent target := by
  simp [sends]

namespace Workflow.Effect

variable {w : Workflow} {service : Service} {op : Operation} {step : Step}

/-- Only a choice of a file selects one, and it fills the slot with it. -/
theorem selected?_eq_some {item : Item} (heffect : w.Effect service op step)
    (hselected : Entry.selected? (⟨op, service⟩, step) = some item) :
    step.state.slot = some (item.marked .check .queued) ∧ step.calls = [] := by
  cases heffect with
  | selected chosen =>
    obtain rfl : chosen = item := by simpa [Entry.selected?] using hselected
    exact ⟨rfl, rfl⟩
  | refused => cases op <;> simp [Entry.selected?, Step.refuse, Progress.finish] at hselected
  | imported _ hop | conflicted _ hop | unimported _ hop =>
    rcases hop with rfl | rfl <;> simp [Entry.selected?] at hselected
  | cancelled hop => rcases hop with rfl | rfl <;> simp [Entry.selected?] at hselected
  | _ => simp [Entry.selected?] at hselected

/-- Without a selection the slot keeps its file or is emptied. -/
theorem slot_of_selected?_eq_none {item : Item} (heffect : w.Effect service op step)
    (hselected : Entry.selected? (⟨op, service⟩, step) = none)
    (hslot : step.state.slot = some item) : ∃ held, w.slot = some held ∧ item.SameFile held := by
  cases heffect with
  | selected chosen => simp [Entry.selected?] at hselected
  | refused => exact ⟨item, hslot, rfl, rfl⟩
  | closed => exact ⟨item, hslot, rfl, rfl⟩
  | cancelled | reloaded | acknowledged | deleted | undeleted => simp at hslot
  | passed held _ hheld | rejected held _ hheld | unchecked held _ hheld =>
    obtain rfl := Option.some.inj hslot
    exact ⟨held, hheld, rfl, rfl⟩
  | imported held _ _ hheld | conflicted held _ _ hheld | unimported held _ _ hheld =>
    obtain rfl := Option.some.inj hslot
    exact ⟨held, hheld, rfl, rfl⟩

end Workflow.Effect

namespace Run

/-- The last deed of a run is done last. -/
theorem ofDeeds_concat (deeds : List Deed) (deed : Deed) :
    ofDeeds (deeds ++ [deed]) = (ofDeeds deeds).extend deed := by
  simp [ofDeeds, List.foldl_append]

/-- The notices of the last entry come last. -/
theorem notices_concat (history : List Entry) (w : Workflow) (e : Entry) :
    notices ⟨w, history ++ [e]⟩ = history.flatMap (·.2.notices) ++ e.2.notices := by
  simp [notices]

/-- The workflow of a run is coherent. -/
theorem coherent_ofDeeds (deeds : List Deed) : (ofDeeds deeds).state.Coherent := by
  induction deeds using List.reverseRecOn with
  | nil => exact Workflow.coherent_initial
  | append_singleton deeds deed ih =>
    rw [ofDeeds_concat]
    exact (Workflow.perform_effect deed.service ih deed.operation).coherent ih

/-- Induction over runs: one more operation adds its effect on the workflow so far. -/
theorem ofDeeds_induction {motive : List Deed → Prop} (nil : motive [])
    (concat : ∀ (deeds : List Deed) (deed : Deed) (step : Step),
      ofDeeds (deeds ++ [deed]) = ⟨step.state, (ofDeeds deeds).history ++ [(deed, step)]⟩ →
      (ofDeeds deeds).state.Effect deed.service deed.operation step →
      motive deeds → motive (deeds ++ [deed]))
    (deeds : List Deed) : motive deeds := by
  induction deeds using List.reverseRecOn with
  | nil => exact nil
  | append_singleton deeds deed ih =>
    exact concat deeds deed _ (ofDeeds_concat deeds deed)
      (Workflow.perform_effect deed.service (coherent_ofDeeds deeds) deed.operation) ih

/-- Every entry of a run is an effect on the coherent workflow that it has met. -/
theorem effect_of_mem_history (deeds : List Deed) {e : Entry}
    (he : e ∈ (ofDeeds deeds).history) :
    ∃ w : Workflow, w.Coherent ∧ w.Effect e.1.service e.1.operation e.2 := by
  induction deeds using ofDeeds_induction with
  | nil => exact absurd he List.not_mem_nil
  | concat deeds deed step hrun heffect ih =>
    rw [hrun] at he
    rcases List.mem_append.mp he with he | he
    · exact ih he
    · obtain rfl := List.mem_singleton.mp he
      exact ⟨_, coherent_ofDeeds deeds, heffect⟩

/-- The file in the slot is the one that was selected last. -/
theorem slot_sameFile (deeds : List Deed) {item : Item}
    (hslot : (ofDeeds deeds).state.slot = some item) :
    ∃ chosen, lastSelected? (ofDeeds deeds).history = some chosen ∧ item.SameFile chosen := by
  induction deeds using ofDeeds_induction generalizing item with
  | nil => simp [ofDeeds, initial, Workflow.initial] at hslot
  | concat deeds deed step hrun heffect ih =>
    rw [hrun] at hslot ⊢
    rw [lastSelected?_concat]
    cases hselected : Entry.selected? (deed, step) with
    | none =>
      obtain ⟨held, hheld, hsame⟩ := heffect.slot_of_selected?_eq_none hselected hslot
      obtain ⟨chosen, hchosen, hsame'⟩ := ih hheld
      exact ⟨chosen, hchosen, hsame.trans hsame'⟩
    | some chosen =>
      obtain ⟨hfilled, -⟩ := heffect.selected?_eq_some hselected
      obtain rfl := Option.some.inj (hslot.symm.trans hfilled)
      exact ⟨chosen, rfl, rfl, rfl⟩

/-- **Representation of an upload.** Whatever is asked of a new workflow and however
the service answers, the phase agrees with the slot, the dialog and the import flag,
and a file in the slot has the name and the bytes of the last successful selection. -/
theorem ofDeeds_represents (deeds : List Deed) :
    (ofDeeds deeds).state.Coherent ∧ ∀ item, (ofDeeds deeds).state.slot = some item →
      ∃ chosen, lastSelected? (ofDeeds deeds).history = some chosen ∧ item.SameFile chosen :=
  ⟨coherent_ofDeeds deeds, fun _ => slot_sameFile deeds⟩

end Run

end ArchiveDesk
