import ArchiveDesk.Desk.Journal

/-!
# What the page offers

The widgets of the page carry their clicks with them, and a disabled button has
none. So every click that the page offers is one that the panel allows: the upload
is operated only while no dialog is open and the worker is not known to be busy,
and a dialog is answered only while it is shown, by its own buttons.
-/

namespace ArchiveDesk

/-- A label cannot be clicked. -/
@[simp] theorem Widget.press_label (text : String) : (label text).press = none := rfl

/-- A click on a button does what the button is for, if it is enabled. -/
@[simp] theorem Widget.press_button (text : String) (x y : Press) (enabled : Bool) :
    (button text x enabled).press = some y ↔ enabled = true ∧ x = y := by
  cases enabled <;> simp [button]

namespace Panel

/-- What a click needs of the panel. -/
def Allows (p : Panel) : Press → Prop
  | .browse => p.canChoose = true
  | .act .submit => p.canSubmit = true
  | .act .delete => p.canDelete = true
  | .act .reload => p.canReload = true
  | .act .openLifecycle => p.canLookUp = true
  | .act (.answer choice) =>
    ∃ kind, p.prompt = some kind ∧ (choice = .accept ∨ kind.declineLabel.isSome = true)
  | .act (.chooseFile _) => False
  | .dropDown _ | .kind _ | .field _ | .column _ | .turn _ | .activity => True

/-- What a click needs of the panel that is not on the open dialog: it is no answer. -/
def AllowsAside (p : Panel) : Press → Prop
  | .act (.answer _) => False
  | x => p.Allows x

/-- What is allowed beside a dialog is allowed. -/
theorem AllowsAside.allows {p : Panel} {x : Press} (h : p.AllowsAside x) : p.Allows x := by
  unfold AllowsAside at h
  split at h
  · exact h.elim
  · exact h

/-- Every click on these widgets is allowed, and none of them is an answer. -/
def AllowsOn (p : Panel) (widgets : List Widget) : Prop :=
  ∀ w ∈ widgets, ∀ x, w.press = some x → p.AllowsAside x

variable {p : Panel}

private theorem allowsOn_nil : p.AllowsOn [] := by
  intro w hw
  cases hw

private theorem allowsOn_cons {w : Widget} {widgets : List Widget} :
    p.AllowsOn (w :: widgets) ↔
      (∀ x, w.press = some x → p.AllowsAside x) ∧ p.AllowsOn widgets := by
  simp [AllowsOn]

private theorem allowsOn_append {widgets others : List Widget} :
    p.AllowsOn (widgets ++ others) ↔ p.AllowsOn widgets ∧ p.AllowsOn others := by
  simp only [AllowsOn, List.mem_append, or_imp, forall_and]

private theorem allowsOn_map {α : Type} {f : α → Widget} {xs : List α}
    (hf : ∀ x ∈ xs, ∀ y, (f x).press = some y → p.AllowsAside y) : p.AllowsOn (xs.map f) := by
  intro w hw
  obtain ⟨x, hx, rfl⟩ := List.mem_map.mp hw
  exact hf x hx

private theorem allowsOn_labels (texts : List String) : p.AllowsOn (texts.map .label) :=
  allowsOn_map (by simp)

private theorem allowsOn_upload : p.AllowsOn p.uploadWidgets := by
  simp [uploadWidgets, allowsOn_cons, allowsOn_nil, AllowsAside, Allows]

private theorem allowsOn_form : p.AllowsOn p.formWidgets := by
  simp [formWidgets, fieldWidget, allowsOn_cons, allowsOn_nil, AllowsAside, Allows]

private theorem allowsOn_activity : p.AllowsOn p.activityWidgets := by
  unfold activityWidgets
  split
  · exact allowsOn_nil
  · split
    · exact allowsOn_cons.mpr ⟨by simp [AllowsAside, Allows], allowsOn_labels _⟩
    · simp [allowsOn_cons, allowsOn_nil, AllowsAside, Allows]

private theorem allowsOn_error : p.AllowsOn p.errorWidgets := by
  unfold errorWidgets
  cases p.error with
  | none => exact allowsOn_nil
  | some e =>
    refine allowsOn_cons.mpr ⟨by simp, ?_⟩
    cases e.action <;> simp [allowsOn_cons, allowsOn_nil]

/-- The open view is changed by its own clicks, without the worker. -/
private theorem allowsOn_view (v : Lifecycle.View) : p.AllowsOn v.widgets := by
  have hcolumns : p.AllowsOn v.columnWidgets := by
    unfold Lifecycle.View.columnWidgets
    split
    · exact allowsOn_nil
    · exact allowsOn_cons.mpr ⟨by simp, allowsOn_map (by simp [AllowsAside, Allows])⟩
  have hpager : p.AllowsOn v.pagerWidgets := by
    unfold Lifecycle.View.pagerWidgets
    refine allowsOn_append.mpr ⟨allowsOn_append.mpr ⟨?_, allowsOn_map ?_⟩, ?_⟩ <;>
      simp [allowsOn_cons, allowsOn_nil, AllowsAside, Allows]
  unfold Lifecycle.View.widgets
  refine allowsOn_cons.mpr ⟨by simp, ?_⟩
  split
  · simp only [allowsOn_append]
    exact ⟨⟨⟨hcolumns, allowsOn_map (by simp)⟩, allowsOn_labels _⟩, hpager⟩
  · split <;> simp [allowsOn_cons, allowsOn_nil]

private theorem allowsOn_choices (list : DropDown) : p.AllowsOn (p.choices list) := by
  unfold choices
  split
  · cases list <;> exact allowsOn_map (by simp [AllowsAside, Allows])
  · exact allowsOn_nil

/-- The buttons of a dialog answer it, and only a confirmation can be declined. -/
private theorem allows_of_mem_promptWidgets {w : Widget} {x : Press} (hw : w ∈ p.promptWidgets)
    (hx : w.press = some x) : p.Allows x := by
  unfold promptWidgets at hw
  cases hprompt : p.prompt with
  | none => simp [hprompt] at hw
  | some kind =>
    simp only [hprompt, List.cons_append, List.mem_cons, List.mem_append, Option.mem_toList,
      Option.map_eq_some_iff, List.not_mem_nil, or_false] at hw
    obtain rfl | ⟨text, htext, rfl⟩ | rfl := hw
    · obtain ⟨-, rfl⟩ := (Widget.press_button ..).mp hx
      exact ⟨kind, hprompt, .inl rfl⟩
    · obtain ⟨-, rfl⟩ := (Widget.press_button ..).mp hx
      exact ⟨kind, hprompt, .inr (by rw [htext]; rfl)⟩
    · simp at hx

/-- A click on the page is one on the open dialog, or no answer. -/
private theorem mem_promptWidgets_or {openList : Option DropDown} {w : Widget}
    (hw : w ∈ p.widgets openList) :
    w ∈ p.promptWidgets ∨ ∀ x, w.press = some x → p.AllowsAside x := by
  have hview : p.AllowsOn ((p.view.map (·.widgets)).getD []) := by
    cases p.view with
    | none => exact allowsOn_nil
    | some v => exact allowsOn_view v
  have hchoices : p.AllowsOn ((openList.map p.choices).getD []) := by
    cases openList with
    | none => exact allowsOn_nil
    | some list => exact allowsOn_choices list
  have hmem := (List.mem_filter.mp hw).1
  simp only [List.mem_append] at hmem
  rcases hmem with (((((hw | hw) | hw) | hw) | hw) | hw) | hw
  · exact .inr (allowsOn_upload w hw)
  · exact .inr (allowsOn_form w hw)
  · exact .inr (hview w hw)
  · exact .inr (allowsOn_activity w hw)
  · exact .inr (allowsOn_error w hw)
  · exact .inl hw
  · exact .inr (hchoices w hw)

/-- **The page offers only what the panel allows.** -/
theorem allows_of_mem_widgets {openList : Option DropDown} {w : Widget} {x : Press}
    (hw : w ∈ p.widgets openList) (hx : w.press = some x) : p.Allows x := by
  obtain hw | haside := mem_promptWidgets_or hw
  · exact allows_of_mem_promptWidgets hw hx
  · exact (haside x hx).allows

/-- What the page offers is allowed. -/
theorem allows_of_mem_presses {x : Press} (hx : x ∈ p.presses) : p.Allows x := by
  unfold presses at hx
  obtain ⟨w, hw, hpress⟩ := List.mem_filterMap.mp hx
  obtain ⟨openList, -, hw⟩ := List.mem_flatMap.mp hw
  exact allows_of_mem_widgets hw hpress

/-- Only the buttons of the open dialog answer it. -/
theorem mem_promptWidgets_of_answer {openList : Option DropDown} {w : Widget} {choice : Choice}
    (hw : w ∈ p.widgets openList) (hanswer : w.press = some (.act (.answer choice))) :
    w ∈ p.promptWidgets :=
  (mem_promptWidgets_or hw).resolve_right fun haside => haside _ hanswer

/-- The upload is operated only while no dialog is open. -/
theorem prompt_eq_none_of_isFree (hfree : p.isFree = true) : p.prompt = none := by
  simp only [isFree, Bool.and_eq_true, Option.isNone_iff_eq_none] at hfree
  exact hfree.1

/-- The upload is operated only while the worker is not busy. -/
theorem busy_eq_false_of_isFree (hfree : p.isFree = true) : p.busy = false := by
  simp only [isFree, Bool.and_eq_true, Bool.not_eq_true'] at hfree
  exact hfree.2

end Panel

end ArchiveDesk
