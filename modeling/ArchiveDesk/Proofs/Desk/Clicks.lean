import ArchiveDesk.Proofs.Desk.Presses
import ArchiveDesk.Proofs.Desk.Session
import Mathlib.Data.List.DropRight

/-!
# What a click sends

A command leaves the desk only by a click on the page, and each click sends one at most. Whatever
the panel shows, an open dialog leaves nothing but its own buttons and the lookup, and while the
worker is busy nothing can be sent but the answer to a dialog. A lookup is for the view that it
opens.
-/

namespace ArchiveDesk

/-! ## Trimmed texts -/

namespace Text

/-- What is stripped at both ends is not stripped again. -/
theorem stripChars_stripChars (p : Char → Bool) (cs : List Char) :
    stripChars p (stripChars p cs) = stripChars p cs := by
  have hstrip (cs : List Char) : stripChars p cs = (cs.dropWhile p).rdropWhile p := rfl
  -- what is dropped at the end leaves the first character
  have hfront : ((cs.dropWhile p).rdropWhile p).dropWhile p = (cs.dropWhile p).rdropWhile p := by
    rw [List.dropWhile_eq_self_iff]
    intro hlt
    have hprefix : (cs.dropWhile p).rdropWhile p <+: cs.dropWhile p := List.rdropWhile_prefix p _
    have hne : (cs.dropWhile p).rdropWhile p ≠ [] := List.ne_nil_of_length_pos hlt
    rw [List.getElem_zero, hprefix.head hne]
    exact Bool.eq_false_iff.mp (List.head_dropWhile_not p _)
  rw [hstrip, hstrip, hfront, List.rdropWhile_idempotent]

/-- A trimmed text is not trimmed again. -/
theorem trim_trim (s : String) : trim (trim s) = trim s := by
  rw [trim, trim, String.toList_ofList, stripChars_stripChars]

end Text

/-! ## What the panel lets out -/

namespace Panel

/-- A command may leave the panel. -/
structure Releases (p : Panel) (c : Command) : Prop where
  /-- While a dialog is open, it is answered, or a lifecycle is looked up. -/
  modal : p.prompt ≠ none → (∃ choice, c = .answer choice) ∨ ∃ kind id, c = .fetch kind id
  /-- An answer is one that the open dialog offers. -/
  asked : ∀ choice, c = .answer choice →
    ∃ dialog, p.prompt = some dialog ∧ (choice = .decline → dialog = .confirmImport)
  /-- While the worker is busy, only a dialog is answered. -/
  patient : p.busy = true → ∃ choice, c = .answer choice
  /-- A check has a file, in the phase for it. -/
  checkable : c = .submit → p.phase = .idle ∧ p.selected.isSome = true

variable {p : Panel} {c : Command}

/-- A panel without a dialog and a command under way releases every command that is no answer, and
the check for a file to be checked. -/
theorem releases_of_isFree (hfree : p.isFree = true) (hanswer : ∀ choice, c ≠ .answer choice)
    (hcheckable : c = .submit → p.phase = .idle ∧ p.selected.isSome = true) : p.Releases c where
  modal hprompt := absurd (prompt_eq_none_of_isFree hfree) hprompt
  asked choice hc := absurd hc (hanswer choice)
  patient hbusy := absurd hbusy (by simp [busy_eq_false_of_isFree hfree])
  checkable := hcheckable

/-- Only a confirmation can be declined. -/
theorem eq_confirmImport_of_declineLabel {kind : PromptKind}
    (hdecline : kind.declineLabel.isSome = true) : kind = .confirmImport := by
  cases kind with
  | confirmImport => rfl
  | _ => cases hdecline

/-- The view of a lookup has a trimmed identifier. -/
theorem id_of_requested? {catalogue : Catalogue} {v : Lifecycle.View}
    (hview : p.requested? catalogue = some v) : v.id ≠ "" ∧ Text.trim v.id = v.id := by
  unfold requested? at hview
  dsimp only at hview
  split at hview
  · cases hview
  · rename_i hne
    obtain rfl := Option.some.inj hview
    refine ⟨fun hempty => hne ?_, Text.trim_trim p.form.id⟩
    exact String.isEmpty_iff.mpr hempty

/-- What the panel allows sends what it lets out. -/
theorem releases_of_allows {catalogue : Catalogue} {action : Action}
    (hallows : p.Allows (.act action)) (hc : (p.act catalogue action).2 = some c) :
    p.Releases c := by
  cases action with
  | chooseFile path => exact hallows.elim
  | submit =>
    obtain rfl := Option.some.inj hc
    simp only [Allows, canSubmit, Bool.and_eq_true, beq_iff_eq] at hallows
    exact releases_of_isFree hallows.2 (by simp) fun _ => hallows.1
  | answer choice =>
    obtain rfl := Option.some.inj hc
    obtain ⟨dialog, hprompt, hchoice⟩ := hallows
    refine ⟨fun _ => .inl ⟨choice, rfl⟩, fun choice' heq => ⟨dialog, hprompt, fun hdecline => ?_⟩,
      fun _ => ⟨choice, rfl⟩, by simp⟩
    obtain rfl := Command.answer.inj heq
    obtain haccept | hlabel := hchoice
    · exact absurd (haccept.symm.trans hdecline) Choice.noConfusion
    · exact eq_confirmImport_of_declineLabel hlabel
  | delete | reload =>
    obtain rfl := Option.some.inj hc
    exact releases_of_isFree hallows (by simp) (by simp)
  | openLifecycle =>
    simp only [Allows, canLookUp, Bool.and_eq_true, Bool.not_eq_true'] at hallows
    unfold act at hc
    dsimp only at hc
    split at hc
    · cases hc
    · obtain rfl := Option.some.inj hc
      have hidle : ¬ p.busy = true := Bool.eq_false_iff.mp hallows.1
      exact ⟨fun _ => .inr ⟨_, _, rfl⟩, by simp, fun hbusy => absurd hbusy hidle, by simp⟩

/-- A lookup is for the view that is opened with it. -/
theorem view_of_fetch {catalogue : Catalogue} {action : Action} {kind : Lifecycle.Kind}
    {id : String} (hc : (p.act catalogue action).2 = some (.fetch kind id)) :
    ∃ v, (p.act catalogue action).1.view = some v ∧ v.kind = kind ∧ v.id = id ∧
      id ≠ "" ∧ Text.trim id = id := by
  cases action with
  | openLifecycle =>
    cases hview : p.requested? catalogue with
    | none =>
      simp only [act, hview] at hc
      cases hc
    | some v =>
      simp only [act, hview, Option.some_inj] at hc ⊢
      obtain ⟨rfl, rfl⟩ := Command.fetch.inj hc
      exact ⟨v, rfl, rfl, rfl, id_of_requested? hview⟩
  | _ => cases hc

end Panel

namespace Session

variable {s : Session}

/-- An action sends its command while there is a worker. -/
theorem commands_act (hworker : s.worker ≠ .gone) (action : Action) :
    (s.act action).commands = s.commands ++ (s.panel.act s.catalogue action).2.toList := by
  cases haction : s.panel.act s.catalogue action with
  | mk panel command =>
    cases command with
    | none => rw [act_eq_of_none haction, Option.toList_none, List.append_nil]
    | some c =>
      rw [act_eq_of_some hworker haction]
      rfl

/-- Without a worker no action sends a command. -/
theorem commands_act_of_gone (hworker : s.worker = .gone) (action : Action) :
    (s.act action).commands = s.commands := by
  unfold act send
  dsimp only
  split
  · rfl
  · rw [hworker]

/-- An action opens the view that the panel opens for it. -/
theorem view_act (s : Session) (action : Action) :
    (s.act action).panel.view = (s.panel.act s.catalogue action).1.view := by
  unfold act send
  dsimp only
  split
  · rfl
  · split <;> rfl

end Session

/-! ## Touching the screen -/

namespace Screen

/-- What the operator does at a screen. -/
inductive Touch (s : Screen) where
  /-- A click on a text of the page. If it opens the dialog for a file, one may be chosen. -/
  | click (w : Widget) (shown : w ∈ s.widgets) (chosen : Option String)
  | type (text : String)

variable {s : Screen}

/-- The text that is clicked. -/
def Touch.widget? : s.Touch → Option Widget
  | .click w _ _ => some w
  | .type _ => none

/-- What a click asks for. -/
def Touch.action? : s.Touch → Option Action
  | .click w _ chosen =>
    match w.press with
    | some (.act action) => some action
    | some .browse => chosen.map .chooseFile
    | _ => none
  | .type _ => none

/-- The command that belongs to it. -/
def Touch.command? (t : s.Touch) : Option Command :=
  t.action?.bind fun action => (s.session.panel.act s.session.catalogue action).2

/-- The screen after a click, with the file that was chosen, or after typing. -/
def touch (s : Screen) : s.Touch → Screen
  | .click w _ chosen =>
    let clicked := s.press w.press
    match w.press, chosen with
    | some .browse, some path => { clicked with session := clicked.session.act (.chooseFile path) }
    | _, _ => clicked
  | .type text => s.type text

/-- An action comes from a button that has it, or from the button that opens the dialog for a
file. -/
theorem Touch.action?_cases {t : s.Touch} {action : Action} (ht : t.action? = some action) :
    ∃ w ∈ s.widgets, t.widget? = some w ∧
      (w.press = some (.act action) ∨
        w.press = some .browse ∧ ∃ path, action = .chooseFile path) := by
  cases t with
  | type text => cases ht
  | click w shown chosen =>
    refine ⟨w, shown, rfl, ?_⟩
    unfold action? at ht
    dsimp only at ht
    split at ht
    · rename_i hpress
      obtain rfl := Option.some.inj ht
      exact .inl hpress
    · rename_i hpress
      obtain ⟨path, -, rfl⟩ := Option.map_eq_some_iff.mp ht
      exact .inr ⟨hpress, path, rfl⟩
    · cases ht

/-- A touch that comes to an action is this action of the session. -/
theorem session_touch_of_action {t : s.Touch} {action : Action} (ht : t.action? = some action) :
    (s.touch t).session = s.session.act action := by
  cases t with
  | type text => cases ht
  | click w shown chosen =>
    unfold Touch.action? at ht
    dsimp only at ht
    split at ht
    · rename_i hpress
      obtain rfl := Option.some.inj ht
      simp only [touch, hpress]
      rfl
    · rename_i hpress
      obtain ⟨path, rfl, rfl⟩ := Option.map_eq_some_iff.mp ht
      simp only [touch, hpress]
      rfl
    · cases ht

/-- A touch that comes to no action sends no command. -/
theorem commands_touch_of_none {t : s.Touch} (ht : t.action? = none) :
    (s.touch t).session.commands = s.session.commands := by
  cases t with
  | type text =>
    simp only [touch, type]
    split
    · rfl
    · split <;> rfl
  | click w shown chosen =>
    unfold Touch.action? at ht
    dsimp only at ht
    cases hpress : w.press with
    | none => simp only [touch, hpress]; rfl
    | some x =>
      rw [hpress] at ht
      cases x with
      | act action => cases ht
      | browse =>
        obtain rfl := Option.map_eq_none_iff.mp ht
        simp only [touch, hpress]
        rfl
      | _ => simp only [touch, hpress]; rfl

/-- What a click sends is something that the panel lets out. -/
theorem Touch.releases {t : s.Touch} {c : Command} (ht : t.command? = some c) :
    s.session.panel.Releases c := by
  obtain ⟨action, haction, hc⟩ := Option.bind_eq_some_iff.mp ht
  obtain ⟨w, hw, -, hpress | ⟨hbrowse, path, rfl⟩⟩ := Touch.action?_cases haction
  · exact Panel.releases_of_allows (Panel.allows_of_mem_widgets hw hpress) hc
  · obtain rfl := Option.some.inj hc
    exact Panel.releases_of_isFree (Panel.allows_of_mem_widgets hw hbrowse) nofun nofun

/-- An answer is sent by a button of the open dialog. -/
theorem Touch.exists_promptWidget {t : s.Touch} {choice : Choice}
    (ht : t.command? = some (.answer choice)) :
    ∃ w ∈ s.session.panel.promptWidgets, t.widget? = some w ∧
      w.press = some (.act (.answer choice)) := by
  obtain ⟨action, haction, hc⟩ := Option.bind_eq_some_iff.mp ht
  have hanswer : action = .answer choice := by
    cases action with
    | answer choice' => exact congrArg _ (Command.answer.inj (Option.some.inj hc))
    | openLifecycle =>
      cases hview : s.session.panel.requested? s.session.catalogue <;>
        simp [Panel.act, hview] at hc
    | _ => cases hc
  subst hanswer
  obtain ⟨w, hw, hwidget, hpress | ⟨-, path, hpath⟩⟩ := Touch.action?_cases haction
  · exact ⟨w, Panel.mem_promptWidgets_of_answer hw hpress, hwidget, hpress⟩
  · cases hpath

/-- **Dialogs are modal, and a busy worker is left alone.** Whatever a screen shows, a click on
any of its texts sends at most one command, its own, and typing sends none. While a dialog is
open, only the answers that it offers are sent, by its own buttons, and lookups; no answer is
sent without a dialog, and while the worker is busy nothing but an answer. A check is sent only
for a file in the phase for it. A lookup has a trimmed identifier that is not empty, and is for
the view that the click opens. -/
theorem touch_releases (s : Screen) (t : s.Touch) :
    (s.session.worker ≠ .gone →
      (s.touch t).session.commands = s.session.commands ++ t.command?.toList) ∧
    (s.session.worker = .gone → (s.touch t).session.commands = s.session.commands) ∧
    ∀ c, t.command? = some c →
      s.session.panel.Releases c ∧
      (∀ choice, c = .answer choice → ∃ w ∈ s.session.panel.promptWidgets,
        t.widget? = some w ∧ w.press = some (.act (.answer choice))) ∧
      ∀ kind id, c = .fetch kind id → id ≠ "" ∧ Text.trim id = id ∧
        ∃ v, (s.touch t).session.panel.view = some v ∧ v.kind = kind ∧ v.id = id := by
  refine ⟨fun hworker => ?_, fun hworker => ?_, fun c hc => ⟨Touch.releases hc, ?_, ?_⟩⟩
  · cases haction : t.action? with
    | none =>
      rw [commands_touch_of_none haction, Touch.command?, haction, Option.bind_none,
        Option.toList_none, List.append_nil]
    | some action =>
      rw [session_touch_of_action haction, Session.commands_act hworker, Touch.command?, haction,
        Option.bind_some]
  · cases haction : t.action? with
    | none => exact commands_touch_of_none haction
    | some action =>
      rw [session_touch_of_action haction, Session.commands_act_of_gone hworker]
  · rintro choice rfl
    exact Touch.exists_promptWidget hc
  · rintro kind id rfl
    obtain ⟨action, haction, hfetch⟩ := Option.bind_eq_some_iff.mp hc
    obtain ⟨v, hview, hkind, hid, hne, htrimmed⟩ := Panel.view_of_fetch hfetch
    rw [session_touch_of_action haction, Session.view_act]
    exact ⟨hne, htrimmed, v, hview, hkind, hid⟩

end Screen

end ArchiveDesk
