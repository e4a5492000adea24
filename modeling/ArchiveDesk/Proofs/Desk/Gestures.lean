import ArchiveDesk.Desk.Course
import ArchiveDesk.Proofs.Desk.Presses
import ArchiveDesk.Proofs.Desk.Session

/-!
# What a gesture does to a session

No gesture changes what the panel shows of the upload, its phase and its file: these
follow the worker alone. A gesture that the page offers either changes the panel and
nothing else, or it sends one command, and then the panel grants this command. Whatever
a gesture sends, it looks a lifecycle up exactly if it opens the view of it.
-/

namespace ArchiveDesk

namespace Command

/-- What a command is sent on: an answer on an open dialog, a lookup at any time, and
all else only while no dialog is open. -/
def Suits : Command → Option PromptKind → Prop
  | .answer _, dialog => dialog.isSome = true
  | .fetch _ _, _ => True
  | .selectFile _, dialog | .submit, dialog | .delete, dialog | .reload, dialog => dialog = none

/-- The dialog that the panel shows once a command is sent. -/
def leaves : Command → Option PromptKind → Option PromptKind
  | .answer _, _ => none
  | _, dialog => dialog

end Command

namespace Panel

/-- Two panels show the same phase and the same file. -/
structure SameUpload (p q : Panel) : Prop where
  phase : p.phase = q.phase
  selected : p.selected = q.selected

/-- Showing the same of the upload is transitive. -/
theorem SameUpload.trans {p q r : Panel} (h : p.SameUpload q) (h' : q.SameUpload r) :
    p.SameUpload r :=
  ⟨h.phase.trans h'.phase, h.selected.trans h'.selected⟩

/-- The panel has a reason for a command: it suits the dialog, and a check has a file
in the phase for it. -/
structure Grants (p : Panel) (c : Command) : Prop where
  suits : c.Suits p.prompt
  checkable : c = .submit → p.phase = .idle ∧ p.selected.isSome = true

/-- Only a check needs more than that it suits the dialog. -/
theorem Grants.of_suits {p : Panel} {c : Command} (hsuits : c.Suits p.prompt)
    (hc : c ≠ .submit) : p.Grants c :=
  ⟨hsuits, fun h => absurd h hc⟩

/-- An action changes nothing of what the panel shows of the upload. -/
theorem act_sameUpload (p : Panel) (c : Catalogue) (action : Action) :
    (p.act c action).1.SameUpload p := by
  cases action with
  | openLifecycle =>
    simp only [act]
    split <;> exact ⟨rfl, rfl⟩
  | _ => exact ⟨rfl, rfl⟩

end Panel

namespace Session

variable {s : Session}

/-- What the panel shows of the upload is the same in both sessions, and so is the worker. -/
structure Spares (s t : Session) : Prop where
  upload : t.panel.SameUpload s.panel
  worker : t.worker = s.worker

/-- An action spares what the panel shows of the upload, and the worker. -/
theorem spares_act (s : Session) (action : Action) : s.Spares (s.act action) := by
  have hsame := s.panel.act_sameUpload s.catalogue action
  unfold act send
  dsimp only
  split
  · exact ⟨hsame, rfl⟩
  · split
    · exact ⟨⟨hsame.phase, hsame.selected⟩, rfl⟩
    · exact ⟨hsame, rfl⟩

/-- A gesture, offered or not, spares the upload and the worker. -/
theorem spares_receive (s : Session) (g : Gesture) : s.Spares (s.receive g) := by
  cases g with
  | press press =>
    cases press with
    | act action => exact s.spares_act action
    | _ => exact ⟨⟨rfl, rfl⟩, rfl⟩
  | choose path => exact s.spares_act (.chooseFile path)
  | fill form => exact ⟨⟨rfl, rfl⟩, rfl⟩

/-- What a gesture that is offered does to a session with a worker. -/
inductive Operated (s : Session) : Session → Prop where
  /-- The panel changes in itself. -/
  | touched (panel : Panel) (hupload : panel.SameUpload s.panel)
      (hbusy : panel.busy = s.panel.busy) (hprompt : panel.prompt = s.panel.prompt) :
      Operated s { s with panel }
  /-- A command is sent. -/
  | sent (panel : Panel) (c : Command) (hgrants : s.panel.Grants c)
      (hupload : panel.SameUpload s.panel) (hbusy : panel.busy = s.panel.busy)
      (hprompt : panel.prompt = c.leaves s.panel.prompt) :
      Operated s { s with panel, commands := s.commands ++ [c] }

/-- Choosing a file is offered together with the upload's other buttons. -/
theorem operated_choose (hworker : s.worker ≠ .gone) (hallows : s.panel.Allows .browse)
    (path : String) : s.Operated (s.act (.chooseFile path)) := by
  rw [act_eq_of_some hworker rfl]
  exact .sent _ _ (.of_suits (Panel.prompt_eq_none_of_isFree hallows) (by simp))
    ⟨rfl, rfl⟩ rfl rfl

/-- An action that is offered sends a command that the panel grants. Only a lookup
without an identifier sends none. -/
theorem operated_act (hworker : s.worker ≠ .gone) {action : Action}
    (hallows : s.panel.Allows (.act action)) : s.Operated (s.act action) := by
  cases action with
  | chooseFile path => exact hallows.elim
  | submit =>
    simp only [Panel.Allows, Panel.canSubmit, Bool.and_eq_true, beq_iff_eq] at hallows
    obtain ⟨⟨hphase, hselected⟩, hfree⟩ := hallows
    rw [act_eq_of_some hworker rfl]
    exact .sent _ _ ⟨Panel.prompt_eq_none_of_isFree hfree, fun _ => ⟨hphase, hselected⟩⟩
      ⟨rfl, rfl⟩ rfl rfl
  | answer choice =>
    obtain ⟨kind, hprompt, -⟩ := hallows
    rw [act_eq_of_some hworker rfl]
    exact .sent _ _ (.of_suits (by simp [Command.Suits, hprompt]) (by simp)) ⟨rfl, rfl⟩ rfl rfl
  | delete | reload =>
    rw [act_eq_of_some hworker rfl]
    exact .sent _ _ (.of_suits (Panel.prompt_eq_none_of_isFree hallows) (by simp))
      ⟨rfl, rfl⟩ rfl rfl
  | openLifecycle =>
    cases hview : s.panel.requested? s.catalogue with
    | none =>
      rw [openLifecycle_of_none hview]
      exact .touched s.panel ⟨rfl, rfl⟩ rfl rfl
    | some view =>
      rw [openLifecycle_of_some hworker hview]
      exact .sent _ _ (.of_suits trivial (by simp)) ⟨rfl, rfl⟩ rfl rfl

/-- **A gesture that is offered sends at most one command, which the panel grants.** -/
theorem operated_receive (hworker : s.worker ≠ .gone) {g : Gesture}
    (hoffers : s.panel.OffersGesture g) : s.Operated (s.receive g) := by
  cases g with
  | press press =>
    have hallows := Panel.allows_of_mem_presses hoffers
    cases press with
    | act action => exact operated_act hworker hallows
    | _ => exact .touched _ ⟨rfl, rfl⟩ rfl rfl
  | choose path => exact operated_choose hworker (Panel.allows_of_mem_presses hoffers) path
  | fill form => exact .touched _ ⟨rfl, rfl⟩ rfl rfl

end Session

/-! ## Gestures and the open view -/

/-- What a command looks up. -/
def Command.lookup? : Command → Option (Lifecycle.Kind × String)
  | .fetch kind id => some (kind, id)
  | _ => none

namespace Lifecycle.View

/-- What the view is open for. -/
def subject (v : View) : Kind × String := (v.kind, v.id)

/-- Switching a column changes neither what a view is open for nor its result. -/
theorem toggle_subject (v : View) (id : String) :
    (v.toggle id).subject = v.subject ∧ (v.toggle id).result = v.result := by
  unfold toggle
  split
  · exact ⟨rfl, rfl⟩
  · split <;> exact ⟨rfl, rfl⟩

/-- Turning pages changes neither what a view is open for nor its result. -/
theorem turn_subject (v : View) (t : Turn) :
    (v.turn t).subject = v.subject ∧ (v.turn t).result = v.result := by
  cases t with
  | size n =>
    by_cases hsize : n = v.pager.size
    · simp [turn, hsize]
    · simp [turn, hsize, setPageSize, subject]
  | previous | number | next =>
    unfold turn
    dsimp only
    cases v.destination? _ <;> exact ⟨rfl, rfl⟩

end Lifecycle.View

namespace Panel

/-- What the open view is open for. -/
def subject? (p : Panel) : Option (Lifecycle.Kind × String) := p.view.map (·.subject)

/-- The result in the open view. -/
def result? (p : Panel) : Option Lifecycle.Result := p.view.bind (·.result)

/-- Two panels have a view of the same open, with the same result. -/
structure SameLookup (p q : Panel) : Prop where
  subject : p.subject? = q.subject?
  result : p.result? = q.result?

/-- A panel has the same view open as itself. -/
theorem SameLookup.rfl {p : Panel} : p.SameLookup p := ⟨Eq.refl _, Eq.refl _⟩

/-- The view may change in what is not its subject and not its result. -/
theorem sameLookup_map_view (p : Panel) {f : Lifecycle.View → Lifecycle.View}
    (hf : ∀ v, (f v).subject = v.subject ∧ (f v).result = v.result) :
    SameLookup { p with view := p.view.map f } p := by
  obtain ⟨hsubject, hresult⟩ := forall_and.mp hf
  have hsubjects : (fun v => (f v).subject) = Lifecycle.View.subject := funext hsubject
  have hresults : (fun v => (f v).result) = Lifecycle.View.result := funext hresult
  constructor
  · change (p.view.map f).map (·.subject) = p.view.map (·.subject)
    rw [Option.map_map]
    exact congrArg p.view.map hsubjects
  · change (p.view.map f).bind (·.result) = p.view.bind (·.result)
    rw [Option.bind_map]
    exact congrArg p.view.bind hresults

/-- What a gesture does to the open view, and the commands that it sends. -/
inductive Asks (p : Panel) : Panel → List Command → Prop where
  /-- Nothing is looked up. -/
  | other {q : Panel} {commands : List Command} (hlookup : q.SameLookup p)
      (hcommands : commands.filterMap Command.lookup? = []) : Asks p q commands
  /-- A view is opened, and its lifecycle looked up. -/
  | opened (view : Lifecycle.View) (hresult : view.result = none) :
      Asks p { p with view := some view } [.fetch view.kind view.id]

end Panel

namespace Session

variable {s : Session}

/-- A view that is requested has no result yet. -/
theorem result_of_requested? {p : Panel} {c : Catalogue} {view : Lifecycle.View}
    (hview : p.requested? c = some view) : view.result = none := by
  simp only [Panel.requested?] at hview
  split at hview
  · cases hview
  · obtain rfl := Option.some.inj hview
    rfl

/-- An action sends the commands that it asks for. -/
theorem act_asks (hworker : s.worker ≠ .gone) (action : Action) :
    ∃ panel commands, s.panel.Asks panel commands ∧
      s.act action = { s with panel, commands := s.commands ++ commands } := by
  cases action with
  | openLifecycle =>
    cases hview : s.panel.requested? s.catalogue with
    | none =>
      refine ⟨s.panel, [], .other .rfl rfl, ?_⟩
      rw [openLifecycle_of_none hview, List.append_nil]
    | some view =>
      exact ⟨_, _, .opened view (result_of_requested? hview), openLifecycle_of_some hworker hview⟩
  | _ =>
    refine ⟨_, _, ?_, act_eq_of_some hworker rfl⟩
    exact .other ⟨rfl, rfl⟩ rfl

/-- **A gesture, offered or not, looks a lifecycle up exactly if it opens its view.** -/
theorem receive_asks (hworker : s.worker ≠ .gone) (g : Gesture) :
    ∃ panel commands, s.panel.Asks panel commands ∧
      s.receive g = { s with panel, commands := s.commands ++ commands } := by
  have htouched {panel : Panel} (hlookup : panel.SameLookup s.panel) :
      ∃ panel' commands, s.panel.Asks panel' commands ∧
        { s with panel } = { s with panel := panel', commands := s.commands ++ commands } :=
    ⟨panel, [], .other hlookup rfl, by rw [List.append_nil]⟩
  cases g with
  | press press =>
    cases press with
    | act action => exact act_asks hworker action
    | column id => exact htouched (s.panel.sameLookup_map_view fun v => v.toggle_subject id)
    | turn t => exact htouched (s.panel.sameLookup_map_view fun v => v.turn_subject t)
    | kind | activity => exact htouched ⟨rfl, rfl⟩
    | browse | dropDown | field => exact htouched .rfl
  | choose path => exact act_asks hworker (.chooseFile path)
  | fill form => exact htouched ⟨rfl, rfl⟩

end Session

end ArchiveDesk
