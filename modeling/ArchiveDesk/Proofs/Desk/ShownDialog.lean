import ArchiveDesk.Proofs.Desk.Journal

/-!
# The dialog that is shown and the dialog that is open

The panel opens a dialog when it hears of it and closes it when the operator answers;
the workflow opens a dialog when it raises it and closes it while it carries out a
command. Neither tells the other that it has closed one. So when everything has
arrived and all commands are carried out, the panel can still show a dialog that the
workflow has closed: namely if the command that closed it was sent before the
operator saw it, and the operator has not answered it since.
-/

namespace ArchiveDesk

/-- The command is an answer. -/
def Issue.Answers (i : Issue) : Prop := ∃ choice, i.command = .answer choice

/-- The command closed the dialog of the workflow. -/
def Handling.Closes (h : Handling) : Prop :=
  h.workflow.pending ≠ none ∧ h.result.state.pending = none

deriving instance DecidableEq for WorkerState

namespace Journal

/-- All commands are carried out, and everything has arrived. -/
structure Settled (j : Journal) (w : Workflow) : Prop where
  commands : j.session.commands = []
  worker : j.session.worker = .ready w
  notices : j.session.notices = []
  updates : j.session.updates = []

/-- The last of these dialogs was answered in sight of it, if there is one. -/
def Answered (j : Journal) (seen : List PromptKind) : Prop :=
  seen = [] ∨ ∃ i ∈ j.issued, i.Answers ∧ i.heard = seen

/-- The last of these dialogs was closed by the workflow, if there is one. -/
def Closed (j : Journal) (raised : List PromptKind) : Prop :=
  raised = [] ∨ ∃ h ∈ j.handled, h.Closes ∧ h.raised = raised

/-- Both sides have no dialog exactly if the last one was answered or closed, now and
whenever a command was sent or carried out. -/
structure Accounted (j : Journal) : Prop where
  panel : j.session.panel.prompt = none ↔ j.Answered (dialogs j.heard)
  workflow : ∀ w, j.session.worker.workflow? = some w →
    (w.pending = none ↔ j.Closed (dialogs j.told))
  issued : ∀ i ∈ j.issued, i.dialog = none → j.Answered i.heard
  handled : ∀ h ∈ j.handled, h.workflow.pending = none → j.Closed h.raised

variable {j j' : Journal}

/-- Whether a dialog was answered depends only on the commands that were sent. -/
theorem answered_congr (hissued : j.issued = j'.issued) (seen : List PromptKind) :
    j.Answered seen ↔ j'.Answered seen := by
  rw [Answered, Answered, hissued]

/-- A command that is sent answers the last dialog that has arrived, if it is an answer. -/
theorem answered_sent (j : Journal) (session : Session) (i : Issue) (seen : List PromptKind) :
    Answered ⟨session, j.waiting ++ [i], j.handled, j.heard⟩ seen ↔
      j.Answered seen ∨ i.Answers ∧ i.heard = seen := by
  rw [Answered, Answered, issued_sent]
  simp only [List.mem_append, List.mem_singleton, or_and_right, exists_or, exists_eq_left,
    or_assoc]

/-- A command that is carried out closes the last dialog that was raised, if any. -/
theorem closed_handled (j : Journal) (session : Session) (waiting : List Issue) (h : Handling)
    (raised : List PromptKind) :
    Closed ⟨session, waiting, j.handled ++ [h], j.heard⟩ raised ↔
      j.Closed raised ∨ h.Closes ∧ h.raised = raised := by
  rw [Closed, Closed]
  simp only [List.mem_append, List.mem_singleton, or_and_right, exists_or, exists_eq_left,
    or_assoc]

/-- A dialog that has not arrived is not answered in sight of it. -/
private theorem Sound.not_answered (hj : j.Sound) {more : List PromptKind} (hmore : more ≠ []) :
    ¬ j.Answered (dialogs j.heard ++ more) := by
  rintro (hnil | ⟨i, hi, -, hseen⟩)
  · exact hmore (List.append_eq_nil_iff.mp hnil).2
  · have hle := (hj.issued i hi).arrived.length_le
    rw [hseen, List.length_append] at hle
    have hpos := List.length_pos_iff.mpr hmore
    omega

/-- A dialog that has not been raised is not closed. -/
private theorem Sound.not_closed (hj : j.Sound) {more : List PromptKind} (hmore : more ≠ []) :
    ¬ j.Closed (dialogs j.told ++ more) := by
  rintro (hnil | ⟨h, hh, -, hraised⟩)
  · exact hmore (List.append_eq_nil_iff.mp hnil).2
  · have hle := (hj.handled h hh).raised_le.length_le
    rw [hraised, List.length_append] at hle
    have hpos := List.length_pos_iff.mpr hmore
    omega

/-- Neither side has a dialog at first, and none was raised. -/
theorem accounted_start (c : Catalogue) : (start c).Accounted where
  panel := by simp [start, Session.start, Panel.initial, Answered]
  workflow := by
    rintro w hw
    obtain rfl : Workflow.initial = w := Option.some.inj hw
    simp [Workflow.initial, Closed, told, start, Session.start]
  issued := by simp [Journal.issued, start]
  handled := by simp [start]

private theorem Accounted.sent (hj : j.Accounted) {panel : Panel} {command : Command}
    (hprompt : panel.prompt = command.leaves j.session.panel.prompt) :
    Accounted { j with
      session := { j.session with panel, commands := j.session.commands ++ [command] }
      waiting := j.waiting ++ [j.issue command] } := by
  refine ⟨?_, hj.workflow, ?_, hj.handled⟩
  · rw [answered_sent]
    by_cases hanswer : ∃ choice, command = .answer choice
    · obtain ⟨choice, rfl⟩ := hanswer
      exact iff_of_true hprompt (.inr ⟨⟨choice, rfl⟩, rfl⟩)
    · have hleaves : panel.prompt = j.session.panel.prompt := by
        rw [hprompt]
        cases command <;> simp_all [Command.leaves]
      rw [hleaves, hj.panel]
      exact (or_iff_left fun hnew => hanswer hnew.1).symm
  · intro i hi hdialog
    rw [answered_sent]
    rw [issued_sent] at hi
    rcases List.mem_append.mp hi with hi | hi
    · exact .inl (hj.issued i hi hdialog)
    · obtain rfl := List.mem_singleton.mp hi
      exact .inl (hj.panel.mp hdialog)

/-- A command leaves the workflow without a dialog exactly if the last dialog is then
closed, by this command or by an earlier one. -/
private theorem pending_eq_none_iff (hj : j.Sound) {h : Handling} {op : Option Operation}
    {waiting : List Issue} {session : Session}
    (hclosed : h.workflow.pending = none ↔ j.Closed (dialogs j.told))
    (hraised : h.raised = dialogs j.told)
    (heffect : h.workflow.DialogEffect op h.result.progress) :
    h.result.state.pending = none ↔ Closed ⟨session, waiting, j.handled ++ [h], j.heard⟩
      (dialogs j.told ++ dialogs h.result.notices) := by
  rw [closed_handled]
  cases heffect with
  | raised kind hnotices hpending =>
    change dialogs h.result.notices = [kind] at hnotices
    refine iff_of_false (fun hnone => nomatch hpending.symm.trans hnone) ?_
    rw [hnotices, hraised]
    rintro (hold | ⟨-, hnew⟩)
    · exact hj.not_closed (List.cons_ne_nil _ _) hold
    · simp at hnew
  | closed hop hnotices hpending =>
    change dialogs h.result.notices = [] at hnotices
    refine iff_of_true hpending ?_
    rw [hnotices, List.append_nil]
    by_cases hnone : h.workflow.pending = none
    · exact .inl (hclosed.mp hnone)
    · exact .inr ⟨⟨hnone, hpending⟩, hraised⟩
  | kept hop hnotices hpending =>
    change dialogs h.result.notices = [] at hnotices
    change h.result.state.pending = h.workflow.pending at hpending
    rw [hnotices, List.append_nil, hpending, hclosed]
    exact (or_iff_left fun hnew => hnew.1.1 (hpending.symm.trans hnew.1.2)).symm

private theorem Accounted.carriedOut (hj : j.Accounted) (hsound : j.Sound)
    {around : Surroundings} {w : Workflow} {issue : Issue} {waiting : List Issue} {result : Handled}
    {updates : List Update} (hresult : result = Worker.handle around w issue.command)
    (hworker : j.session.worker = .ready w) (hwaiting : j.waiting = issue :: waiting) :
    Accounted { j with
      session := { j.session with
        worker := result.worker
        commands := waiting.map (·.command)
        notices := j.session.notices ++ result.notices
        updates }
      waiting
      handled := j.handled ++ [⟨issue, w, dialogs j.told, result⟩] } := by
  have hheld : j.session.worker.workflow? = some w := by
    rw [hworker]
    rfl
  have hcoherent := (hsound.workflow w hheld).1
  have hclosed := hj.workflow w hheld
  have hissued (session : Session) :
      j.issued = Journal.issued ⟨session, waiting,
        j.handled ++ [⟨issue, w, dialogs j.told, result⟩], j.heard⟩ :=
    (issued_handled (h := ⟨issue, w, dialogs j.told, result⟩) hwaiting _ _).symm
  refine ⟨?_, ?_, ?_, ?_⟩
  · exact hj.panel.trans (answered_congr (hissued _) _)
  · intro w' hw'
    obtain rfl : result.state = w' := Option.some.inj (result.workflow?_worker.symm.trans hw')
    change _ ↔ Closed _ (dialogs (j.heard ++ (j.session.notices ++ result.notices)))
    rw [dialogs_told_append]
    have heffect := Worker.handle_dialog around issue.command hcoherent
    rw [← hresult] at heffect
    exact pending_eq_none_iff hsound (h := ⟨issue, w, dialogs j.told, result⟩) hclosed rfl heffect
  · intro i hi hdialog
    rw [← hissued] at hi
    exact (answered_congr (hissued _) _).mp (hj.issued i hi hdialog)
  · intro h hh hnone
    refine (closed_handled j _ _ _ _).mpr (.inl ?_)
    rcases List.mem_append.mp hh with hh | hh
    · exact hj.handled h hh hnone
    · obtain rfl := List.mem_singleton.mp hh
      exact hclosed.mp hnone

private theorem Accounted.polled (hj : j.Accounted) (hsound : j.Sound) {panel : Panel}
    {updates : List Update}
    (hprompt : panel.prompt = (dialogs j.session.notices).getLast?.or j.session.panel.prompt) :
    Accounted { j with
      session := { j.session with panel, notices := [], updates }
      heard := j.told } := by
  have htold : told { j with
      session := { j.session with panel, notices := [], updates }, heard := j.told } = j.told :=
    List.append_nil _
  refine ⟨?_, ?_, hj.issued, hj.handled⟩
  · change panel.prompt = none ↔ j.Answered (dialogs j.told)
    rw [told, dialogs_append, hprompt]
    by_cases hnone : dialogs j.session.notices = []
    · rw [hnone, List.append_nil]
      exact hj.panel
    · exact iff_of_false (by simp [hnone]) (hsound.not_answered hnone)
  · intro w hw
    rw [htold]
    exact hj.workflow w hw

/-- In every journal, the dialogs that are gone on a side are accounted for. -/
theorem accounted_ofMoves (c : Catalogue) (moves : List Move) : (ofMoves c moves).Accounted := by
  refine ofMoves_induction c (accounted_start c) ?_ moves
  intro j j' hsound hchange hj
  cases hchange with
  | touched panel hprompt => exact { hj with panel := hprompt ▸ hj.panel }
  | issued panel command hsuits hprompt => exact hj.sent hprompt
  | handled result hresult hworker hwaiting => exact hj.carriedOut hsound hresult hworker hwaiting
  | polled panel hprompt => exact hj.polled hsound hprompt

/-! ## When both sides agree -/

/-- The last dialog that arrived was closed by a command that was sent before. -/
def ClosedUnseen (j : Journal) : Prop :=
  ∃ h ∈ j.handled, h.raised = dialogs j.told ∧ h.Closes ∧ h.Late

/-- A command that closes a dialog was an answer or was sent while none was shown. -/
private theorem answers_or_dialog_eq_none (hj : j.Sound) {h : Handling} (hh : h ∈ j.handled)
    (hcloses : h.Closes) : h.issue.Answers ∨ h.issue.dialog = none := by
  have hsuits := (hj.issue_handled hh).suits
  obtain ⟨around, hresult⟩ := (hj.handled h hh).result
  have heffect := Worker.handle_dialog around h.issue.command (hj.handled h hh).coherent
  rw [← hresult] at heffect
  cases heffect with
  | raised kind _ hpending => exact nomatch hpending.symm.trans hcloses.2
  | kept _ _ hpending => exact absurd (hpending.symm.trans hcloses.2) hcloses.1
  | closed hop =>
    cases hcommand : h.issue.command with
    | answer choice => exact .inl ⟨choice, hcommand⟩
    | fetch kind id => simp [hcommand, Command.operation?] at hop
    | _ =>
      rw [hcommand] at hsuits
      exact .inr hsuits

variable {w : Workflow}

/-- Once all is settled, the last dialog is the same on both sides. -/
private theorem Settled.told_eq_heard (hw : j.Settled w) : j.told = j.heard := by
  rw [told, hw.notices, List.append_nil]

/-- Two sides that have a dialog have the same one. -/
private theorem prompt_eq_iff (hj : j.Sound) (hw : j.Settled w) :
    j.session.panel.prompt = w.pending ↔
      (j.session.panel.prompt = none ↔ w.pending = none) := by
  obtain ⟨-, hlast⟩ := hj.workflow w (by rw [hw.worker]; rfl)
  refine ⟨fun h => by rw [h], fun hnone => ?_⟩
  cases hprompt : j.session.panel.prompt with
  | none => exact (hnone.mp hprompt).symm
  | some shown =>
    cases hpending : w.pending with
    | none => exact absurd (hnone.mpr hpending) (by simp [hprompt])
    | some kind =>
      have hkind := hlast kind hpending
      rwa [hw.told_eq_heard, hj.panel shown hprompt] at hkind

/-- A dialog that the operator has answered is closed in the workflow. -/
private theorem closed_of_answered (hj : j.Sound) (haccounted : j.Accounted) (hw : j.Settled w)
    (hanswered : j.Answered (dialogs j.told)) : j.Closed (dialogs j.told) := by
  rcases hanswered with hnil | ⟨i, hi, ⟨choice, hanswer⟩, hseen⟩
  · exact .inl hnil
  -- No command is left, so the answer has been carried out.
  have hwaiting : j.waiting = [] := by
    have hcommands := hj.commands
    rw [hw.commands] at hcommands
    exact List.map_eq_nil_iff.mp hcommands.symm
  rw [Journal.issued, hwaiting, List.append_nil] at hi
  obtain ⟨h, hh, rfl⟩ := List.mem_map.mp hi
  have hsound := hj.handled h hh
  have hraised : h.raised = dialogs j.told :=
    hsound.raised_le.eq_of_length_le (hseen ▸ hsound.arrived.length_le)
  by_cases hnone : h.workflow.pending = none
  · exact hraised ▸ haccounted.handled h hh hnone
  · obtain ⟨around, hresult⟩ := hsound.result
    have heffect := Worker.handle_dialog around h.issue.command hsound.coherent
    rw [← hresult] at heffect
    cases heffect with
    | raised kind hnotices =>
      have hlength := hsound.raised.length_le
      change dialogs h.result.notices = [kind] at hnotices
      rw [hraised, hnotices, List.length_append, List.length_singleton] at hlength
      omega
    | closed _ _ hpending => exact .inr ⟨h, hh, ⟨hnone, hpending⟩, hraised⟩
    | kept hop => exact absurd (hop choice (by rw [hanswer]; rfl)) hnone

/-- Once all is settled, a dialog that is open in the workflow is shown. -/
theorem prompt_eq_of_pending (c : Catalogue) (moves : List Move) {kind : PromptKind}
    (hsettled : (ofMoves c moves).Settled w) (hpending : w.pending = some kind) :
    (ofMoves c moves).session.panel.prompt = some kind := by
  have hsound := sound_ofMoves c moves
  have haccounted := accounted_ofMoves c moves
  have hnone : (ofMoves c moves).session.panel.prompt ≠ none := by
    intro hprompt
    have hanswered := haccounted.panel.mp hprompt
    rw [← hsettled.told_eq_heard] at hanswered
    have hclosed := closed_of_answered hsound haccounted hsettled hanswered
    have hworker := haccounted.workflow w (by rw [hsettled.worker]; rfl)
    exact absurd (hworker.mpr hclosed) (by simp [hpending])
  rw [← hpending, prompt_eq_iff hsound hsettled]
  exact iff_of_false hnone (by simp [hpending])

/-- A dialog that the workflow has closed was answered, or it was closed unseen. -/
private theorem answered_or_closedUnseen (hj : j.Sound) (haccounted : j.Accounted)
    (hclosed : j.Closed (dialogs j.told)) : j.Answered (dialogs j.told) ∨ j.ClosedUnseen := by
  rcases hclosed with hnil | ⟨h, hh, hcloses, hraised⟩
  · exact .inl (.inl hnil)
  · by_cases hlate : h.Late
    · exact .inr ⟨h, hh, hraised, hcloses, hlate⟩
    · have hseen : h.issue.heard = dialogs j.told := (not_not.mp hlate).trans hraised
      have hissued := mem_issued_of_handled hh
      rcases answers_or_dialog_eq_none hj hh hcloses with hanswers | hdialog
      · exact .inl (.inr ⟨h.issue, hissued, hanswers, hseen⟩)
      · exact .inl (hseen ▸ haccounted.issued h.issue hissued hdialog)

/-- **The dialog shown is the dialog pending**, once the worker is idle and everything
has arrived, if and only if the last dialog was answered in sight of it or was not
closed by a command that had been sent before it arrived. -/
theorem prompt_eq_pending_iff (c : Catalogue) (moves : List Move) (w : Workflow)
    (hsettled : (ofMoves c moves).Settled w) :
    (ofMoves c moves).session.panel.prompt = w.pending ↔
      (ofMoves c moves).Answered (dialogs (ofMoves c moves).told) ∨
        ¬ (ofMoves c moves).ClosedUnseen := by
  have hsound := sound_ofMoves c moves
  have haccounted := accounted_ofMoves c moves
  generalize ofMoves c moves = j at hsettled hsound haccounted ⊢
  have hpanel := haccounted.panel
  rw [← hsettled.told_eq_heard] at hpanel
  have hworker := haccounted.workflow w (by rw [hsettled.worker]; rfl)
  rw [prompt_eq_iff hsound hsettled, hpanel, hworker]
  constructor
  · intro hagree
    by_contra hneither
    obtain ⟨hunanswered, hunseen⟩ := not_or.mp hneither
    obtain ⟨h, hh, hraised, hcloses, -⟩ := not_not.mp hunseen
    exact hunanswered (hagree.mpr (.inr ⟨h, hh, hcloses, hraised⟩))
  · intro hcondition
    refine ⟨closed_of_answered hsound haccounted hsettled, fun hclosed => ?_⟩
    rcases answered_or_closedUnseen hsound haccounted hclosed with hanswered | hunseen
    · exact hanswered
    · exact hcondition.resolve_right (not_not.mpr hunseen)

/-- A file is chosen and checked, and every command waits for the answer to the last. -/
def patientMoves : List Move :=
  [.choose "a", .work .willing, .poll, .press (.act .submit), .work .willing, .poll]

/-- The workflow when its file has passed the check. -/
def patientWorkflow : Workflow :=
  ⟨.awaitingConfirmation, some ⟨"a", .empty, .check, .queued⟩, some .confirmImport, false⟩

/-- After the check the confirmation is open on both sides. -/
theorem prompt_eq_pending_patientMoves :
    (ofMoves .bare patientMoves).Settled patientWorkflow ∧
      ((ofMoves .bare patientMoves).session.panel.prompt = patientWorkflow.pending ↔
        (ofMoves .bare patientMoves).Answered (dialogs (ofMoves .bare patientMoves).told) ∨
          ¬ (ofMoves .bare patientMoves).ClosedUnseen) := by
  have hsettled : (ofMoves .bare patientMoves).Settled patientWorkflow := by
    constructor <;> decide +kernel
  exact ⟨hsettled, prompt_eq_pending_iff .bare patientMoves patientWorkflow hsettled⟩

/-- A file is checked and the view reloaded before the panel hears of the check. -/
def impatientMoves : List Move :=
  [.choose "a", .work .willing, .poll, .press (.act .submit), .press (.act .reload),
    .work .willing, .work .willing, .poll]

/-- The panel can be left with a dialog that the workflow has closed. -/
theorem exists_prompt_ne_pending :
    ¬ ∀ (c : Catalogue) (moves : List Move) (w : Workflow), (ofMoves c moves).Settled w →
      (ofMoves c moves).session.panel.prompt = w.pending := by
  intro hagree
  have hsettled : (ofMoves .bare impatientMoves).Settled .initial := by
    constructor <;> decide +kernel
  have hshown : (ofMoves .bare impatientMoves).session.panel.prompt = some .confirmImport := by
    decide +kernel
  have hprompt := hagree .bare impatientMoves .initial hsettled
  rw [hshown] at hprompt
  cases hprompt

end Journal

end ArchiveDesk
