import ArchiveDesk.Proofs.Desk.Dialogs
import ArchiveDesk.Proofs.Desk.Gestures
import Mathlib.Data.List.Induction

/-!
# Journals of sessions

A move changes a journal in one of four ways: the panel changes and its dialog stays,
a command is sent, the worker carries a command out, or a poll delivers the notices.
Everything about journals is proved from these four. The first invariant says what
every journal is made of: the dialog of the workflow is the last one that was raised,
the dialog of the panel the last one that has arrived, and the dialogs that an
operator has seen are always the first ones of those that were raised.
-/

namespace ArchiveDesk

/-! ## The changes of a journal -/

namespace Journal

/-- What a move can do to a journal. -/
inductive Change (j : Journal) : Journal → Prop where
  /-- The panel changes, and its dialog stays. -/
  | touched (panel : Panel) (hprompt : panel.prompt = j.session.panel.prompt) :
      Change j { j with session := { j.session with panel } }
  /-- A command is sent. -/
  | issued (panel : Panel) (command : Command) (hsuits : command.Suits j.session.panel.prompt)
      (hprompt : panel.prompt = command.leaves j.session.panel.prompt) :
      Change j { j with
        session := { j.session with panel, commands := j.session.commands ++ [command] }
        waiting := j.waiting ++ [j.issue command] }
  /-- The worker carries a command out. -/
  | handled {around : Surroundings} {w : Workflow} {issue : Issue} {waiting : List Issue}
      (result : Handled) (hresult : result = Worker.handle around w issue.command)
      (hworker : j.session.worker = .ready w) (hwaiting : j.waiting = issue :: waiting) :
      Change j { j with
        session := { j.session with
          worker := result.worker
          commands := waiting.map (·.command)
          notices := j.session.notices ++ result.notices
          updates := j.session.updates ++ result.updates }
        waiting
        handled := j.handled ++ [⟨issue, w, dialogs j.told, result⟩] }
  /-- What is on its way arrives. -/
  | polled (panel : Panel)
      (hprompt : panel.prompt = (dialogs j.session.notices).getLast?.or j.session.panel.prompt) :
      Change j { j with
        session := { j.session with panel, notices := [], updates := [] }
        heard := j.told }

variable {j : Journal}

/-- A journal follows the session and does not take part in it. -/
theorem session_next (j : Journal) (m : Move) : (j.next m).session = j.session.next m := by
  unfold next Session.next
  split
  · cases m with
    | work around =>
      change (j.work around).session = j.session.move (.work around)
      unfold work
      split <;> rfl
    | _ => rfl
  · rfl

/-- A poll is one of the changes. -/
theorem poll_change : Change j j.poll := by
  refine .polled _ ?_
  rw [Panel.prompt_foldl_accept]
  exact Panel.prompt_foldl_hear _ _

/-- The worker takes a command or does nothing. -/
theorem work_change (hcommands : j.session.commands = j.waiting.map (·.command))
    (around : Surroundings) : Change j (j.work around) := by
  unfold work
  split
  · rename_i w issue waiting hworker hwaiting
    have hnext : j.session.commands = issue.command :: waiting.map (·.command) := by
      rw [hcommands, hwaiting]
      rfl
    rw [Session.move, Session.work_ready around hworker hnext]
    exact .handled _ rfl hworker hwaiting
  · rename_i hidle
    have hsession : j.session.work around = j.session := by
      cases hwaiting : j.waiting with
      | nil => exact Session.work_of_commands_eq_nil around (by rw [hcommands, hwaiting]; rfl)
      | cons issue waiting =>
        refine Session.work_of_not_ready around ?_
        intro w hworker
        exact hidle w issue waiting hworker hwaiting
    rw [Session.move, hsession]
    exact .touched _ rfl

/-- A turn of the operator writes down the command that it sends, if there is one. -/
private theorem operate_operated {m : Move} (hmove : j.session.Operated (j.session.move m)) :
    Change j (j.operate m) := by
  unfold operate
  generalize j.session.move m = session at hmove ⊢
  cases hmove with
  | touched panel _ _ hprompt =>
    have hchange := Change.touched panel hprompt
    simpa using hchange
  | sent panel command hgrants _ _ hprompt =>
    have hchange := Change.issued panel command hgrants.suits hprompt
    simpa using hchange

/-- A move of the operator that is offered sends at most one command. -/
theorem operate_change (hworker : j.session.worker ≠ .gone) {m : Move}
    (hoffers : j.session.Offers m) (hm : ∀ around, m ≠ .work around) (hpoll : m ≠ .poll) :
    Change j (j.operate m) := by
  cases m with
  | press x =>
    have hallows := Panel.allows_of_mem_presses hoffers
    cases x with
    | act action => exact operate_operated (Session.operated_act hworker hallows)
    | _ => exact operate_operated (.touched _ ⟨rfl, rfl⟩ rfl rfl)
  | choose path =>
    have hallows := Panel.allows_of_mem_presses hoffers
    exact operate_operated (Session.operated_choose hworker hallows path)
  | type field text => exact operate_operated (.touched _ ⟨rfl, rfl⟩ rfl rfl)
  | work around => exact absurd rfl (hm around)
  | poll => exact absurd rfl hpoll

/-- Every move changes a journal in one of the four ways, unless there is no worker. -/
theorem next_change (hworker : j.session.worker ≠ .gone)
    (hcommands : j.session.commands = j.waiting.map (·.command)) (m : Move) :
    Change j (j.next m) := by
  unfold next
  split
  · rename_i hoffers
    split
    · exact work_change hcommands _
    · exact poll_change
    · exact operate_change hworker hoffers nofun nofun
    · exact operate_change hworker hoffers nofun nofun
    · exact operate_change hworker hoffers nofun nofun
  · exact .touched _ rfl

end Journal

/-! ## What every journal is made of -/

/-- A command was sent in sight of the dialogs that had arrived by then. -/
structure Issue.Sound (i : Issue) (heard : List PromptKind) : Prop where
  arrived : i.heard <+: heard
  shown : ∀ kind, i.dialog = some kind → i.heard.getLast? = some kind
  suits : i.command.Suits i.dialog

/-- A command was carried out after the dialogs that had been raised by then. -/
structure Handling.Sound (h : Handling) (told : List PromptKind) : Prop where
  arrived : h.issue.heard <+: h.raised
  raised : h.raised ++ dialogs h.result.notices <+: told
  coherent : h.workflow.Coherent
  pending : ∀ kind, h.workflow.pending = some kind → h.raised.getLast? = some kind
  result : ∃ around, h.result = Worker.handle around h.workflow h.issue.command

/-- The worker had raised a dialog that the operator had not seen. -/
def Handling.Late (h : Handling) : Prop := h.issue.heard ≠ h.raised

/-- What had arrived when a command was sent has still arrived later. -/
theorem Issue.Sound.mono {i : Issue} {heard later : List PromptKind} (hi : i.Sound heard)
    (hlater : heard <+: later) : i.Sound later :=
  { hi with arrived := hi.arrived.trans hlater }

/-- What had been raised when a command was carried out has still been raised later. -/
theorem Handling.Sound.mono {h : Handling} {told later : List PromptKind} (hh : h.Sound told)
    (hlater : told <+: later) : h.Sound later :=
  { hh with raised := hh.raised.trans hlater }

/-- The dialogs that had been raised before a command are the first of all. -/
theorem Handling.Sound.raised_le {h : Handling} {told : List PromptKind} (hh : h.Sound told) :
    h.raised <+: told :=
  (List.prefix_append _ _).trans hh.raised

namespace Journal

/-- Every command that was sent, oldest first. -/
def issued (j : Journal) : List Issue := j.handled.map (·.issue) ++ j.waiting

/-- The commands that wait are those in the queue, there is a worker, both sides have
the last dialog that they know of if they have one, and all commands were sent and
carried out accordingly. -/
structure Sound (j : Journal) : Prop where
  commands : j.session.commands = j.waiting.map (·.command)
  worker : j.session.worker ≠ .gone
  workflow : ∀ w, j.session.worker.workflow? = some w → w.Coherent ∧
    ∀ kind, w.pending = some kind → (dialogs j.told).getLast? = some kind
  panel : ∀ kind, j.session.panel.prompt = some kind → (dialogs j.heard).getLast? = some kind
  issued : ∀ i ∈ j.issued, i.Sound (dialogs j.heard)
  handled : ∀ h ∈ j.handled, h.Sound (dialogs j.told)

variable {j j' : Journal}

/-- What has arrived was raised first. -/
theorem dialogs_heard_le (j : Journal) : dialogs j.heard <+: dialogs j.told := by
  rw [told, dialogs_append]
  exact List.prefix_append _ _

/-- More notices raise their dialogs after all others. -/
theorem dialogs_told_append (j : Journal) (notices : List Notice) :
    dialogs (j.heard ++ (j.session.notices ++ notices)) = dialogs j.told ++ dialogs notices := by
  rw [← List.append_assoc, dialogs_append]
  rfl

/-- A command that is sent comes after all others. -/
theorem issued_sent (j : Journal) (session : Session) (i : Issue) :
    issued ⟨session, j.waiting ++ [i], j.handled, j.heard⟩ = j.issued ++ [i] :=
  (List.append_assoc _ _ _).symm

/-- A command that is carried out has been sent before. -/
theorem issued_handled {h : Handling} {waiting : List Issue}
    (hwaiting : j.waiting = h.issue :: waiting) (session : Session) (heard : List Notice) :
    issued ⟨session, waiting, j.handled ++ [h], heard⟩ = j.issued := by
  simp [issued, hwaiting]

/-- A command that was carried out was sent. -/
theorem mem_issued_of_handled {h : Handling} (hh : h ∈ j.handled) : h.issue ∈ j.issued :=
  List.mem_append_left _ (List.mem_map_of_mem hh)

/-- A command that is carried out was sent as every other one. -/
theorem Sound.issue_handled (hj : j.Sound) {h : Handling} (hh : h ∈ j.handled) :
    h.issue.Sound (dialogs j.heard) :=
  hj.issued h.issue (mem_issued_of_handled hh)

/-- The dialog of the workflow is the last one that was raised, also after a command. -/
private theorem getLast?_of_dialogEffect {w : Workflow} {op : Option Operation} {p : Progress}
    {raised : List PromptKind} (heffect : w.DialogEffect op p)
    (hw : ∀ kind, w.pending = some kind → raised.getLast? = some kind) {kind : PromptKind}
    (hkind : p.state.pending = some kind) : (raised ++ dialogs p.notices).getLast? = some kind := by
  cases heffect with
  | raised other hnotices hpending =>
    obtain rfl := Option.some.inj (hpending.symm.trans hkind)
    simp [hnotices]
  | closed _ _ hpending => simp [hpending] at hkind
  | kept _ hnotices hpending =>
    rw [hnotices, List.append_nil]
    exact hw kind (hpending ▸ hkind)

/-- Before the first move nothing was sent, and no side has a dialog. -/
theorem sound_start (c : Catalogue) : (start c).Sound where
  commands := rfl
  worker := by simp [start, Session.start]
  workflow := by
    rintro w hw
    obtain rfl : Workflow.initial = w := Option.some.inj hw
    exact ⟨Workflow.coherent_initial, by simp [Workflow.initial]⟩
  panel := by simp [start, Session.start, Panel.initial]
  issued := by simp [Journal.issued, start]
  handled := by simp [start]

private theorem Sound.sent (hj : j.Sound) {panel : Panel} {command : Command}
    (hsuits : command.Suits j.session.panel.prompt)
    (hprompt : panel.prompt = command.leaves j.session.panel.prompt) :
    Sound { j with
      session := { j.session with panel, commands := j.session.commands ++ [command] }
      waiting := j.waiting ++ [j.issue command] } := by
  refine ⟨?_, hj.worker, hj.workflow, ?_, ?_, hj.handled⟩
  · simp [hj.commands, issue]
  · intro kind hkind
    refine hj.panel kind ?_
    cases command <;> simp_all [Command.leaves]
  · intro i hi
    rw [issued_sent] at hi
    rcases List.mem_append.mp hi with hi | hi
    · exact hj.issued i hi
    · obtain rfl := List.mem_singleton.mp hi
      exact ⟨List.prefix_rfl, hj.panel, hsuits⟩

private theorem Sound.carriedOut (hj : j.Sound) {around : Surroundings} {w : Workflow}
    {issue : Issue} {waiting : List Issue} {result : Handled} {updates : List Update}
    (hresult : result = Worker.handle around w issue.command)
    (hworker : j.session.worker = .ready w) (hwaiting : j.waiting = issue :: waiting) :
    Sound { j with
      session := { j.session with
        worker := result.worker
        commands := waiting.map (·.command)
        notices := j.session.notices ++ result.notices
        updates }
      waiting
      handled := j.handled ++ [⟨issue, w, dialogs j.told, result⟩] } := by
  obtain ⟨hcoherent, hpending⟩ := hj.workflow w (by rw [hworker]; rfl)
  refine ⟨rfl, result.worker_ne_gone, ?_, hj.panel, ?_, ?_⟩
  · intro w' hw'
    obtain rfl : result.state = w' := Option.some.inj (result.workflow?_worker.symm.trans hw')
    refine ⟨hresult ▸ Worker.step_coherent hcoherent, ?_⟩
    intro kind hkind
    change (dialogs (j.heard ++ (j.session.notices ++ result.notices))).getLast? = some kind
    rw [hresult] at hkind
    rw [dialogs_told_append, hresult]
    exact getLast?_of_dialogEffect (Worker.handle_dialog _ _ hcoherent) hpending hkind
  · intro i hi
    rw [issued_handled hwaiting] at hi
    exact hj.issued i hi
  · intro h hh
    change h.Sound (dialogs (j.heard ++ (j.session.notices ++ result.notices)))
    rw [dialogs_told_append]
    rcases List.mem_append.mp hh with hh | hh
    · exact (hj.handled h hh).mono (List.prefix_append _ _)
    · obtain rfl := List.mem_singleton.mp hh
      have hissue : issue.Sound (dialogs j.heard) :=
        hj.issued issue (by simp [Journal.issued, hwaiting])
      exact ⟨hissue.arrived.trans j.dialogs_heard_le, List.prefix_rfl, hcoherent, hpending,
        around, hresult⟩

private theorem Sound.polled (hj : j.Sound) {panel : Panel} {updates : List Update}
    (hprompt : panel.prompt = (dialogs j.session.notices).getLast?.or j.session.panel.prompt) :
    Sound { j with
      session := { j.session with panel, notices := [], updates }
      heard := j.told } := by
  have htold : told { j with
      session := { j.session with panel, notices := [], updates }, heard := j.told } = j.told :=
    List.append_nil _
  refine ⟨hj.commands, hj.worker, ?_, ?_, ?_, ?_⟩
  · rw [htold]
    exact hj.workflow
  · intro kind hkind
    rw [hprompt, Option.or_eq_some_iff] at hkind
    rw [told, dialogs_append, List.getLast?_append, Option.or_eq_some_iff]
    exact hkind.imp_right fun ⟨hnone, hshown⟩ => ⟨hnone, hj.panel kind hshown⟩
  · intro i hi
    exact (hj.issued i hi).mono j.dialogs_heard_le
  · rw [htold]
    exact hj.handled

/-- Every change of a journal keeps what it is made of. -/
theorem Sound.change (hj : j.Sound) (hchange : Change j j') : j'.Sound := by
  cases hchange with
  | touched panel hprompt => exact { hj with panel := hprompt ▸ hj.panel }
  | issued panel command hsuits hprompt => exact hj.sent hsuits hprompt
  | handled result hresult hworker hwaiting => exact hj.carriedOut hresult hworker hwaiting
  | polled panel hprompt => exact hj.polled hprompt

/-- The last move of a journal comes last. -/
theorem ofMoves_concat (c : Catalogue) (moves : List Move) (m : Move) :
    ofMoves c (moves ++ [m]) = (ofMoves c moves).next m := by
  simp [ofMoves, List.foldl_append]

/-- The session of a journal is the one that the moves lead to. -/
theorem session_ofMoves (c : Catalogue) (moves : List Move) :
    (ofMoves c moves).session = moves.foldl Session.next (.start c) := by
  induction moves using List.reverseRecOn with
  | nil => rfl
  | append_singleton moves m ih =>
    rw [ofMoves_concat, session_next, ih, List.foldl_append]
    rfl

/-- Every journal is sound. -/
theorem sound_ofMoves (c : Catalogue) (moves : List Move) : (ofMoves c moves).Sound := by
  induction moves using List.reverseRecOn with
  | nil => exact sound_start c
  | append_singleton moves m ih =>
    rw [ofMoves_concat]
    exact ih.change (next_change ih.worker ih.commands m)

/-- Induction over journals: one more move changes a sound journal in one of the four
ways. -/
theorem ofMoves_induction {motive : Journal → Prop} (c : Catalogue) (start : motive (start c))
    (change : ∀ j j', Sound j → Change j j' → motive j → motive j') (moves : List Move) :
    motive (ofMoves c moves) := by
  induction moves using List.reverseRecOn with
  | nil => exact start
  | append_singleton moves m ih =>
    have hsound := sound_ofMoves c moves
    rw [ofMoves_concat]
    exact change _ _ hsound (next_change hsound.worker hsound.commands m) ih

end Journal

end ArchiveDesk
