import ArchiveDesk.Proofs.Desk.Passages

/-!
# Rounds

An operator who keeps to what the page offers, and waits each time until the worker has
finished and the panel has heard of it, always has the workflow in full view: its phase,
its file and its dialog. What the page offers is then what the workflow admits, so no
command is refused but the choice of a file, which the page offers in every phase.
-/

namespace ArchiveDesk

/-- The panel shows the workflow with its dialog, and no command under way. -/
structure Panel.Shows (p : Panel) (w : Workflow) : Prop extends p.Mirrors w where
  prompt : p.prompt = w.pending
  busy : p.busy = false

/-- A panel with the same status shows the same workflow. -/
theorem Panel.Shows.congr {p q : Panel} {w : Workflow} (hp : p.Shows w) (hq : q.SameStatus p) :
    q.Shows w where
  toMirrors := hp.toMirrors.congr hq.toSameUpload
  prompt := hq.prompt.trans hp.prompt
  busy := hq.busy.trans hp.busy

/-! ## Commands that are granted -/

namespace Workflow.Effect

variable {w : Workflow} {service : Service} {op : Operation} {step : Step}

/-- An operation comes to its end if the service answers. -/
theorem outcome_ne_abandoned (heffect : w.Effect service op step)
    (hservice : ∀ item, service.send item ≠ .silent) : step.outcome ≠ .abandoned := by
  cases heffect with
  | unchecked item _ _ hreply => exact absurd hreply (hservice _)
  | unimported item _ _ _ hreply => exact absurd hreply (hservice _)
  | _ => exact nofun

/-- What is admitted is not refused. -/
theorem outcome_ne_refused (heffect : w.Effect service op step) (hop : w.Admits op)
    (cause : Failure) : step.outcome ≠ .refused cause := by
  cases heffect with
  | refused _ hnot => exact absurd hop hnot
  | _ => exact nofun

end Workflow.Effect

namespace Worker

variable {around : Surroundings} {w : Workflow} {c : Command} {p : Panel}

/-- A command comes to its end if the server answers. -/
theorem outcome_ne_abandoned (hw : w.Coherent) (haround : around.Answer) (c : Command) :
    (step around w c).outcome ≠ .abandoned := by
  rcases @step_effect around w c hw with ⟨op, -, heffect⟩ | ⟨hop, -⟩
  · exact heffect.outcome_ne_abandoned haround.send
  · cases c with
    | selectFile path =>
      cases hitem : Item.ofPath around.files path with
      | ok item => simp [Command.operation?, hitem, Except.toOption] at hop
      | error cause =>
        simp [step, hitem, Step.refuse, Progress.finish]
    | fetch kind id => simp [step, lookup?, haround.lookup, Progress.finish]
    | _ => simp [Command.operation?] at hop

/-- A command that is granted in view of the workflow is not refused, unless it chooses
a file. -/
theorem outcome_ne_refused (hw : w.Coherent) (hp : p.Shows w) (hgrants : p.Grants c)
    (hc : ∀ path, c ≠ .selectFile path) (cause : Failure) :
    (step around w c).outcome ≠ .refused cause := by
  have hperform (op : Operation) (hop : w.Admits op) :=
    (Workflow.perform_effect around.remote.service hw op).outcome_ne_refused hop cause
  cases c with
  | selectFile path => exact absurd rfl (hc path)
  | submit =>
    obtain ⟨hphase, hselected⟩ := hgrants.checkable rfl
    rw [hp.phase] at hphase
    rw [hp.selected, Option.isSome_map] at hselected
    exact hperform .submit ⟨hphase, hselected⟩
  | answer choice =>
    have hpending : w.pending.isSome = true := hp.prompt ▸ hgrants.suits
    exact hperform (.answer choice) hpending
  | delete => exact hperform .delete trivial
  | reload => exact hperform .reload trivial
  | fetch kind id =>
    simp only [step, Progress.finish]
    split <;> simp

/-- A panel that hears of a command goes on mirroring the workflow. -/
theorem handle_mirrors (hw : w.Coherent) (hp : p.Mirrors w) (around : Surroundings)
    (c : Command) :
    ((handle around w c).notices.foldl Panel.hear p).Mirrors (handle around w c).state := by
  change ((handle around w c).progress.notices.foldl Panel.hear p).Mirrors
    (handle around w c).progress.state
  rw [progress_handle]
  rcases @step_effect around w c hw with ⟨op, -, heffect⟩ | ⟨-, hnothing⟩
  · exact heffect.mirrors hp
  · rw [hnothing]
    exact hp

/-- A panel that hears of a command which it had granted shows the dialog of the
workflow. -/
theorem handle_prompt (hw : w.Coherent) (hgrants : p.Grants c) (hprompt : p.prompt = w.pending)
    {q : Panel} (hq : q.prompt = c.leaves p.prompt) :
    ((handle around w c).notices.foldl Panel.hear q).prompt =
      (handle around w c).state.pending := by
  rw [Panel.prompt_foldl_hear, hq]
  have hsuits := hgrants.suits
  cases handle_dialog around c hw with
  | raised kind hnotices hpending =>
    change dialogs (handle around w c).notices = [kind] at hnotices
    rw [hnotices]
    exact hpending.symm
  | closed hop hnotices hpending =>
    change dialogs (handle around w c).notices = [] at hnotices
    rw [hnotices]
    refine Eq.trans ?_ hpending.symm
    cases c with
    | answer choice => rfl
    | fetch kind id => simp [Command.operation?] at hop
    | _ => exact hsuits
  | kept hop hnotices hpending =>
    change dialogs (handle around w c).notices = [] at hnotices
    rw [hnotices]
    refine Eq.trans ?_ hpending.symm
    cases c with
    | answer choice => exact (hop choice rfl).symm
    | _ => exact hprompt

/-- A command that comes to its end is not under way any more. -/
theorem handle_busy (hend : (step around w c).outcome ≠ .abandoned) (q : Panel) :
    ((handle around w c).updates.foldl Panel.accept q).busy = false := by
  rw [updates_handle, List.foldl_append]
  cases houtcome : (step around w c).outcome with
  | completed => rfl
  | refused cause => rfl
  | abandoned => exact absurd houtcome hend

end Worker

/-- No updates change what the panel shows of the upload. -/
theorem Panel.foldl_accept_sameUpload (p : Panel) (updates : List Update) :
    (updates.foldl accept p).SameUpload p := by
  induction updates generalizing p with
  | nil => exact ⟨rfl, rfl⟩
  | cons u updates ih => exact (ih _).trans (p.accept_sameUpload u)

/-- Once everything has arrived that a granted command has sent, the panel shows the
workflow that it has left. -/
theorem Panel.Shows.handle {w : Workflow} {p q : Panel} {c : Command} {around : Surroundings}
    (hp : p.Shows w) (hw : w.Coherent) (haround : around.Answer) (hgrants : p.Grants c)
    (hupload : q.SameUpload p) (hprompt : q.prompt = c.leaves p.prompt) :
    ((Worker.handle around w c).updates.foldl accept
      ((Worker.handle around w c).notices.foldl hear q)).Shows
        (Worker.handle around w c).state where
  toMirrors := (Worker.handle_mirrors hw (hp.toMirrors.congr hupload) around c).congr
    (foldl_accept_sameUpload _ _)
  prompt := (prompt_foldl_accept _ _).trans (Worker.handle_prompt hw hgrants hp.prompt hprompt)
  busy := Worker.handle_busy (Worker.outcome_ne_abandoned hw haround c) _

/-! ## Rounds of a session -/

namespace Session

/-- The worker is idle, nothing is on its way, and the panel shows the workflow. -/
structure UpToDate (s : Session) (w : Workflow) : Prop where
  worker : s.worker = .ready w
  commands : s.commands = []
  notices : s.notices = []
  updates : s.updates = []
  panel : s.panel.Shows w

variable {s : Session} {w : Workflow}

/-- The gesture of a round does what an offered gesture does, or nothing. -/
theorem operated_ask (hworker : s.worker ≠ .gone) (r : Round) : s.Operated (s.ask r) := by
  unfold ask
  split
  · rename_i hoffers
    exact operated_receive hworker hoffers
  · exact .touched s.panel ⟨rfl, rfl⟩ rfl rfl

/-- Whatever passes while a command is under way, the session is up to date in the end. -/
theorem UpToDate.pass {s : Scene} (hs : s.finish.poll.UpToDate w) (passage : Passage) :
    (s.pass passage).finish.poll.UpToDate w := by
  obtain ⟨hworker, hcommands⟩ := s.worker_pass passage
  have hpoll := hs.worker
  have hqueue := hs.commands
  rw [Scene.finish_eq] at hpoll hqueue
  refine ⟨?_, ?_, rfl, rfl, hs.panel.congr (s.pass_sameStatus passage)⟩
  · rw [Scene.finish_eq]
    exact hworker.trans hpoll
  · rw [Scene.finish_eq]
    exact hcommands.trans hqueue

/-- However much passes while a command is under way, the session is up to date in the end. -/
theorem UpToDate.foldl_pass {s : Scene} (hs : s.finish.poll.UpToDate w)
    (passages : List Passage) : (passages.foldl Scene.pass s).finish.poll.UpToDate w := by
  induction passages generalizing s with
  | nil => exact hs
  | cons passage passages ih => exact ih (hs.pass passage)

/-- After an offered gesture, a turn of the worker and a poll, the session is up to date
again, and nothing was refused but the choice of a file. -/
theorem UpToDate.turn (hs : s.UpToDate w) (hw : w.Coherent) {around : Surroundings}
    (haround : around.Answer) {asked : Session} (hasked : s.Operated asked) :
    (∃ w', w'.Coherent ∧ (asked.work around).poll.UpToDate w') ∧
      ∀ x, Scene.taken? around ⟨asked, []⟩ = some x → ∀ cause, .failed cause ∈ x.2.updates →
        ∃ path, x.1 = .selectFile path := by
  obtain ⟨catalogue, p, worker, commands, notices, updates⟩ := s
  obtain ⟨rfl, rfl, rfl, rfl, hpanel⟩ := hs
  cases hasked with
  | touched panel hupload hbusy hprompt =>
    refine ⟨⟨w, hw, rfl, rfl, rfl, rfl, hpanel.congr ⟨hupload, hprompt, hbusy⟩⟩, fun x hx => ?_⟩
    simp [Scene.taken?] at hx
  | sent panel c hgrants hupload hbusy hprompt =>
    constructor
    · have hend := Worker.outcome_ne_abandoned hw haround c
      rw [work_ready around rfl rfl]
      refine ⟨(Worker.handle around w c).state, Worker.step_coherent hw, ?_, rfl, rfl, rfl, ?_⟩
      · exact if_pos (bne_iff_ne.mpr hend)
      · exact hpanel.handle hw haround hgrants hupload hprompt
    · intro x hx cause hfailed
      obtain rfl := Option.some.inj hx
      by_contra hfile
      have hc (path : String) : c ≠ .selectFile path := fun h => hfile ⟨path, h⟩
      exact Worker.outcome_ne_refused hw hpanel hgrants hc cause
        (Worker.failed_mem_updates_iff.mp hfailed)

/-- After a round the session is up to date, and only the choice of a file was refused. -/
theorem UpToDate.round (hs : s.UpToDate w) (hw : w.Coherent) (r : Round) :
    (∃ w', w'.Coherent ∧ (s.round r).UpToDate w') ∧
      ∀ x, s.asked? r = some x → ∀ cause, .failed cause ∈ x.2.updates →
        ∃ path, x.1 = .selectFile path := by
  have hworker : s.worker ≠ .gone := by simp [hs.worker]
  obtain ⟨⟨w', hw', hturn⟩, hfailed⟩ := hs.turn hw r.answered (operated_ask hworker r)
  -- What passes meanwhile may as well wait for the end of the turn.
  rw [← Scene.finish_take] at hturn
  exact ⟨⟨w', hw', hturn.foldl_pass r.meanwhile⟩, hfailed⟩

/-- The session is up to date after any number of rounds. -/
theorem upToDate_ofRounds (c : Catalogue) (rounds : List Round) :
    ∃ w, w.Coherent ∧ (rounds.foldl Session.round (.start c)).UpToDate w := by
  induction rounds using List.reverseRecOn with
  | nil => exact ⟨.initial, Workflow.coherent_initial, rfl, rfl, rfl, rfl, ⟨rfl, rfl⟩, rfl, rfl⟩
  | append_singleton rounds r ih =>
    obtain ⟨w, hw, hs⟩ := ih
    rw [List.foldl_append]
    exact (hs.round hw r).1

/-- **An up-to-date desk is not refused.** After every round the worker is idle, nothing is
on its way, and the panel shows the phase, the file and the dialog of the workflow; and of
the commands of the next round the worker reports a failure only if it is the choice of a
file. -/
theorem rounds_upToDate (c : Catalogue) (rounds : List Round) :
    let s := rounds.foldl Session.round (.start c)
    (∃ w, s.UpToDate w) ∧
      ∀ r x, s.asked? r = some x → ∀ cause, .failed cause ∈ x.2.updates →
        ∃ path, x.1 = .selectFile path := by
  intro s
  obtain ⟨w, hw, hs⟩ := upToDate_ofRounds c rounds
  exact ⟨⟨w, hs⟩, fun r => (UpToDate.round hs hw r).2⟩

end Session

/-- The willing server leaves nothing unanswered. -/
theorem Surroundings.answer_willing : willing.Answer where
  send _ := by simp [willing]
  lookup _ _ := by simp [willing]

/-- A gesture before the willing server. -/
def Round.willing (gesture : Gesture) (meanwhile : List Passage) : Round :=
  ⟨gesture, .willing, Surroundings.answer_willing, meanwhile⟩

/-- A file is chosen and checked, with polls in the middle of the check. -/
def checkRounds : List Round :=
  [.willing (.choose "a") [],
    .willing (.press (.act .submit)) [.tell, .tell, .hear, .accept, .tell, .hear]]

/-- The import of the checked file is accepted. -/
def acceptRound : Round := .willing (.press (.act (.answer .accept))) [.tell, .accept]

/-- After the check the panel asks whether to import the file, and the worker does not refuse
the answer. -/
theorem Session.rounds_upToDate_checkRounds :
    let s := checkRounds.foldl Session.round (.start .bare)
    (∃ w, s.UpToDate w) ∧ s.panel.prompt = some .confirmImport ∧
      ∃ h, s.asked? acceptRound = some (.answer .accept, h) ∧
        (∃ item, .send item ∈ h.calls) ∧ ∀ cause, .failed cause ∉ h.updates := by
  intro s
  obtain ⟨hshown, hgranted⟩ := rounds_upToDate .bare checkRounds
  have hprompt : s.panel.prompt = some .confirmImport := by decide +kernel
  have hasked : (s.asked? acceptRound).map Prod.fst = some (.answer .accept) := by decide +kernel
  have hcalls : (s.asked? acceptRound).all (·.2.calls.any (· matches .send _)) = true := by
    decide +kernel
  obtain ⟨⟨c, h⟩, hx, rfl⟩ := Option.map_eq_some_iff.mp hasked
  refine ⟨hshown, hprompt, h, hx, ?_, fun cause hfailed => ?_⟩
  · rw [hx] at hcalls
    obtain ⟨call, hcall, hsend⟩ := List.any_eq_true.mp hcalls
    cases call with
    | send item => exact ⟨item, hcall⟩
    | delete => cases hsend
  · obtain ⟨path, hpath⟩ := hgranted acceptRound _ hx cause hfailed
    cases hpath

end ArchiveDesk
