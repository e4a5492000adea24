import ArchiveDesk.Proofs.Desk.Batches
import ArchiveDesk.Proofs.Desk.Discretion
import ArchiveDesk.Proofs.Desk.Polls

/-!
# The error that is shown

The worker carries commands out, and the polls come when they come. With a poll after every
turn of the worker, the error that is shown is the one that the last command concerning it
has left. With fewer polls it can be another one: an error that has been removed already is
put on the panel again. The file says exactly when this happens.
-/

namespace ArchiveDesk

/-! ## Turns of the worker -/

/-- An operation that is refused reports nothing. -/
theorem Workflow.Effect.notices_of_refused {w : Workflow} {service : Service} {op : Operation}
    {step : Step} {cause : Failure} (heffect : w.Effect service op step)
    (houtcome : step.outcome = .refused cause) : step.notices = [] := by
  cases heffect with
  | refused => rfl
  | _ => cases houtcome

/-- A command of the worker does not fail and remove an error as well. -/
theorem Worker.handle_decided {w : Workflow} (hw : w.Coherent) (around : Surroundings)
    (c : Command) : (handle around w c).Decided := by
  rintro ⟨cause, hfailed⟩ ⟨n, hn, -⟩
  rw [failed_mem_updates_iff] at hfailed
  have hnotices : (handle around w c).notices = (step around w c).notices :=
    congrArg Progress.notices (progress_handle around w c)
  have hnone : (step around w c).notices = [] := by
    rcases @step_effect around w c hw with ⟨op, -, heffect⟩ | ⟨-, hstep⟩
    · exact heffect.notices_of_refused hfailed
    · exact congrArg Progress.notices hstep
  rw [hnotices, hnone] at hn
  cases hn

namespace Session

/-- What comes of the command that the worker can take. -/
def handled? (s : Session) (around : Surroundings) : Option Handled :=
  (Scene.taken? around ⟨s, []⟩).map Prod.snd

/-- The worker has some turns. -/
def workOn (s : Session) (turns : List Surroundings) : Session :=
  turns.foldl (fun s around => s.work around) s

/-- What comes of the commands that the worker takes in some turns. -/
def carriedOut (s : Session) : List Surroundings → Batch
  | [] => []
  | around :: turns => (s.handled? around).toList ++ (s.work around).carriedOut turns

/-- The worker has some turns, with a poll after each part of them. -/
def workAndPoll (s : Session) (parts : List (List Surroundings)) : Session :=
  parts.foldl (fun s turns => (s.workOn turns).poll) s

/-- What comes of the commands that each of the polls finds. -/
def batches (s : Session) : List (List Surroundings) → List Batch
  | [] => []
  | turns :: parts => s.carriedOut turns :: (s.workOn turns).poll.batches parts

variable {s t : Session}

/-- A turn of the worker adds the messages of the command that it takes. -/
theorem work_messages (s : Session) (around : Surroundings) :
    (s.work around).panel = s.panel ∧
      (s.work around).notices = s.notices ++ (s.handled? around).toList.flatMap Handled.notices ∧
      (s.work around).updates =
        s.updates ++ (s.handled? around).toList.flatMap Handled.updates := by
  obtain ⟨catalogue, panel, worker, commands, notices, updates⟩ := s
  cases worker with
  | waiting w | gone => simp [work, handled?, Scene.taken?]
  | ready w =>
    cases commands with
    | nil => simp [work, handled?, Scene.taken?]
    | cons c commands =>
      rw [work_ready around rfl rfl]
      simp [handled?, Scene.taken?]

/-- What the worker does depends on its workflow and its commands alone. -/
theorem work_congr (hworker : s.worker = t.worker) (hcommands : s.commands = t.commands)
    (around : Surroundings) :
    s.handled? around = t.handled? around ∧ (s.work around).worker = (t.work around).worker ∧
      (s.work around).commands = (t.work around).commands := by
  obtain ⟨catalogue, panel, worker, commands, notices, updates⟩ := s
  obtain ⟨catalogue', panel', worker', commands', notices', updates'⟩ := t
  obtain rfl : worker = worker' := hworker
  obtain rfl : commands = commands' := hcommands
  cases worker with
  | waiting w | gone => exact ⟨rfl, rfl, rfl⟩
  | ready w =>
    cases commands with
    | nil => exact ⟨rfl, rfl, rfl⟩
    | cons c commands =>
      rw [work_ready around rfl rfl, work_ready around rfl rfl]
      exact ⟨rfl, rfl, rfl⟩

/-- What the worker carries out depends on what it holds and on its commands alone. -/
theorem carriedOut_congr (hworker : s.worker = t.worker) (hcommands : s.commands = t.commands)
    (turns : List Surroundings) : s.carriedOut turns = t.carriedOut turns := by
  induction turns generalizing s t with
  | nil => rfl
  | cons around turns ih =>
    obtain ⟨hhandled, hworker, hcommands⟩ := work_congr hworker hcommands around
    rw [carriedOut, carriedOut, hhandled, ih hworker hcommands]

/-- Polls do not concern the worker. -/
theorem carriedOut_poll (s : Session) (turns : List Surroundings) :
    s.poll.carriedOut turns = s.carriedOut turns :=
  carriedOut_congr (s := s.poll) (t := s) rfl rfl turns

/-- The worker carries out the commands of some turns one after the other. -/
theorem carriedOut_append (s : Session) (turns more : List Surroundings) :
    s.carriedOut (turns ++ more) = s.carriedOut turns ++ (s.workOn turns).carriedOut more := by
  induction turns generalizing s with
  | nil => rfl
  | cons around turns ih =>
    rw [List.cons_append, carriedOut, ih, carriedOut, List.append_assoc]
    rfl

/-- The polls find all commands, in their order. -/
theorem flatten_batches (s : Session) (parts : List (List Surroundings)) :
    (s.batches parts).flatten = s.carriedOut parts.flatten := by
  induction parts generalizing s with
  | nil => rfl
  | cons turns parts ih =>
    rw [batches, List.flatten_cons, ih, carriedOut_poll, List.flatten_cons, carriedOut_append]

/-- What the worker sends in some turns. -/
theorem workOn_messages (s : Session) (turns : List Surroundings) :
    (s.workOn turns).panel = s.panel ∧
      (s.workOn turns).notices = s.notices ++ (s.carriedOut turns).flatMap Handled.notices ∧
      (s.workOn turns).updates = s.updates ++ (s.carriedOut turns).flatMap Handled.updates := by
  induction turns generalizing s with
  | nil => simp [workOn, carriedOut]
  | cons around turns ih =>
    obtain ⟨hpanel, hnotices, hupdates⟩ := s.work_messages around
    obtain ⟨hpanel', hnotices', hupdates'⟩ := ih (s.work around)
    refine ⟨hpanel'.trans hpanel, hnotices'.trans ?_, hupdates'.trans ?_⟩
    · rw [hnotices, carriedOut, List.flatMap_append, List.append_assoc]
    · rw [hupdates, carriedOut, List.flatMap_append, List.append_assoc]

/-- The error after some turns and a poll. -/
theorem Quiet.error_poll_workOn (hs : s.Quiet) (turns : List Surroundings) :
    (s.workOn turns).poll.panel.error = (s.carriedOut turns).errorAfter s.panel.error := by
  obtain ⟨hpanel, hnotices, hupdates⟩ := s.workOn_messages turns
  rw [hs.notices, List.nil_append] at hnotices
  rw [hs.updates, List.nil_append] at hupdates
  rw [poll, acceptAll, hearAll]
  dsimp only
  rw [Panel.error_foldl_accept, Panel.error_foldl_hear, hpanel, hnotices, hupdates]
  rfl

/-- After a poll nothing is on its way to the panel. -/
theorem quiet_poll (s : Session) : s.poll.Quiet := ⟨rfl, rfl⟩

/-- The error after some turns with polls in between. -/
theorem Quiet.error_workAndPoll (hs : s.Quiet) (parts : List (List Surroundings)) :
    (s.workAndPoll parts).panel.error =
      (s.batches parts).foldl Batch.errorAfter s.panel.error := by
  induction parts generalizing s with
  | nil => rfl
  | cons turns parts ih =>
    rw [batches, List.foldl_cons, ← hs.error_poll_workOn]
    exact ih (quiet_poll _)

/-- The error after some turns with a poll after each of them. -/
theorem Quiet.error_workAndPoll_each (hs : s.Quiet) (turns : List Surroundings) :
    (s.workAndPoll (turns.map ([·]))).panel.error =
      (s.carriedOut turns).errorOneByOne s.panel.error := by
  induction turns generalizing s with
  | nil => rfl
  | cons around turns ih =>
    have hturn := hs.error_poll_workOn [around]
    have hrest := ih (quiet_poll (s.workOn [around]))
    rw [carriedOut_poll, hturn] at hrest
    have hcarried : s.carriedOut (around :: turns) =
        (s.handled? around).toList ++ (s.workOn [around]).carriedOut turns := rfl
    refine hrest.trans ?_
    rw [hcarried, Batch.errorOneByOne, Batch.errorOneByOne, List.foldl_append]
    congr 1
    cases h : s.handled? around with
    | none => simp [carriedOut, h, Batch.errorAfter, Batch.errors]
    | some x => simp [carriedOut, h]

/-- No command of a worker with a coherent workflow fails and removes an error as well. -/
theorem decided_carriedOut (hs : Scene.Coherent ⟨s, []⟩) (turns : List Surroundings) :
    ∀ h ∈ s.carriedOut turns, h.Decided := by
  induction turns generalizing s with
  | nil => simp [carriedOut]
  | cons around turns ih =>
    rw [carriedOut, List.forall_mem_append]
    constructor
    · intro h hh
      obtain ⟨x, hx, rfl⟩ := Option.map_eq_some_iff.mp (Option.mem_toList.mp hh)
      obtain ⟨w, hworker, hresult⟩ := Scene.handle_of_taken? hx
      rw [hresult]
      exact Worker.handle_decided (hs w (by rw [hworker]; rfl)) around x.1
    · refine ih ?_
      have htaken := hs.after (.take around)
      intro w hw
      refine htaken w ?_
      rw [← hw, ← Scene.finish_take, Scene.finish_eq]
      rfl

end Session

/-- **The error and the polls.** After any course of a session that ends with a poll, the
worker has some more turns, with polls between some of them and one in the end. Then the
panel shows the error that it would show with a poll after every turn, unless the last
poll that finds commands which concern the error finds one that removes the error of an
earlier one among them, and none that fails after that. -/
theorem Session.error_workAndPoll_iff (c : Catalogue) (beats : List Beat)
    (parts : List (List Surroundings)) :
    let s := (beats.foldl Scene.after (.start c)).finish.poll
    (s.workAndPoll parts).panel.error = (s.workAndPoll (parts.flatten.map ([·]))).panel.error ↔
      ¬ EndsStale (s.batches parts) := by
  intro s
  have hquiet : s.Quiet := quiet_poll _
  have hcoherent : Scene.Coherent ⟨s, []⟩ := by
    intro w hw
    refine (Scene.coherent_start c).foldl_after beats w ?_
    rw [← hw]
    change _ = (beats.foldl Scene.after (Scene.start c)).finish.worker.workflow?
    rw [Scene.finish_eq]
  rw [hquiet.error_workAndPoll, hquiet.error_workAndPoll_each, ← flatten_batches]
  refine foldl_errorAfter_eq_iff (fun batch hbatch h hh => ?_) _
  refine decided_carriedOut hcoherent parts.flatten h ?_
  rw [← flatten_batches]
  exact List.mem_flatten.mpr ⟨batch, hbatch, hh⟩

/-- A file is chosen twice and the view reloaded, before the worker has begun. -/
def repeatedBeats : List Beat :=
  [.gesture (.choose "a"), .gesture (.choose "a"), .gesture (.press (.act .reload))]

/-- A single poll can leave an error that a poll after every turn would have removed. -/
theorem Session.exists_error_workAndPoll_ne :
    ¬ ∀ (c : Catalogue) (beats : List Beat) (parts : List (List Surroundings)),
      let s := (beats.foldl Scene.after (.start c)).finish.poll
      (s.workAndPoll parts).panel.error =
        (s.workAndPoll (parts.flatten.map ([·]))).panel.error := by
  intro hsame
  let s := (repeatedBeats.foldl Scene.after (.start .bare)).finish.poll
  have honce : (s.workAndPoll [[.willing, .willing, .willing]]).panel.error =
      some Failure.slotTaken.presentation := by decide +kernel
  have heach : (s.workAndPoll [[.willing], [.willing], [.willing]]).panel.error = none := by
    decide +kernel
  have herror := hsame .bare repeatedBeats [[.willing, .willing, .willing]]
  exact nomatch honce.symm.trans (herror.trans heach)

end ArchiveDesk
