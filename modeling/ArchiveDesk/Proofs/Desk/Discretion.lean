import ArchiveDesk.Proofs.Desk.Passages
import ArchiveDesk.Proofs.Upload.Refusal

/-!
# Discretion about failures

The worker turns a failure of the server into a dialog or into a result without events,
and keeps its cause to itself. So two courses of a session that differ in the causes of
such failures alone are the same course, message by message. What the worker reports as
failures are its own refusals and files that cannot be read. Nor does it matter to the
workflow whether anyone receives its reports.
-/

namespace ArchiveDesk

/-! ## What differs only in the causes of failures -/

/-- Two replies differ at most in the cause of a failure. -/
inductive Reply.Alike : Reply → Reply → Prop where
  | accepted : Alike .accepted .accepted
  | failed (cause cause' : Failure) : Alike (.failed cause) (.failed cause')
  | silent : Alike .silent .silent

/-- Two answers differ at most in the cause of a failure. -/
inductive AnswersAlike {α : Type} : Except Failure α → Except Failure α → Prop where
  | ok (value : α) : AnswersAlike (.ok value) (.ok value)
  | error (cause cause' : Failure) : AnswersAlike (.error cause) (.error cause')

/-- Two services succeed, fail and stay silent alike. -/
structure Service.Alike (service service' : Service) : Prop where
  send : ∀ item, (service.send item).Alike (service'.send item)
  delete : AnswersAlike service.delete service'.delete

/-- The same files, and servers that succeed, fail and stay silent alike. -/
structure Surroundings.Alike (around around' : Surroundings) : Prop where
  files : around.files = around'.files
  service : around.remote.service.Alike around'.remote.service
  lookup : ∀ kind id, Option.Rel AnswersAlike (around.remote.lookup kind id)
    (around'.remote.lookup kind id)

/-- The same beat, but for the causes of the server's failures. -/
inductive Beat.Alike : Beat → Beat → Prop where
  | gesture (g : Gesture) : Alike (.gesture g) (.gesture g)
  | take {around around' : Surroundings} (haround : around.Alike around') :
      Alike (.take around) (.take around')
  | pass (passage : Passage) : Alike (.pass passage) (.pass passage)

/-! ## No command depends on a cause -/

namespace Workflow

variable {service service' : Service}

/-- The check of a file does not depend on the cause of a failure. -/
theorem submit_congr (w : Workflow) (hservice : service.Alike service') :
    w.submit service = w.submit service' := by
  unfold submit
  split
  · cases w.slot with
    | none => rfl
    | some item =>
      dsimp only
      have hreply := hservice.send { item with target := .check, status := .inFlight }
      generalize service.send _ = reply at hreply ⊢
      generalize service'.send _ = reply' at hreply ⊢
      cases hreply <;> rfl
  · rfl

/-- The import of a file does not depend on the cause of a failure. -/
theorem commit_congr (w : Workflow) (hservice : service.Alike service') :
    w.commit service = w.commit service' := by
  unfold commit
  split
  · cases w.slot with
    | none => rfl
    | some item =>
      dsimp only
      have hreply := hservice.send { item with target := .commit, status := .inFlight }
      generalize service.send _ = reply at hreply ⊢
      generalize service'.send _ = reply' at hreply ⊢
      cases hreply <;> rfl
  · rfl

/-- The deletion does not depend on the cause of a failure. -/
theorem delete_congr (w : Workflow) (hservice : service.Alike service') :
    w.delete service = w.delete service' := by
  unfold delete
  have hanswer := hservice.delete
  generalize service.delete = answer at hanswer ⊢
  generalize service'.delete = answer' at hanswer ⊢
  cases hanswer <;> rfl

/-- The answer to a dialog does not depend on the cause of a failure. -/
theorem answer_congr (w : Workflow) (hservice : service.Alike service') (choice : Choice) :
    w.answer service choice = w.answer service' choice := by
  unfold answer
  cases w.pending with
  | none => rfl
  | some kind =>
    cases kind with
    | confirmImport =>
      cases choice with
      | accept => exact commit_congr _ hservice
      | decline => rfl
    | _ => rfl

end Workflow

/-- A lookup that fails finds nothing, whatever the cause. -/
theorem Worker.lookup?_congr {r r' : Remote} {kind : Lifecycle.Kind} {id : String}
    (hlookup : Option.Rel AnswersAlike (r.lookup kind id) (r'.lookup kind id)) :
    lookup? r kind id = lookup? r' kind id := by
  unfold lookup?
  generalize r.lookup kind id = answer at hlookup ⊢
  generalize r'.lookup kind id = answer' at hlookup ⊢
  cases hlookup with
  | none => rfl
  | some hanswer => cases hanswer <;> rfl

/-- A command comes to the same, whatever the causes of the server's failures. -/
theorem Worker.handle_congr {around around' : Surroundings} (haround : around.Alike around')
    (w : Workflow) (c : Command) : handle around w c = handle around' w c := by
  have hfound : found around c = found around' c := by
    cases c with
    | fetch kind id => simp only [found, lookup?_congr (haround.lookup kind id)]
    | _ => rfl
  have hstep : step around w c = step around' w c := by
    cases c with
    | selectFile path => simp only [step, haround.files]
    | submit => exact w.submit_congr haround.service
    | answer choice => exact w.answer_congr haround.service choice
    | delete => exact w.delete_congr haround.service
    | reload => rfl
    | fetch kind id => simp only [step, lookup?_congr (haround.lookup kind id)]
  simp only [handle, hfound, hstep]

namespace Scene

variable {b b' : Beat}

/-- The worker takes the same command, and the same comes of it. -/
theorem taken?_congr {around around' : Surroundings} (haround : around.Alike around')
    (s : Scene) : s.taken? around = s.taken? around' := by
  simp only [taken?, Worker.handle_congr haround]

/-- The same comes of the command of a beat. -/
theorem handling?_congr (s : Scene) (hb : b.Alike b') : s.handling? b = s.handling? b' := by
  cases hb with
  | take haround => exact taken?_congr haround s
  | gesture | pass => rfl

/-- The same scene comes after a beat. -/
theorem after_congr (s : Scene) (hb : b.Alike b') : s.after b = s.after b' := by
  cases hb with
  | take haround => simp only [after, take, taken?_congr haround]
  | gesture | pass => rfl

/-- Courses that differ only in the causes of the server's failures are the same, and the
same comes of every command. -/
theorem course_congr {beats beats' : List Beat} (s : Scene)
    (hbeats : List.Forall₂ Beat.Alike beats beats') :
    s.course beats = s.course beats' ∧ s.handlings beats = s.handlings beats' := by
  induction hbeats generalizing s with
  | nil => exact ⟨rfl, rfl⟩
  | @cons b b' beats beats' hb _ ih =>
    obtain ⟨hcourse, hhandlings⟩ := ih (s.after b)
    simp only [course, handlings, ← after_congr s hb, ← handling?_congr s hb, hcourse, hhandlings,
      and_self]

end Scene

/-! ## The failures that the worker reports -/

/-- The failures by which a workflow refuses an operation. -/
inductive Failure.IsRefusal : Failure → Prop where
  | slotTaken : IsRefusal .slotTaken
  | noCandidate : IsRefusal .noCandidate
  | outOfPhase (operation : String) (phase : Phase) : IsRefusal (.outOfPhase operation phase)
  | noPendingPrompt : IsRefusal .noPendingPrompt

/-- What a workflow refuses with is a refusal. -/
theorem Workflow.Refuses.isRefusal {w : Workflow} {op : Operation} {cause : Failure}
    (hop : w.Refuses op cause) : cause.IsRefusal := by
  cases hop <;> constructor

/-- A file that cannot be read is a failure of its own kind. -/
theorem Item.ofPath_eq_error {files : FileTree} {path : String} {cause : Failure}
    (hitem : Item.ofPath files path = .error cause) : ∃ detail, cause = .io detail := by
  unfold ofPath at hitem
  split at hitem
  · obtain rfl := Except.error.inj hitem
    exact ⟨_, rfl⟩
  · cases hread : files.read path with
    | ok content => simp [hread, Except.mapError, bind, Except.bind] at hitem
    | error fault =>
      rw [hread] at hitem
      obtain rfl := Except.error.inj hitem
      exact ⟨_, rfl⟩

namespace Worker

/-- The worker reports refusals, and files that cannot be read. -/
theorem reported {around : Surroundings} {w : Workflow} {c : Command} {cause : Failure}
    (hw : w.Coherent) (hfailed : .failed cause ∈ (handle around w c).updates) :
    cause.IsRefusal ∨ (∃ path, c = .selectFile path) ∧ ∃ detail, cause = .io detail := by
  rw [failed_mem_updates_iff] at hfailed
  cases hop : c.operation? around.files with
  | some op =>
    rw [step_of_operation? hop, Workflow.outcome_eq_refused_iff _ hw] at hfailed
    exact .inl hfailed.isRefusal
  | none =>
    cases c with
    | selectFile path =>
      cases hitem : Item.ofPath around.files path with
      | ok item => simp [Command.operation?, hitem, Except.toOption] at hop
      | error fault =>
        simp only [step, hitem] at hfailed
        obtain rfl : fault = cause := Outcome.refused.inj hfailed
        exact .inr ⟨⟨path, rfl⟩, Item.ofPath_eq_error hitem⟩
    | fetch kind id =>
      simp only [step, Progress.finish] at hfailed
      split at hfailed <;> cases hfailed
    | _ => simp [Command.operation?] at hop

end Worker

namespace Scene

/-- The worker of the scene, if there is one, holds a coherent workflow. -/
def Coherent (s : Scene) : Prop := ∀ w, s.session.worker.workflow? = some w → w.Coherent

variable {s : Scene}

/-- A beat leaves the workflow of the worker coherent. -/
theorem Coherent.after (hs : s.Coherent) (b : Beat) : (s.after b).Coherent := by
  intro w hw
  cases b with
  | gesture g =>
    rw [Scene.after, (s.session.spares_receive g).worker] at hw
    exact hs w hw
  | take around =>
    rw [Scene.after, take] at hw
    split at hw
    · exact hs w hw
    · rename_i c h htaken
      obtain ⟨held, hworker, rfl⟩ := handle_of_taken? htaken
      obtain rfl := Option.some.inj ((Handled.workflow?_worker _).symm.trans hw)
      exact Worker.step_coherent (hs held (by rw [hworker]; rfl))
  | pass passage =>
    rw [Scene.after, (worker_pass s passage).1] at hw
    exact hs w hw

/-- Any number of beats leave the workflow of the worker coherent. -/
theorem Coherent.foldl_after (hs : s.Coherent) (beats : List Beat) :
    (beats.foldl Scene.after s).Coherent := by
  induction beats generalizing s with
  | nil => exact hs
  | cons b beats ih => exact ih (hs.after b)

/-- Every command of a course is carried out on a coherent workflow. -/
theorem Coherent.exists_handle (hs : s.Coherent) {beats : List Beat} {x : Command × Handled}
    (hx : x ∈ s.handlings beats) : ∃ around w, w.Coherent ∧ x.2 = Worker.handle around w x.1 := by
  induction beats generalizing s with
  | nil => cases hx
  | cons b beats ih =>
    rcases List.mem_append.mp hx with hx | hx
    · cases b with
      | take around =>
        obtain ⟨c, h⟩ := x
        obtain ⟨w, hworker, hresult⟩ := handle_of_taken? (Option.mem_toList.mp hx)
        exact ⟨around, w, hs w (by rw [hworker]; rfl), hresult⟩
      | gesture | pass => cases hx
    · exact ih (hs.after b) hx

/-- The worker begins with a coherent workflow. -/
theorem coherent_start (c : Catalogue) : (start c).Coherent := by
  intro w hw
  obtain rfl : Workflow.initial = w := Option.some.inj hw
  exact Workflow.coherent_initial

end Scene

/-! ## The course and the channel -/

/-- **Discretion.** Two courses that differ in nothing but the causes of the server's
failures are the same: all scenes on the way, and all that comes of every command. The
failures that the worker reports are refusals of the workflow, or files that were to be
selected and cannot be read. And at whatever report the receiver of a workflow goes away,
in the middle of an operation or between two, every operation comes to the same but for its
reports, of which those before have arrived. -/
theorem Scene.course_discreet (c : Catalogue) {beats beats' : List Beat}
    (hbeats : List.Forall₂ Beat.Alike beats beats') (script : Script)
    (earlier later : List Operation) :
    ((start c).course beats = (start c).course beats' ∧
      (start c).handlings beats = (start c).handlings beats') ∧
    (∀ x ∈ (start c).handlings beats, ∀ cause, .failed cause ∈ x.2.updates →
      cause.IsRefusal ∨ (∃ path, x.1 = .selectFile path) ∧ ∃ detail, cause = .io detail) ∧
    let r := (Rehearsal.start script).after earlier
    ∀ room, ((r.leave room).steps later).map Step.withoutReports =
        (r.steps later).map Step.withoutReports ∧
      ((r.leave room).after later).channel.arrived = r.channel.arrived ++
        ((r.after later).channel.arrived.drop r.channel.arrived.length).take room := by
  refine ⟨course_congr _ hbeats, fun x hx cause hfailed => ?_, fun room => ?_⟩
  · obtain ⟨around, w, hw, hresult⟩ := (coherent_start c).exists_handle hx
    rw [hresult] at hfailed
    exact Worker.reported hw hfailed
  · exact ⟨Rehearsal.steps_leave _ room later,
      Rehearsal.arrived_leave (Rehearsal.room_after rfl earlier) room later⟩

/-- A server that refuses everything for one cause. -/
def Surroundings.refusing (cause : Failure) : Surroundings where
  files := Surroundings.willing.files
  remote := {
    service := ⟨fun _ => .failed cause, .error cause⟩
    lookup _ _ := some (.error cause) }

/-- A file is selected and checked in vain, and polls come in the middle of it. -/
def vainBeats (cause : Failure) : List Beat :=
  [.gesture (.choose "a"), .take (.refusing cause), .pass .tell, .pass .tell, .pass .hear,
    .gesture (.press (.act .submit)), .pass .tell, .take (.refusing cause), .pass .tell,
    .pass .accept, .pass .tell, .pass .tell, .pass .tell, .pass .tell, .pass .hear]

/-- The panel does not tell one cause from another. -/
theorem Scene.course_discreet_vainBeats :
    List.Forall₂ Beat.Alike (vainBeats (.transport "status 400")) (vainBeats (.config "none")) ∧
      (start .bare).course (vainBeats (.transport "status 400")) =
        (start .bare).course (vainBeats (.config "none")) := by
  have haround :
      (Surroundings.refusing (.transport "status 400")).Alike (.refusing (.config "none")) :=
    ⟨rfl, ⟨fun _ => .failed _ _, .error _ _⟩, fun _ _ => .some (.error _ _)⟩
  have hbeats : List.Forall₂ Beat.Alike (vainBeats (.transport "status 400"))
      (vainBeats (.config "none")) :=
    .cons (.gesture _) <| .cons (.take haround) <| .cons (.pass _) <| .cons (.pass _) <|
    .cons (.pass _) <| .cons (.gesture _) <| .cons (.pass _) <| .cons (.take haround) <|
    .cons (.pass _) <| .cons (.pass _) <| .cons (.pass _) <| .cons (.pass _) <|
    .cons (.pass _) <| .cons (.pass _) <| .cons (.pass _) .nil
  exact ⟨hbeats, (course_discreet .bare hbeats ⟨[], [], []⟩ [] []).1.1⟩

end ArchiveDesk
