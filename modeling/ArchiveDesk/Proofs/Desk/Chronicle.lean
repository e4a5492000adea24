import ArchiveDesk.Desk.Chronicle
import ArchiveDesk.Proofs.Desk.Passages

/-!
# Chronicles of courses

A beat changes a chronicle in one of five ways: a gesture adds the commands that it
sends, the worker takes the next command, the worker sends the next message, or what has
arrived of one kind is delivered. Everything about chronicles is proved from these. The
first invariant says that nothing is lost and nothing overtakes its own kind: what was
sent is what has arrived, followed by what is on its way.
-/

namespace ArchiveDesk

namespace Chronicle

/-! ## The changes of a chronicle -/

/-- What a beat can do to a chronicle. -/
inductive Change (r : Chronicle) : Chronicle → Prop where
  /-- The worker has nothing to take or to send. -/
  | idle : Change r r
  /-- The operator makes a gesture. -/
  | asked {panel : Panel} {commands : List Command} (hasks : r.panel.Asks panel commands) :
      Change r { r with
        scene.session.panel := panel
        scene.session.commands := r.scene.session.commands ++ commands
        sent := r.sent ++ commands }
  /-- The worker takes the next command. -/
  | took {around : Surroundings} {w : Workflow} {c : Command} {rest : List Command}
      (hworker : r.scene.session.worker = .ready w)
      (hcommands : r.scene.session.commands = c :: rest) (hunsent : r.scene.unsent = []) :
      Change r { r with
        scene.session.worker := (Worker.handle around w c).worker
        scene.session.commands := rest
        scene.unsent := (Worker.handle around w c).messages
        taken := r.taken ++ [(c, Worker.handle around w c)] }
  /-- The worker sends the next message. -/
  | told {m : Message} {unsent : List Message} (hunsent : r.scene.unsent = m :: unsent) :
      Change r { r with
        scene := ⟨r.scene.session.deliver m, unsent⟩
        told := r.told ++ [m] }
  /-- All notices are delivered. -/
  | heard : Change r { r with
      scene.session := r.scene.session.hearAll
      heard := r.heard ++ r.scene.session.notices }
  /-- All updates are delivered. -/
  | accepted : Change r { r with
      scene.session := r.scene.session.acceptAll
      accepted := r.accepted ++ r.scene.session.updates }

variable {r r' : Chronicle}

/-- A gesture is a change in which the operator asks for something. -/
theorem gesture_change (hworker : r.scene.session.worker ≠ .gone) (g : Gesture) :
    Change r (r.after (.gesture g)) := by
  obtain ⟨panel, commands, hasks, hsession⟩ := Session.receive_asks hworker g
  have hasked : r.asked g = commands := by
    rw [asked, hsession]
    exact List.drop_left
  have hchange := Change.asked hasks
  simpa only [after, Scene.after, hasked, hsession] using hchange

/-- A turn of the worker is a change in which it takes a command, or none. -/
theorem take_change (r : Chronicle) (around : Surroundings) :
    Change r (r.after (.take around)) := by
  cases htaken : r.scene.taken? around with
  | none =>
    have hidle := Change.idle (r := r)
    simpa [after, Scene.after, Scene.take, htaken] using hidle
  | some x =>
    obtain ⟨c, h⟩ := x
    obtain ⟨w, rest, hworker, hcommands, hunsent, rfl⟩ := Scene.taken?_eq_some htaken
    have hchange := @Change.took r around _ _ _ hworker hcommands hunsent
    simpa [after, Scene.after, Scene.take, htaken, hcommands, Handled.worker] using hchange

/-- A message of the worker is a change, if there is one to send. -/
theorem tell_change (r : Chronicle) : Change r (r.after (.pass .tell)) := by
  cases hunsent : r.scene.unsent with
  | nil =>
    have hidle := Change.idle (r := r)
    simpa [after, Scene.after, Scene.pass, hunsent] using hidle
  | cons m unsent =>
    have hchange := Change.told hunsent
    simpa [after, Scene.after, Scene.pass, hunsent] using hchange

/-- Every beat changes a chronicle in one of these ways, unless there is no worker. -/
theorem after_change (hworker : r.scene.session.worker ≠ .gone) (b : Beat) :
    Change r (r.after b) := by
  cases b with
  | gesture g => exact gesture_change hworker g
  | take around => exact r.take_change around
  | pass passage =>
    cases passage with
    | tell => exact r.tell_change
    | hear => exact .heard
    | accept => exact .accepted

/-! ## What every chronicle is made of -/

/-- There is a worker; what was sent was taken or waits to be taken; what the commands
came to was told or is about to be; and what was told was delivered or is on its way. -/
structure Sound (r : Chronicle) : Prop where
  worker : r.scene.session.worker ≠ .gone
  sent : r.sent = r.taken.map Prod.fst ++ r.scene.session.commands
  messages : r.taken.flatMap (·.2.messages) = r.told ++ r.scene.unsent
  notices : r.told.filterMap Message.notice? = r.heard ++ r.scene.session.notices
  updates : r.told.filterMap Message.update? = r.accepted ++ r.scene.session.updates
  handled : ∀ x ∈ r.taken, ∃ around w, x.2 = Worker.handle around w x.1

/-- Before the first beat nothing was sent. -/
theorem sound_start (c : Catalogue) : (start c).Sound where
  worker := by simp [start, Scene.start, Session.start]
  sent := rfl
  messages := rfl
  notices := rfl
  updates := rfl
  handled := by simp [start]

/-- The worker takes the command that was sent first of those that wait. -/
private theorem Sound.took (hr : r.Sound) {around : Surroundings} {w : Workflow} {c : Command}
    {rest : List Command} (hcommands : r.scene.session.commands = c :: rest)
    (hunsent : r.scene.unsent = []) :
    Sound { r with
      scene.session.worker := (Worker.handle around w c).worker
      scene.session.commands := rest
      scene.unsent := (Worker.handle around w c).messages
      taken := r.taken ++ [(c, Worker.handle around w c)] } := by
  have htold : r.taken.flatMap (·.2.messages) = r.told := by
    rw [hr.messages, hunsent, List.append_nil]
  refine ⟨Handled.worker_ne_gone _, ?_, ?_, hr.notices, hr.updates, ?_⟩
  · simp [hr.sent, hcommands]
  · simp [htold]
  · simp only [List.forall_mem_append, List.forall_mem_singleton]
    exact ⟨hr.handled, around, w, rfl⟩

/-- The worker sends the first of its messages. -/
private theorem Sound.telling (hr : r.Sound) {m : Message} {unsent : List Message}
    (hunsent : r.scene.unsent = m :: unsent) :
    Sound { r with
      scene := ⟨r.scene.session.deliver m, unsent⟩
      told := r.told ++ [m] } := by
  have hmessages : r.taken.flatMap (·.2.messages) = (r.told ++ [m]) ++ unsent := by
    rw [hr.messages, hunsent, List.append_assoc]
    rfl
  cases m with
  | notice n =>
    refine ⟨hr.worker, hr.sent, hmessages, ?_, ?_, hr.handled⟩
    · simp [hr.notices, Message.notice?, Session.deliver]
    · simp [hr.updates, Message.update?, Session.deliver]
  | update u =>
    refine ⟨hr.worker, hr.sent, hmessages, ?_, ?_, hr.handled⟩
    · simp [hr.notices, Message.notice?, Session.deliver]
    · simp [hr.updates, Message.update?, Session.deliver]

/-- Every change of a chronicle keeps what it is made of. -/
theorem Sound.change (hr : r.Sound) (hchange : Change r r') : r'.Sound := by
  cases hchange with
  | idle => exact hr
  | asked => exact { hr with sent := by simp [hr.sent] }
  | took _ hcommands hunsent => exact hr.took hcommands hunsent
  | told hunsent => exact hr.telling hunsent
  | heard => exact { hr with notices := by simp [hr.notices, Session.hearAll] }
  | accepted => exact { hr with updates := by simp [hr.updates, Session.acceptAll] }

/-- The notices of all commands are those among all their messages. -/
theorem flatMap_notices (taken : List (Command × Handled)) : taken.flatMap (·.2.notices) =
    (taken.flatMap (·.2.messages)).filterMap Message.notice? := by
  rw [List.filterMap_flatMap]
  rfl

/-- The updates of all commands are those among all their messages. -/
theorem flatMap_updates (taken : List (Command × Handled)) : taken.flatMap (·.2.updates) =
    (taken.flatMap (·.2.messages)).filterMap Message.update? := by
  rw [List.filterMap_flatMap]
  rfl

/-- The updates of all commands, by where they are. -/
theorem Sound.updates_taken (hr : r.Sound) : r.taken.flatMap (·.2.updates) =
    r.accepted ++ (r.scene.session.updates ++ r.scene.unsent.filterMap Message.update?) := by
  rw [flatMap_updates, hr.messages, List.filterMap_append, hr.updates, List.append_assoc]

/-! ## Induction over chronicles -/

/-- A chronicle follows the beats in parts. -/
theorem follow_append (r : Chronicle) (beats more : List Beat) :
    r.follow (beats ++ more) = (r.follow beats).follow more :=
  List.foldl_append

/-- The last beat of a chronicle comes last. -/
theorem ofBeats_concat (c : Catalogue) (beats : List Beat) (b : Beat) :
    ofBeats c (beats ++ [b]) = (ofBeats c beats).after b :=
  follow_append _ _ _

/-- A chronicle follows the course and does not take part in it. -/
theorem scene_follow (r : Chronicle) (beats : List Beat) :
    (r.follow beats).scene = beats.foldl Scene.after r.scene := by
  induction beats generalizing r with
  | nil => rfl
  | cons b beats ih =>
    have hscene : (r.after b).scene = r.scene.after b := by
      cases b with
      | gesture | take => rfl
      | pass passage => cases passage <;> rfl
    exact (ih (r.after b)).trans (by rw [hscene]; rfl)

/-- A sound chronicle stays sound. -/
theorem Sound.follow (hr : r.Sound) (beats : List Beat) : (r.follow beats).Sound := by
  induction beats generalizing r with
  | nil => exact hr
  | cons b beats ih => exact ih (hr.change (after_change hr.worker b))

/-- Every chronicle is sound. -/
theorem sound_ofBeats (c : Catalogue) (beats : List Beat) : (ofBeats c beats).Sound :=
  (sound_start c).follow beats

/-- Induction over chronicles: one more beat changes a sound chronicle in one of these
ways. -/
theorem ofBeats_induction {motive : Chronicle → Prop} (c : Catalogue) (start : motive (start c))
    (change : ∀ r r', Sound r → Change r r' → motive r → motive r') (beats : List Beat) :
    motive (ofBeats c beats) := by
  induction beats using List.reverseRecOn with
  | nil => exact start
  | append_singleton beats b ih =>
    have hsound := sound_ofBeats c beats
    rw [ofBeats_concat]
    exact change _ _ hsound (after_change hsound.worker b) ih

end Chronicle

end ArchiveDesk
