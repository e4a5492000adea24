import ArchiveDesk.Proofs.Desk.Chronicle

/-!
# Messages between the halves of a poll

A poll delivers the notices first and the updates after that, and the worker may send
something in between. What it sends then has no share in the first half. So a poll can
deliver the end of a command whose last notices it has missed, and the panel offers its
buttons for what it shows no longer. The file says exactly when this happens.
-/

namespace ArchiveDesk

/-- The message by which the worker ends a command. -/
def Message.ended : Message := .update (.busy false)

/-- Whether a message ends a command. -/
def Message.isEnd : Message → Bool
  | .update (.busy value) => !value
  | _ => false

/-- Some messages end a command if the one message that does so is among them. -/
theorem Message.any_isEnd_iff {messages : List Message} :
    messages.any (·.isEnd) = true ↔ .ended ∈ messages := by
  have hend (m : Message) : m.isEnd = true ↔ m = .ended := by
    cases m with
    | notice n => simp [isEnd, ended]
    | update u => cases u <;> simp [isEnd, ended]
  simp only [List.any_eq_true, hend, exists_eq_right]

/-- Among these messages, a command ends after a notice. -/
def EndsUnheard (messages : List Message) : Prop :=
  ∃ before after, messages = before ++ .ended :: after ∧ ∃ n, .notice n ∈ before

/-- Behind a notice every end of a command is one after a notice. -/
theorem endsUnheard_cons_notice (n : Notice) (messages : List Message) :
    EndsUnheard (.notice n :: messages) ↔ .ended ∈ messages := by
  constructor
  · rintro ⟨before, after, hsplit, n', hn'⟩
    cases before with
    | nil => cases hn'
    | cons m before =>
      obtain ⟨-, rfl⟩ := List.cons.inj hsplit
      exact List.mem_append_right _ List.mem_cons_self
  · intro hend
    obtain ⟨before, after, rfl⟩ := List.append_of_mem hend
    exact ⟨.notice n :: before, after, rfl, n, List.mem_cons_self⟩

/-- An update in front changes nothing about the ends behind it. -/
theorem endsUnheard_cons_update (u : Update) (messages : List Message) :
    EndsUnheard (.update u :: messages) ↔ EndsUnheard messages := by
  constructor
  · rintro ⟨before, after, hsplit, n, hn⟩
    cases before with
    | nil => cases hn
    | cons m before =>
      obtain ⟨rfl, rfl⟩ := List.cons.inj hsplit
      exact ⟨before, after, rfl, n, by simpa using hn⟩
  · rintro ⟨before, after, rfl, n, hn⟩
    exact ⟨.update u :: before, after, rfl, n, List.mem_cons_of_mem _ hn⟩

/-- A command ends after a notice if one ends after the first notice. -/
theorem endsUnheard_iff (messages : List Message) : EndsUnheard messages ↔
    (messages.dropWhile (·.notice?.isNone)).any (·.isEnd) = true := by
  induction messages with
  | nil => simp [EndsUnheard]
  | cons m messages ih =>
    cases m with
    | notice n =>
      rw [endsUnheard_cons_notice, ← Message.any_isEnd_iff]
      rfl
    | update u =>
      rw [endsUnheard_cons_update, ih]
      rfl

instance : DecidablePred EndsUnheard := fun messages =>
  decidable_of_iff _ (endsUnheard_iff messages).symm

/-! ## The ends of commands -/

namespace Worker

/-- The messages of a command, and at last its end, if it has one. -/
theorem messages_handle (around : Surroundings) (w : Workflow) (c : Command) :
    ∃ earlier, .ended ∉ earlier ∧ (handle around w c).messages =
      earlier ++ if (handle around w c).isEnded then [.ended] else [] := by
  let opening : List Message := [.update (.busy true)] ++
    (step around w c).notices.map .notice ++ (found around c).map .update
  have hfound : .busy false ∉ found around c := by
    cases c <;> simp [found]
  have hopening : .update (.busy false) ∉ opening := by
    simp [opening, hfound]
  have hmessages : (handle around w c).messages =
      opening ++ (closing (step around w c).outcome).map .update := by
    simp [handle, opening]
  rw [hmessages]
  cases houtcome : (step around w c).outcome with
  | completed => exact ⟨opening, hopening, by simp [handle, houtcome, closing, Message.ended]⟩
  | refused cause =>
    refine ⟨opening ++ [.update (.failed cause)], ?_, ?_⟩
    · simp [Message.ended, hopening]
    · simp [handle, houtcome, closing, Message.ended]
  | abandoned => exact ⟨opening, hopening, by simp [handle, houtcome, closing]⟩

/-- The end of a command is its last message. -/
theorem isEnded_of_messages_eq {around : Surroundings} {w : Workflow} {c : Command}
    {earlier later : List Message}
    (hmessages : (handle around w c).messages = earlier ++ .ended :: later) :
    (handle around w c).isEnded = true ∧ later = [] := by
  obtain ⟨opening, hopening, hhandle⟩ := messages_handle around w c
  rw [hhandle] at hmessages
  cases hended : (handle around w c).isEnded with
  | false =>
    rw [hended, if_neg Bool.false_ne_true, List.append_nil] at hmessages
    exact absurd (by simp [hmessages]) hopening
  | true =>
    rw [hended, if_pos rfl] at hmessages
    rcases split_concat hmessages with ⟨-, -, hlater⟩ | ⟨rest, -, hrest⟩
    · exact ⟨rfl, hlater⟩
    · exact absurd (by simp [hrest]) hopening

end Worker

section Taken

variable {taken : List (Command × Handled)} {x : Command × Handled}

/-- The messages of a command that has ended, and of those before it, end with its end. -/
theorem exists_messages_eq_concat_ended (before : List (Command × Handled))
    (hx : ∃ around w, x.2 = Worker.handle around w x.1) (hended : x.2.isEnded = true) :
    ∃ messages, (before ++ [x]).flatMap (·.2.messages) = messages ++ [.ended] := by
  obtain ⟨around, w, hhandle⟩ := hx
  obtain ⟨earlier, -, hmessages⟩ := Worker.messages_handle around w x.1
  rw [← hhandle, hended, if_pos rfl] at hmessages
  refine ⟨before.flatMap (·.2.messages) ++ earlier, ?_⟩
  rw [List.flatMap_append, List.flatMap_singleton, hmessages, List.append_assoc]

/-- Wherever an end stands among the messages, one of the commands has ended there. -/
theorem exists_isEnded_of_messages_eq
    (htaken : ∀ x ∈ taken, ∃ around w, x.2 = Worker.handle around w x.1)
    {earlier later : List Message}
    (hmessages : taken.flatMap (·.2.messages) = earlier ++ .ended :: later) :
    ∃ before x after, taken = before ++ x :: after ∧ x.2.isEnded = true ∧
      (before ++ [x]).flatMap (·.2.messages) = earlier ++ [.ended] := by
  induction taken generalizing earlier with
  | nil => simp at hmessages
  | cons x taken ih =>
    rw [List.forall_mem_cons] at htaken
    rw [List.flatMap_cons] at hmessages
    -- The end stands behind the messages of the first command, or it is the last of them.
    have hbehind : ∀ rest, earlier = x.2.messages ++ rest →
        taken.flatMap (·.2.messages) = rest ++ .ended :: later →
        ∃ before y after, x :: taken = before ++ y :: after ∧ y.2.isEnded = true ∧
          (before ++ [y]).flatMap (·.2.messages) = earlier ++ [.ended] := by
      rintro rest rfl hrest
      obtain ⟨before, y, after, rfl, hended, hy⟩ := ih htaken.2 hrest
      refine ⟨x :: before, y, after, rfl, hended, ?_⟩
      rw [List.cons_append, List.flatMap_cons, hy, List.append_assoc]
    rcases List.append_eq_append_iff.mp hmessages with ⟨rest, hearlier, hrest⟩ | ⟨rest, hx, hrest⟩
    · exact hbehind rest hearlier hrest
    · cases rest with
      | nil => exact hbehind [] (by simp [hx]) hrest.symm
      | cons m rest =>
        obtain ⟨rfl, -⟩ := List.cons.inj hrest
        obtain ⟨around, w, hhandle⟩ := htaken.1
        obtain ⟨hended, rfl⟩ := Worker.isEnded_of_messages_eq (hhandle ▸ hx)
        refine ⟨[], x, taken, rfl, hhandle ▸ hended, ?_⟩
        simpa using hx

end Taken

namespace Chronicle

variable {r : Chronicle}

/-- Of every command whose end was delivered, and of those before it, all notices were
delivered as well. -/
def CaughtUp (r : Chronicle) : Prop :=
  ∀ before x after, r.taken = before ++ x :: after → x.2.isEnded = true →
    (before ++ [x]).flatMap (·.2.updates) <+: r.accepted →
    (before ++ [x]).flatMap (·.2.notices) <+: r.heard

/-- An end is among the messages that were told if its update was. -/
theorem concat_ended_prefix {messages told unsent : List Message}
    (hmessages : messages ++ [Message.ended] <+: told ++ unsent)
    (hupdates : (messages ++ [Message.ended]).filterMap Message.update? <+:
      told.filterMap Message.update?) : messages ++ [Message.ended] <+: told := by
  rcases List.prefix_or_prefix_of_prefix hmessages (List.prefix_append told unsent) with
    htold | htold
  · exact htold
  · rcases List.prefix_concat_iff.mp htold with rfl | hshort
    · exact List.prefix_rfl
    · -- Then there would be fewer updates among those that were told.
      have hfewer := (hshort.filterMap Message.update?).length_le
      have hmore := hupdates.length_le
      rw [List.filterMap_append, List.length_append] at hmore
      have hone : ([.ended] : List Message).filterMap Message.update? = [.busy false] := rfl
      rw [hone, List.length_singleton] at hmore
      omega

/-- If no command ends after a notice among the last messages, the notices before an end
are among those before the last messages. -/
theorem notices_prefix_of_not_endsUnheard {messages told overtaking : List Message}
    (hmessages : messages ++ [Message.ended] <+: told ++ overtaking)
    (hovertaking : ¬ EndsUnheard overtaking) :
    (messages ++ [Message.ended]).filterMap Message.notice? <+:
      told.filterMap Message.notice? := by
  rcases List.prefix_or_prefix_of_prefix hmessages (List.prefix_append told overtaking) with
    htold | htold
  · exact htold.filterMap _
  · rcases List.prefix_concat_iff.mp htold with rfl | ⟨early, rfl⟩
    · exact List.prefix_rfl
    · rw [List.append_assoc, List.prefix_append_right_inj] at hmessages
      obtain ⟨late, rfl⟩ := hmessages
      have hsilent : (early ++ [Message.ended]).filterMap Message.notice? = [] := by
        rw [List.filterMap_eq_nil_iff]
        intro m hm
        cases m with
        | update u => rfl
        | notice n =>
          have hearly : .notice n ∈ early := by simpa [Message.ended] using hm
          exact absurd ⟨early, late, by simp, n, hearly⟩ hovertaking
      refine ⟨[], ?_⟩
      rw [List.append_assoc told, List.filterMap_append, hsilent, List.append_nil, List.append_nil]

/-- If all updates that were told have been delivered, and of the notices those that came
before the last few messages, then the panel is caught up unless a command ends after a
notice among these messages. -/
theorem Sound.caughtUp_iff (hr : r.Sound) {told overtaking : List Message}
    (htold : r.told = told ++ overtaking) (hheard : r.heard = told.filterMap Message.notice?)
    (haccepted : r.accepted = r.told.filterMap Message.update?) :
    r.CaughtUp ↔ ¬ EndsUnheard overtaking := by
  constructor
  · rintro hcaught ⟨early, late, hsplit, n, hn⟩
    have hmessages : r.taken.flatMap (·.2.messages) =
        (told ++ early) ++ .ended :: (late ++ r.scene.unsent) := by
      rw [hr.messages, htold, hsplit]
      simp
    obtain ⟨before, x, after, htaken, hended, hx⟩ :=
      exists_isEnded_of_messages_eq hr.handled hmessages
    have hupdates : (before ++ [x]).flatMap (·.2.updates) <+: r.accepted := by
      rw [flatMap_updates, hx, haccepted, htold, hsplit]
      exact List.IsPrefix.filterMap _ ⟨late, by simp⟩
    have hnotices := (hcaught before x after htaken hended hupdates).length_le
    have hmissed : 0 < (early.filterMap Message.notice?).length :=
      List.length_pos_of_mem (List.mem_filterMap.mpr ⟨_, hn, rfl⟩)
    rw [flatMap_notices, hx, hheard, List.filterMap_append, List.filterMap_append,
      List.length_append, List.length_append] at hnotices
    omega
  · intro hovertaking before x after htaken hended hupdates
    obtain ⟨messages, hx⟩ :=
      exists_messages_eq_concat_ended before (hr.handled x (by simp [htaken])) hended
    have hprefix : messages ++ [Message.ended] <+: r.told ++ r.scene.unsent := by
      rw [← hr.messages, htaken, ← hx]
      exact ⟨after.flatMap (·.2.messages), by simp⟩
    rw [flatMap_updates, hx, haccepted] at hupdates
    have hends := concat_ended_prefix hprefix hupdates
    rw [htold] at hends
    rw [flatMap_notices, hx, hheard]
    exact notices_prefix_of_not_endsUnheard hends hovertaking

end Chronicle

/-! ## The halves of a poll -/

/-- The worker does something, and nobody else. -/
def Beat.IsWorker : Beat → Prop
  | .take _ | .pass .tell => True
  | .gesture _ | .pass .hear | .pass .accept => False

instance : DecidablePred Beat.IsWorker := fun b =>
  match b with
  | .take _ | .pass .tell => inferInstanceAs (Decidable True)
  | .gesture _ | .pass .hear | .pass .accept => inferInstanceAs (Decidable False)

/-- A poll, and what comes between its halves. -/
def pollAmid (between : List Beat) : List Beat := .pass .hear :: (between ++ [.pass .accept])

namespace Chronicle

variable {r : Chronicle} {between : List Beat}

/-- The messages that the worker sends between the halves of a poll. -/
def overtaking (r : Chronicle) (between : List Beat) : List Message :=
  (r.follow (.pass .hear :: between)).told.drop r.told.length

/-- The worker sends messages, and delivers none. -/
theorem told_follow_isWorker (r : Chronicle) (hbetween : ∀ b ∈ between, b.IsWorker) :
    ∃ more, (r.follow between).told = r.told ++ more ∧ (r.follow between).heard = r.heard := by
  induction between generalizing r with
  | nil => exact ⟨[], (List.append_nil _).symm, rfl⟩
  | cons b between ih =>
    rw [List.forall_mem_cons] at hbetween
    obtain ⟨more, htold, hheard⟩ := ih (r.after b) hbetween.2
    have hb := hbetween.1
    cases b with
    | gesture g => exact hb.elim
    | take around => exact ⟨more, htold, hheard⟩
    | pass passage =>
      cases passage with
      | hear | accept => exact hb.elim
      | tell =>
        refine ⟨r.scene.unsent.take 1 ++ more, ?_, hheard⟩
        rw [← List.append_assoc]
        exact htold

/-- A poll leaves the panel caught up unless a command ends after a notice between its
halves. -/
theorem Sound.caughtUp_follow_pollAmid_iff (hr : r.Sound)
    (hbetween : ∀ b ∈ between, b.IsWorker) :
    (r.follow (pollAmid between)).CaughtUp ↔ ¬ EndsUnheard (r.overtaking between) := by
  let amid := (r.after (.pass .hear)).follow between
  obtain ⟨more, htold, hheard⟩ := told_follow_isWorker (r.after (.pass .hear)) hbetween
  have hmore : r.overtaking between = more := by
    change amid.told.drop r.told.length = more
    rw [htold]
    exact List.drop_left
  have hend : r.follow (pollAmid between) = amid.after (.pass .accept) :=
    follow_append (r.after (.pass .hear)) between [.pass .accept]
  have hsound : (amid.after (.pass .accept)).Sound := hend ▸ hr.follow (pollAmid between)
  rw [hend, hmore]
  refine hsound.caughtUp_iff htold ?_ ?_
  · exact hheard.trans hr.notices.symm
  · exact (hsound.updates.trans (List.append_nil _)).symm

/-- **Not busy means caught up, but for what overtakes.** After any course, the worker goes
on between the halves of a poll. After this poll the panel has heard all notices of every
command whose end it knows of, unless between the halves a command has ended after one of
its notices. -/
theorem ofBeats_pollAmid_caughtUp_iff (c : Catalogue) (beats : List Beat) {between : List Beat}
    (hbetween : ∀ b ∈ between, b.IsWorker) :
    ((ofBeats c beats).follow (pollAmid between)).CaughtUp ↔
      ¬ EndsUnheard ((ofBeats c beats).overtaking between) :=
  (sound_ofBeats c beats).caughtUp_follow_pollAmid_iff hbetween

/-- A file is selected and shown, and the operator asks for its check. -/
def submittedBeats : List Beat :=
  [.gesture (.choose "a"), .take .willing, .pass .tell, .pass .tell, .pass .tell, .pass .hear,
    .pass .accept, .gesture (.press (.act .submit))]

/-- The worker checks the file and sends some of its messages. -/
def checkingBeats (messages : Nat) : List Beat :=
  .take .willing :: List.replicate messages (.pass .tell)

/-- Between the halves of a poll the worker sends all of a check but its end. Then the
panel is not behind, since it is told that the worker is busy. -/
theorem ofBeats_pollAmid_caughtUp_checkingBeats :
    (∀ b ∈ checkingBeats 5, b.IsWorker) ∧
      ((ofBeats .bare submittedBeats).follow (pollAmid (checkingBeats 5))).CaughtUp := by
  have hworker : ∀ b ∈ checkingBeats 5, b.IsWorker := by decide
  have hheard : ¬ EndsUnheard ((ofBeats .bare submittedBeats).overtaking (checkingBeats 5)) := by
    decide +kernel
  exact ⟨hworker, (ofBeats_pollAmid_caughtUp_iff .bare submittedBeats hworker).mpr hheard⟩

/-- Between the halves of a poll the worker sends all of a check. Then the panel offers
another check, while the workflow waits for the answer to its dialog. -/
theorem exists_pollAmid_not_caughtUp :
    ∃ (beats between : List Beat), (∀ b ∈ between, b.IsWorker) ∧
      let r := (ofBeats .bare beats).follow (pollAmid between)
      ¬ r.CaughtUp ∧ r.panel.canSubmit = true ∧
        r.scene.session.worker.workflow?.bind (·.pending) = some .confirmImport := by
  refine ⟨submittedBeats, checkingBeats 6, by decide, ?_, ?_, ?_⟩
  · rw [(sound_ofBeats _ _).caughtUp_follow_pollAmid_iff (by decide), not_not]
    decide +kernel
  · decide +kernel
  · decide +kernel

end Chronicle

end ArchiveDesk
