import ArchiveDesk.Proofs.Desk.Dialogs
import ArchiveDesk.Proofs.Desk.Mirror
import ArchiveDesk.Proofs.Desk.Polls

/-!
# While a command is under way

The messages of a command are sent one after the other, and polls come in between.
Notices and updates have queues of their own, so an update may overtake a notice. But
they concern different things: notices the upload and its dialog, updates whether a
command is under way. What the panel shows of these in the end does therefore not depend
on when the polls came.
-/

namespace ArchiveDesk

namespace Panel

/-- Two panels show the same of the upload, the same dialog, and whether a command is
under way. -/
structure SameStatus (p q : Panel) : Prop extends p.SameUpload q where
  prompt : p.prompt = q.prompt
  busy : p.busy = q.busy

/-- What shows the same apart from the error shows the same status. -/
theorem SameButError.sameStatus {p q : Panel} (h : p.SameButError q) : p.SameStatus q where
  phase := h.congr phase fun _ => Eq.refl _
  selected := h.congr selected fun _ => Eq.refl _
  prompt := h.congr prompt fun _ => Eq.refl _
  busy := h.congr busy fun _ => Eq.refl _

end Panel

namespace Scene

/-- The worker takes the next command once it is ready and has sent everything. -/
theorem taken?_eq_some {s : Scene} {around : Surroundings} {c : Command} {h : Handled}
    (htaken : s.taken? around = some (c, h)) :
    ∃ w rest, s.session.worker = .ready w ∧ s.session.commands = c :: rest ∧ s.unsent = [] ∧
      h = Worker.handle around w c := by
  unfold taken? at htaken
  split at htaken
  · rename_i w _ rest hworker hcommands hunsent
    obtain ⟨rfl, rfl⟩ := Prod.mk.inj (Option.some.inj htaken)
    exact ⟨w, rest, hworker, hcommands, hunsent, rfl⟩
  · cases htaken

/-- A command that is taken is carried out on the workflow that the worker holds. -/
theorem handle_of_taken? {s : Scene} {around : Surroundings} {c : Command} {h : Handled}
    (htaken : s.taken? around = some (c, h)) :
    ∃ w, s.session.worker = .ready w ∧ h = Worker.handle around w c := by
  obtain ⟨w, _, hworker, _, _, hresult⟩ := taken?_eq_some htaken
  exact ⟨w, hworker, hresult⟩

/-- A worker that takes a command and sends all its messages has had its turn. -/
theorem finish_take (s : Session) (around : Surroundings) :
    (take around ⟨s, []⟩).finish = s.work around := by
  obtain ⟨catalogue, panel, worker, commands, notices, updates⟩ := s
  cases worker with
  | waiting | gone => rfl
  | ready w => cases commands <;> rfl

/-- The messages that are unsent join the queues in the end. -/
theorem finish_eq (s : Scene) : s.finish = { s.session with
    notices := s.session.notices ++ s.unsent.filterMap Message.notice?
    updates := s.session.updates ++ s.unsent.filterMap Message.update? } :=
  s.session.foldl_deliver s.unsent

/-- The panel that the poll at the end leaves. -/
theorem panel_poll_finish (s : Scene) : s.finish.poll.panel =
    (s.session.updates ++ s.unsent.filterMap Message.update?).foldl Panel.accept
      ((s.session.notices ++ s.unsent.filterMap Message.notice?).foldl Panel.hear
        s.session.panel) := by
  rw [finish_eq]
  rfl

/-- A message may be sent early. -/
theorem finish_tell (s : Scene) : (s.pass .tell).finish = s.finish := by
  obtain ⟨session, unsent⟩ := s
  cases unsent <;> rfl

/-- A passage leaves the worker and the commands alone. -/
theorem worker_pass (s : Scene) (passage : Passage) :
    (s.pass passage).session.worker = s.session.worker ∧
      (s.pass passage).session.commands = s.session.commands := by
  obtain ⟨session, unsent⟩ := s
  cases passage with
  | hear | accept => exact ⟨rfl, rfl⟩
  | tell =>
    cases unsent with
    | nil => exact ⟨rfl, rfl⟩
    | cons m unsent => cases m <;> exact ⟨rfl, rfl⟩

/-- A passage makes no difference to what the panel shows in the end, apart from the error. -/
theorem pass_sameButError (s : Scene) (passage : Passage) :
    (s.pass passage).finish.poll.panel.SameButError s.finish.poll.panel := by
  cases passage with
  | tell =>
    rw [finish_tell]
    exact .rfl
  | hear =>
    simp only [panel_poll_finish, pass, Session.hearAll, List.nil_append, List.foldl_append]
    exact .rfl
  | accept =>
    simp only [panel_poll_finish, pass, Session.acceptAll, List.nil_append]
    -- The updates that have arrived come first on both sides.
    rw [List.foldl_append (f := Panel.accept)]
    exact (Panel.foldl_hear_foldl_accept _ _ _).foldl_accept _

/-- Whatever passes meanwhile, the panel has the same status in the end. -/
theorem pass_sameStatus (s : Scene) (passage : Passage) :
    (s.pass passage).finish.poll.panel.SameStatus s.finish.poll.panel :=
  (s.pass_sameButError passage).sameStatus

end Scene

end ArchiveDesk
