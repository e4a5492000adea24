import ArchiveDesk.Proofs.Desk.Session

/-!
# Polls in portions

Notices and updates wait in queues of their own, and a poll finds as much of each as has
arrived by then. A notice and an update concern different things: notices the upload,
its dialog and the log, updates the open view and whether a command is under way. Only
the error is changed by both. So apart from the error the panel shows the same in the
end, whatever portions the polls have found.
-/

namespace ArchiveDesk

namespace Panel

/-- The panel without its error. -/
def withoutError (p : Panel) : Panel := { p with error := none }

/-- Two panels show the same, apart from the error. -/
def SameButError (p q : Panel) : Prop := p.withoutError = q.withoutError

variable {p q r : Panel}

/-- A panel is the same as itself. -/
theorem SameButError.rfl : p.SameButError p := Eq.refl _

/-- Being the same but for the error is symmetric. -/
theorem SameButError.symm (h : p.SameButError q) : q.SameButError p := Eq.symm h

/-- Being the same but for the error is transitive. -/
theorem SameButError.trans (h : p.SameButError q) (h' : q.SameButError r) : p.SameButError r :=
  Eq.trans h h'

/-- What does not read the error is the same in both panels. -/
theorem SameButError.congr {α : Type} (h : p.SameButError q) (f : Panel → α)
    (hf : ∀ p, f p.withoutError = f p) : f p = f q := by
  rw [← hf p, h, hf q]

/-- What a notice does beside the error does not depend on the error. -/
theorem withoutError_hear (p : Panel) (n : Notice) :
    (p.hear n).withoutError = (p.withoutError.hear n).withoutError := by
  cases n <;> rfl

/-- What an update does beside the error does not depend on the error. -/
theorem withoutError_accept (p : Panel) (u : Update) :
    (p.accept u).withoutError = (p.withoutError.accept u).withoutError := by
  cases u <;> rfl

/-- A notice changes alike two panels that are the same but for the error. -/
theorem SameButError.hear (h : p.SameButError q) (n : Notice) :
    (p.hear n).SameButError (q.hear n) := by
  rw [SameButError, withoutError_hear, h, ← withoutError_hear]

/-- An update changes alike two panels that are the same but for the error. -/
theorem SameButError.accept (h : p.SameButError q) (u : Update) :
    (p.accept u).SameButError (q.accept u) := by
  rw [SameButError, withoutError_accept, h, ← withoutError_accept]

/-- Notices change alike two panels that are the same but for the error. -/
theorem SameButError.foldl_hear (h : p.SameButError q) (notices : List Notice) :
    (notices.foldl Panel.hear p).SameButError (notices.foldl Panel.hear q) := by
  induction notices generalizing p q with
  | nil => exact h
  | cons n notices ih => exact ih (h.hear n)

/-- Updates change alike two panels that are the same but for the error. -/
theorem SameButError.foldl_accept (h : p.SameButError q) (updates : List Update) :
    (updates.foldl Panel.accept p).SameButError (updates.foldl Panel.accept q) := by
  induction updates generalizing p q with
  | nil => exact h
  | cons u updates ih => exact ih (h.accept u)

/-- A notice and an update concern different things. -/
theorem hear_accept (p : Panel) (n : Notice) (u : Update) :
    ((p.accept u).hear n).SameButError ((p.hear n).accept u) := by
  cases n <;> cases u <;> rfl

/-- An update may come before all notices. -/
theorem foldl_hear_accept (p : Panel) (notices : List Notice) (u : Update) :
    (notices.foldl hear (p.accept u)).SameButError ((notices.foldl hear p).accept u) := by
  induction notices generalizing p with
  | nil => exact .rfl
  | cons n notices ih => exact ((p.hear_accept n u).foldl_hear notices).trans (ih (p.hear n))

/-- All updates may come before all notices. -/
theorem foldl_hear_foldl_accept (p : Panel) (notices : List Notice) (updates : List Update) :
    (notices.foldl hear (updates.foldl accept p)).SameButError
      (updates.foldl accept (notices.foldl hear p)) := by
  induction updates generalizing p with
  | nil => exact .rfl
  | cons u updates ih =>
    exact (ih (p.accept u)).trans ((p.foldl_hear_accept notices u).foldl_accept updates)

end Panel

/-- How many notices and updates a poll finds. -/
structure Portion where
  notices : Nat
  updates : Nat

namespace Session

/-- A poll that finds a portion of both queues. The rest has not arrived yet. -/
def pollPortion (s : Session) (portion : Portion) : Session :=
  { s with
    panel := (s.updates.take portion.updates).foldl Panel.accept
      ((s.notices.take portion.notices).foldl Panel.hear s.panel)
    notices := s.notices.drop portion.notices
    updates := s.updates.drop portion.updates }

/-- Polls that find some portions, one after the other. -/
def pollPortions (s : Session) (portions : List Portion) : Session :=
  portions.foldl pollPortion s

/-- Nothing is on its way to the panel. -/
structure Quiet (s : Session) : Prop where
  notices : s.notices = []
  updates : s.updates = []

/-- A poll that finds nothing changes nothing. -/
theorem Quiet.poll_eq {s : Session} (hs : s.Quiet) : s.poll = s := by
  obtain ⟨catalogue, panel, worker, commands, notices, updates⟩ := s
  obtain ⟨rfl, rfl⟩ := hs
  rfl

/-- What a poll leaves in the queues may as well have been found by the poll after it. -/
theorem poll_pollPortion (s : Session) (portion : Portion) :
    (s.pollPortion portion).poll.panel.SameButError s.poll.panel := by
  obtain ⟨n, m⟩ := portion
  have hpoll : s.poll.panel =
      (s.updates.drop m).foldl Panel.accept ((s.updates.take m).foldl Panel.accept
        ((s.notices.drop n).foldl Panel.hear ((s.notices.take n).foldl Panel.hear s.panel))) := by
    rw [← List.foldl_append, ← List.foldl_append, List.take_append_drop, List.take_append_drop]
    rfl
  rw [hpoll]
  exact (Panel.foldl_hear_foldl_accept _ _ _).foldl_accept _

/-- After polls that find any portions, one more poll leaves what it alone would have left. -/
theorem poll_pollPortions (s : Session) (portions : List Portion) :
    (s.pollPortions portions).poll.panel.SameButError s.poll.panel := by
  induction portions generalizing s with
  | nil => exact .rfl
  | cons portion portions ih =>
    have hrest := ih (s.pollPortion portion)
    exact hrest.trans (s.poll_pollPortion portion)

/-- **The portions of the polls do not matter.** Two sequences of polls that deliver the
same two queues to the same panel, each in portions of its own, leave panels that show
the same, apart from the error. -/
theorem pollPortions_sameButError (s : Session) {portions portions' : List Portion}
    (hportions : (s.pollPortions portions).Quiet) (hportions' : (s.pollPortions portions').Quiet) :
    (s.pollPortions portions).panel.SameButError (s.pollPortions portions').panel := by
  have hpoll := s.poll_pollPortions portions
  have hpoll' := s.poll_pollPortions portions'
  rw [hportions.poll_eq] at hpoll
  rw [hportions'.poll_eq] at hpoll'
  exact hpoll.trans hpoll'.symm

/-- A file has been selected, another one refused, and the view reloaded. -/
def refusedAndReloaded : Session :=
  { start .bare with
    notices := [.selected "a" 0, .viewReloaded]
    updates := [.busy true, .busy false, .busy true, .failed .slotTaken, .busy false, .busy true,
      .busy false] }

/-- A poll in between makes a difference to the error, but to nothing else. -/
theorem pollPortions_sameButError_refusedAndReloaded :
    (refusedAndReloaded.pollPortions [⟨1, 5⟩, ⟨1, 2⟩]).Quiet ∧
      (refusedAndReloaded.pollPortions [⟨2, 7⟩]).Quiet ∧
      (refusedAndReloaded.pollPortions [⟨1, 5⟩, ⟨1, 2⟩]).panel.SameButError
        (refusedAndReloaded.pollPortions [⟨2, 7⟩]).panel ∧
      (refusedAndReloaded.pollPortions [⟨1, 5⟩, ⟨1, 2⟩]).panel.error ≠
        (refusedAndReloaded.pollPortions [⟨2, 7⟩]).panel.error := by
  have hportions : (refusedAndReloaded.pollPortions [⟨1, 5⟩, ⟨1, 2⟩]).Quiet := ⟨rfl, rfl⟩
  have hportions' : (refusedAndReloaded.pollPortions [⟨2, 7⟩]).Quiet := ⟨rfl, rfl⟩
  exact ⟨hportions, hportions', pollPortions_sameButError _ hportions hportions', by decide⟩

end Session

end ArchiveDesk
