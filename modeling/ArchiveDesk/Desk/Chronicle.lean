import ArchiveDesk.Desk.Course

/-!
# The chronicle of a course

A chronicle follows a session through a course and writes down, in their order, all
commands that were sent and those that the worker took, all messages that the worker
sent, and all notices and updates that were delivered.
-/

namespace ArchiveDesk

/-- A scene with everything that has passed before. -/
structure Chronicle where
  scene : Scene
  /-- The commands that were sent. -/
  sent : List Command
  /-- The commands that the worker took, and what they come to. -/
  taken : List (Command × Handled)
  /-- The messages that the worker sent. -/
  told : List Message
  /-- The notices that were delivered. -/
  heard : List Notice
  /-- The updates that were delivered. -/
  accepted : List Update

namespace Chronicle

/-- Before the first beat. -/
def start (c : Catalogue) : Chronicle := ⟨.start c, [], [], [], [], []⟩

/-- The panel of the scene. -/
def panel (r : Chronicle) : Panel := r.scene.session.panel

/-- The commands that a gesture sends: those that the session has more than before. -/
def asked (r : Chronicle) (g : Gesture) : List Command :=
  (r.scene.session.receive g).commands.drop r.scene.session.commands.length

/-- The chronicle after a beat. -/
def after (r : Chronicle) (b : Beat) : Chronicle :=
  let r' := { r with scene := r.scene.after b }
  match b with
  | .gesture g => { r' with sent := r.sent ++ r.asked g }
  | .take around => { r' with taken := r.taken ++ (r.scene.taken? around).toList }
  | .pass .tell => { r' with told := r.told ++ r.scene.unsent.take 1 }
  | .pass .hear => { r' with heard := r.heard ++ r.scene.session.notices }
  | .pass .accept => { r' with accepted := r.accepted ++ r.scene.session.updates }

/-- The chronicle after some beats. -/
def follow (r : Chronicle) (beats : List Beat) : Chronicle := beats.foldl after r

/-- The chronicle of a session from its start. -/
def ofBeats (c : Catalogue) (beats : List Beat) : Chronicle := (start c).follow beats

end Chronicle

end ArchiveDesk
