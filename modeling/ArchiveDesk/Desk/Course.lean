import ArchiveDesk.Desk.Journal

/-!
# Courses of a session

How a session goes on, told from outside. In a course the operator, the worker and
the polls take their turns in any order, also while a command is under way, and the
operator does whatever comes to mind, offered or not. In rounds the operator keeps to
what the page offers and waits each time until the worker has finished and the panel
has heard of it.
-/

namespace ArchiveDesk

/-! ## Gestures of the operator -/

/-- What the operator does at the desk. -/
inductive Gesture where
  /-- A click on the page. -/
  | press (press : Press)
  /-- The choice of a file, in the dialog that the page opens for it. -/
  | choose (path : String)
  /-- Filling in the form of a lookup. -/
  | fill (form : LookupForm)

/-- Whether the page offers a gesture. A file can be chosen while its button can be
clicked. -/
def Panel.OffersGesture (p : Panel) : Gesture → Prop
  | .press press => press ∈ p.presses
  | .choose _ => .browse ∈ p.presses
  | .fill _ => True

instance (p : Panel) : DecidablePred p.OffersGesture := fun g =>
  match g with
  | .press press => inferInstanceAs (Decidable (press ∈ p.presses))
  | .choose _ => inferInstanceAs (Decidable (.browse ∈ p.presses))
  | .fill _ => inferInstanceAs (Decidable True)

/-- The session after a gesture, whether it is offered or not. -/
def Session.receive (s : Session) : Gesture → Session
  | .press press => s.press press
  | .choose path => s.act (.chooseFile path)
  | .fill form => s.mapPanel fun p => { p with form }

/-- What can happen to a desk, whatever stands behind it: a message arrives, or the
operator does something. -/
inductive Happening where
  | message (m : Message)
  | gesture (g : Gesture)

namespace Happening

/-- The notice that arrives. -/
def notice? : Happening → Option Notice
  | message m => m.notice?
  | gesture _ => none

end Happening

/-- The session after something has happened to the desk. -/
def Session.undergo (s : Session) : Happening → Session
  | .message (.notice n) => s.mapPanel (·.hear n)
  | .message (.update u) => s.mapPanel (·.accept u)
  | .gesture g => s.receive g

/-! ## Courses -/

/-- What passes between the worker and the panel while a command is under way. -/
inductive Passage where
  /-- The worker sends the next message of its command. -/
  | tell
  /-- A poll begins, and all notices are delivered. -/
  | hear
  /-- A poll goes on, and all updates are delivered. -/
  | accept

/-- One beat of a course. -/
inductive Beat where
  | gesture (g : Gesture)
  /-- The worker takes a command. -/
  | take (around : Surroundings)
  | pass (passage : Passage)

/-- A session whose worker may be in the middle of a command. -/
structure Scene where
  session : Session
  /-- The messages that the worker has yet to send, oldest first. -/
  unsent : List Message

namespace Scene

/-- Before the first beat. -/
def start (c : Catalogue) : Scene := ⟨.start c, []⟩

/-- The command that the worker can take, and what it comes to. The worker is done with
one command before it takes another. -/
def taken? (around : Surroundings) (s : Scene) : Option (Command × Handled) :=
  match s.session.worker, s.session.commands, s.unsent with
  | .ready w, c :: _, [] => some (c, Worker.handle around w c)
  | _, _, _ => none

/-- The worker takes a command, if it can. -/
def take (around : Surroundings) (s : Scene) : Scene :=
  match s.taken? around with
  | none => s
  | some (_, h) =>
    let worker : WorkerState := if h.isEnded then .ready h.state else .waiting h.state
    ⟨{ s.session with worker, commands := s.session.commands.tail }, h.messages⟩

/-- The scene after a passage. -/
def pass (s : Scene) : Passage → Scene
  | .tell =>
    match s.unsent with
    | [] => s
    | m :: unsent => ⟨s.session.deliver m, unsent⟩
  | .hear => { s with session := s.session.hearAll }
  | .accept => { s with session := s.session.acceptAll }

/-- The session once the worker has sent all the rest. -/
def finish (s : Scene) : Session := s.unsent.foldl Session.deliver s.session

/-- The scene after a beat. -/
def after (s : Scene) : Beat → Scene
  | .gesture g => { s with session := s.session.receive g }
  | .take around => s.take around
  | .pass passage => s.pass passage

/-- The scenes of a course, from the present one on. -/
def course (s : Scene) : List Beat → List Scene
  | [] => [s]
  | b :: beats => s :: (s.after b).course beats

/-- The command that the worker takes in a beat, and what it comes to. -/
def handling? (s : Scene) : Beat → Option (Command × Handled)
  | .take around => s.taken? around
  | .gesture _ | .pass _ => none

/-- The commands that the worker takes in a course, and what they come to. -/
def handlings (s : Scene) : List Beat → List (Command × Handled)
  | [] => []
  | b :: beats => (s.handling? b).toList ++ (s.after b).handlings beats

end Scene

/-! ## Rounds -/

/-- The server answers every file and every lookup. A deletion is always answered. -/
structure Surroundings.Answer (around : Surroundings) : Prop where
  send : ∀ item, around.remote.service.send item ≠ .silent
  lookup : ∀ kind id, around.remote.lookup kind id ≠ none

/-- A gesture, and what the command meets that may come of it. -/
structure Round where
  gesture : Gesture
  around : Surroundings
  answered : around.Answer
  /-- What passes before the command has ended. -/
  meanwhile : List Passage

namespace Session

/-- The operator makes the gesture of a round, if it is offered. -/
def ask (s : Session) (r : Round) : Session :=
  if s.panel.OffersGesture r.gesture then s.receive r.gesture else s

/-- The command that the worker takes in a round, and what it comes to. -/
def asked? (s : Session) (r : Round) : Option (Command × Handled) :=
  Scene.taken? r.around ⟨s.ask r, []⟩

/-- The worker takes the command of a round and ends it. -/
def fulfil (s : Session) (r : Round) : Session :=
  (r.meanwhile.foldl Scene.pass (Scene.take r.around ⟨s.ask r, []⟩)).finish

/-- A whole round: the gesture, the command and a poll. -/
def round (s : Session) (r : Round) : Session := (s.fulfil r).poll

end Session

end ArchiveDesk
