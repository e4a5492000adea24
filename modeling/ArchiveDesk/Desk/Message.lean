import ArchiveDesk.Lifecycle.Lookup
import ArchiveDesk.Upload.Workflow

/-!
# Messages between the desk and its worker

The desk sends commands, and the worker carries them out one after the other. The
worker sends what the workflow reports, and updates of its own.
-/

namespace ArchiveDesk

/-- What the desk asks of the worker. -/
inductive Command where
  /-- Puts the file at a path into the upload slot. -/
  | selectFile (path : String)
  | submit
  | answer (choice : Choice)
  | delete
  | reload
  /-- Looks a lifecycle up. -/
  | fetch (kind : Lifecycle.Kind) (id : String)
  deriving DecidableEq, Repr

/-- What the worker tells the desk about itself. -/
inductive Update where
  /-- A command begins or has ended. -/
  | busy (value : Bool)
  /-- A command was refused, or the worker could not start. -/
  | failed (cause : Failure)
  /-- A lookup has its result. -/
  | lifecycle (kind : Lifecycle.Kind) (id : String) (result : Lifecycle.Result)

/-- Anything that the worker sends. -/
inductive Message where
  | notice (n : Notice)
  | update (u : Update)

namespace Message

/-- The notice of a message. -/
def notice? : Message → Option Notice
  | notice n => some n
  | update _ => none

/-- The update of a message. -/
def update? : Message → Option Update
  | update u => some u
  | notice _ => none

end Message

end ArchiveDesk
