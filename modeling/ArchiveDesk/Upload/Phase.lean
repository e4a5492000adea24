/-!
# Phases of an upload

The stages through which the referential file in the upload slot passes.
-/

namespace ArchiveDesk

/-- The stage an upload has reached. -/
inductive Phase where
  /-- Nothing is under way; a file may be chosen and checked. -/
  | idle
  /-- The file has been sent to the format check. -/
  | checking
  /-- The check passed and the operator is asked to confirm the import. -/
  | awaitingConfirmation
  /-- The file has been sent for import, or its import was refused. -/
  | committing
  /-- The active referential is being deleted. -/
  | deleting
  /-- The import succeeded. -/
  | done
  /-- The check failed. -/
  | rejected
  deriving DecidableEq, Repr

namespace Phase

/-- The phase's name in messages and in the activity log. -/
def name : Phase → String
  | idle => "Idle"
  | checking => "Checking"
  | awaitingConfirmation => "AwaitingConfirmation"
  | committing => "Committing"
  | deleting => "Deleting"
  | done => "Done"
  | rejected => "Rejected"

/-- The status line that the operator reads. -/
def status : Phase → String
  | idle => "Ready"
  | checking => "Checking file…"
  | awaitingConfirmation => "Waiting for confirmation"
  | committing => "Importing…"
  | deleting => "Deleting referential…"
  | done => "Import complete"
  | rejected => "File rejected"

end Phase

end ArchiveDesk
