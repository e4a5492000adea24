/-!
# Dialogs of the upload

The five dialogs that an upload can raise, and what each of them says. Only the
confirmation of an import can be declined; the others are acknowledged.
-/

namespace ArchiveDesk

/-- Which dialog is raised. -/
inductive PromptKind where
  /-- The check passed: import the file, or cancel. -/
  | confirmImport
  /-- The check failed. -/
  | invalidFile
  /-- The import succeeded. -/
  | imported
  /-- The import was refused. -/
  | alreadyExists
  /-- The referential was deleted. -/
  | referentialEmpty
  deriving DecidableEq, Repr

/-- The answer given to a dialog. -/
inductive Choice where
  | accept
  | decline
  deriving DecidableEq, Repr

namespace PromptKind

/-- The dialog's title. -/
def title : PromptKind → String
  | confirmImport => "Valid file, proceed with import?"
  | invalidFile => "Invalid file"
  | imported => "Format referential imported"
  | alreadyExists => "Format referential already exists"
  | referentialEmpty => "Format referential now empty"

/-- The label of the accepting button. -/
def acceptLabel : PromptKind → String
  | confirmImport => "Start import"
  | _ => "Close"

/-- The label of the declining button, if the dialog has one. -/
def declineLabel : PromptKind → Option String
  | confirmImport => some "Cancel import"
  | _ => none

end PromptKind

end ArchiveDesk
