import ArchiveDesk.FileTree
import ArchiveDesk.Text.Quoted

/-!
# The file in the upload slot

A referential file with its bytes, the endpoint it is meant for and how far it
has come.
-/

namespace ArchiveDesk

/-- The endpoint that a file is sent to. -/
inductive Target where
  | check
  | commit
  deriving DecidableEq, Repr

/-- The target's name. -/
def Target.name : Target → String
  | check => "Check"
  | commit => "Commit"

/-- How far a file has come. -/
inductive Status where
  | queued
  | inFlight
  | succeeded
  | failed
  deriving DecidableEq, Repr

namespace Status

/-- The status's name. -/
def name : Status → String
  | queued => "Queued"
  | inFlight => "InFlight"
  | succeeded => "Succeeded"
  | failed => "Failed"

/-- A file that has succeeded or failed may be replaced by another one. -/
def isResolved : Status → Bool
  | succeeded | failed => true
  | queued | inFlight => false

end Status

/-- Bytes are compared as the language does, whatever a library adds. -/
instance (priority := high) decidableEqBytes : DecidableEq ByteArray := ByteArray.instDecidableEq

/-- A referential file. -/
structure Item where
  fileName : String
  content : ByteArray
  target : Target
  status : Status
  deriving DecidableEq

namespace Item

/-- A file that was just read: queued for the check. -/
def new (fileName : String) (content : ByteArray) : Item := ⟨fileName, content, .check, .queued⟩

/-- The count of bytes. -/
def size (i : Item) : Nat := i.content.size

/-- Reads the file at a path. -/
def ofPath (files : FileTree) (path : String) : Except Failure Item := do
  match FileTree.fileName? path with
  | none => .error FileFault.noFileName.failure
  | some name => .ok (new name (← (files.read path).mapError FileFault.failure))

/-- The file in one line, without its bytes. -/
def describe (i : Item) : String :=
  "UploadItem \x7b file_name: " ++ Text.quote i.fileName ++ ", target: " ++ i.target.name ++
    ", status: " ++ i.status.name ++ " \x7d"

end Item

end ArchiveDesk
