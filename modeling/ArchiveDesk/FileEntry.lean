import ArchiveDesk.Failure

/-!
# Files

What lies at the end of a path, and reading it. A read that fails names its
cause in the words of the operating system, which has more causes than the ones
that a path by itself can lead to.
-/

namespace ArchiveDesk

/-- Why a file could not be read. -/
inductive FileFault where
  | notFound
  | permissionDenied
  | notADirectory
  | isADirectory
  | nameTooLong
  /-- The path holds a NUL character. -/
  | nulInPath
  /-- The path does not end in a file name. -/
  | noFileName
  /-- The bytes are not a UTF-8 text. -/
  | notText
  /-- Any other cause that the system names. -/
  | other (words : String)
  deriving DecidableEq, Repr

namespace FileFault

/-- The fault in words. -/
def message : FileFault → String
  | notFound => "No such file or directory (os error 2)"
  | permissionDenied => "Permission denied (os error 13)"
  | notADirectory => "Not a directory (os error 20)"
  | isADirectory => "Is a directory (os error 21)"
  | nameTooLong => "File name too long (os error 36)"
  | nulInPath => "file name contained an unexpected NUL byte"
  | noFileName => "invalid file name"
  | notText => "stream did not contain valid UTF-8"
  | other words => words

/-- The fault as a failure of an operation. -/
def failure (f : FileFault) : Failure := .io f.message

end FileFault

/-- What lies at a path. -/
inductive FileEntry where
  | absent
  | directory
  | file (content : ByteArray)
  /-- Something that the system neither reads nor enters, and the cause it gives. -/
  | barred (cause : FileFault)

namespace FileEntry

/-- Reads the bytes of a file. -/
def read : FileEntry → Except FileFault ByteArray
  | absent => .error .notFound
  | directory => .error .isADirectory
  | file content => .ok content
  | barred cause => .error cause

/-- Reads a file as a text. -/
def readText (e : FileEntry) : Except FileFault String := do
  match String.fromUTF8? (← e.read) with
  | some text => .ok text
  | none => .error .notText

end FileEntry

end ArchiveDesk
