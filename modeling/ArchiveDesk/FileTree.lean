import ArchiveDesk.FileEntry
import ArchiveDesk.Text.Pieces

/-!
# A tree of files

The files of a system, and how a path leads to one of them. A path that begins with
a slash starts at the root, any other in the working directory. Segments are parted
by slashes; empty segments and single dots stay in place, two dots go up, and at the
root stay there. A path through something that is no directory leads nowhere.
-/

namespace ArchiveDesk

/-- The files below the root, by their segments. -/
structure FileTree where
  /-- The place of the working directory. -/
  home : List String
  /-- The places where something lies. -/
  entries : List (List String × FileEntry)

namespace FileTree

/-- The segments of a path. -/
def segments (path : String) : List String :=
  (Text.pieces (· == '/') path.toList).map String.ofList

/-- Whether a segment names an entry of its own. -/
private def isPlain (segment : String) : Bool := segment != "" && segment != "."

/-- The place where a path starts. -/
private def origin (home : List String) (path : String) : List String :=
  if path.startsWith "/" then [] else home

/-- What lies at a place. A place above another entry is a directory, and so is one
above the working directory. -/
def entryAt (t : FileTree) (place : List String) : FileEntry :=
  match t.entries.find? (·.1 == place) with
  | some e => e.2
  | none =>
    if place.isPrefixOf t.home || t.entries.any (fun e => place.isPrefixOf e.1) then .directory
    else .absent

/-- The tree of the entries that were created at paths, the last one winning. -/
def ofPaths (files : List (String × FileEntry)) (home : List String := ["home"]) : FileTree :=
  ⟨home, files.reverse.map fun e => (origin home e.1 ++ (segments e.1).filter isPlain, e.2)⟩

/-- The greatest length of a segment, in bytes. -/
def segmentLimit : Nat := 255

/-- The length from which a path is too long, in bytes. -/
def pathLimit : Nat := 4096

/-- Follows segments from a place. -/
private def walk (t : FileTree) (place : List String) : List String → Except FileFault FileEntry
  | [] => .ok (t.entryAt place)
  | segment :: rest =>
    match t.entryAt place with
    | .absent => .error .notFound
    | .file _ => .error .notADirectory
    | .barred cause => .error cause
    | .directory =>
      if segment = "" ∨ segment = "." then walk t place rest
      else if segment = ".." then walk t place.dropLast rest
      else if segmentLimit < segment.utf8ByteSize then .error .nameTooLong
      else walk t (place ++ [segment]) rest

/-- What a path leads to. -/
def resolve (t : FileTree) (path : String) : Except FileFault FileEntry :=
  if path.toList.contains '\x00' then .error .nulInPath
  else if path.isEmpty then .error .notFound
  else if pathLimit ≤ path.utf8ByteSize then .error .nameTooLong
  else walk t (origin t.home path) (segments path)

/-- Reads the file that a path leads to. -/
def read (t : FileTree) (path : String) : Except FileFault ByteArray := do
  (← t.resolve path).read

/-- The name of the file that a path ends in. Dots that stay in place are passed
over; a path that ends by going up has no file name. -/
def fileName? (path : String) : Option String :=
  match ((segments path).filter isPlain).getLast? with
  | some ".." => none
  | last => last

end FileTree

end ArchiveDesk
