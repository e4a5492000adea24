import ArchiveDesk.Json.Basic
import ArchiveDesk.Number.Decimal

/-!
# Compact JSON texts

Values are written without blanks, members in key order. In strings the quote,
the backslash and the controls are escaped; all else stands as it is.
-/

namespace ArchiveDesk.Json

/-- A digit of a hexadecimal number, in lower case. -/
private def hexChar (n : Nat) : Char := Nat.digitChar (n % 16)

/-- A character as it stands in a string. -/
def writeChar (c : Char) : List Char :=
  if c == '"' then ['\\', '"']
  else if c == '\\' then ['\\', '\\']
  else if c == '\x08' then ['\\', 'b']
  else if c == '\x0c' then ['\\', 'f']
  else if c == '\n' then ['\\', 'n']
  else if c == '\r' then ['\\', 'r']
  else if c == '\t' then ['\\', 't']
  else if c.toNat < 0x20 then ['\\', 'u', '0', '0', hexChar (c.toNat / 16), hexChar c.toNat]
  else [c]

/-- A string in its quotes. -/
def writeText (s : String) : String :=
  String.ofList ('"' :: s.toList.flatMap writeChar ++ ['"'])

mutual

/-- The compact text of a value. -/
def write : Json → String
  | null => "null"
  | bool true => "true"
  | bool false => "false"
  | integer n => toString n
  | float x => x.text
  | text s => writeText s
  | array items => "[" ++ ",".intercalate (writeItems items) ++ "]"
  | object members =>
    let texts := (Fields.ofList (writeMembers members)).entries
    "\x7b" ++ ",".intercalate (texts.map fun e => writeText e.1 ++ ":" ++ e.2) ++ "\x7d"

/-- The texts of the items of an array. -/
def writeItems : List Json → List String
  | [] => []
  | item :: rest => write item :: writeItems rest

/-- The texts of the members of an object. -/
def writeMembers : List (String × Json) → List (String × String)
  | [] => []
  | (key, value) :: rest => (key, write value) :: writeMembers rest

end

end ArchiveDesk.Json
