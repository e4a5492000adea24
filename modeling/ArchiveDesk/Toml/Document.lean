import ArchiveDesk.Toml.Entries
import ArchiveDesk.Toml.Quoted
import ArchiveDesk.Toml.Scalar

/-!
# TOML documents

A document is a list of lines: each sets a key, opens a table, or is blank. The
lines in their order fill the tables.
-/

namespace ArchiveDesk.Toml

/-! ## Keys and values -/

/-- The least count of parts, and of nested values, that is refused. -/
def depthLimit : Nat := 80

/-- Whether a character may stand in a key without quotes. -/
def isBare (c : Char) : Bool := c.isAlphanum || c == '_' || c == '-'

/-- Takes a part of a key, and the blanks around it. -/
def keyPart : Reader String := do
  Reader.skipSpace
  let part ← match ← Reader.peek with
    | some '"' => Quoted.single Quoted.basic
    | some '\'' => Quoted.single Quoted.literal
    | _ => do
      let cs ← Reader.takeWhile isBare
      guard !cs.isEmpty
      pure (String.ofList cs)
  Reader.skipSpace
  return part

/-- Takes a key: parts with dots between them. -/
def key : Reader (List String) := do
  let first ← keyPart
  let rest ← Reader.many (do if ← Reader.accept "." then some <$> keyPart else return none)
  guard (rest.length + 1 < depthLimit)
  return first :: rest

/-- Takes a key, an equals sign and a value. -/
def pair (value : Reader Value) : Reader (List String × Value) := do
  let k ← key
  Reader.expect "="
  Reader.skipSpace
  return (k, ← value)

/-- Takes the items of an array and its closing bracket. A comma may follow the
last item. -/
def arrayItems (value : Reader Value) : Reader (List Value) :=
  Reader.many (do
    Reader.skipLines
    if ← Reader.accept "]" then return none
    let v ← value
    Reader.skipLines
    unless ← Reader.accept "," do guard ((← Reader.peek) = some ']')
    return some v)

/-- Takes the pairs of a table in braces and its closing brace. -/
def tablePairs (value : Reader Value) : Reader (List (List String × Value)) := do
  Reader.skipSpace
  if ← Reader.accept "\x7d" then return []
  let item : Reader (List String × Value) := do
    let p ← pair value
    Reader.skipSpace
    return p
  let first ← item
  let rest ← Reader.many (do
    if ← Reader.accept "," then some <$> item
    else do
      Reader.expect "\x7d"
      return none)
  return first :: rest

/-- Takes a value in which arrays and tables are nested at most a number of levels
deep. -/
def value (levels : Nat) : Reader Value := do
  match ← Reader.peek, levels with
  | some '"', _ => .text <$> Quoted.text Quoted.basic
  | some '\'', _ => .text <$> Quoted.text Quoted.literal
  | some '[', inner + 1 => do
    Reader.expect "["
    .array <$> arrayItems (value inner)
  | some '\x7b', inner + 1 => do
    Reader.expect "\x7b"
    let pairs ← tablePairs (value inner)
    let entries ← (pairs.foldlM (fun e (k, v) => Entries.assign v k e) [] : Option Entries)
    return .table .inline entries
  | some 't', _ => do
    Reader.expect "true"
    return .bool true
  | some 'f', _ => do
    Reader.expect "false"
    return .bool false
  | _, _ => Scalar.moment <|> Scalar.number

/-! ## Lines -/

/-- What a line does. -/
inductive Statement where
  | blank
  /-- Sets a value. -/
  | pair (key : List String) (value : Value)
  /-- Opens a table. -/
  | table (key : List String)
  /-- Opens a further element of an array of tables. -/
  | element (key : List String)

/-- Takes a line, unless the text is at its end. -/
def statement : Reader (Option Statement) := do
  if ← Reader.atEnd then return none
  Reader.skipSpace
  let s ← match ← Reader.peek with
    | none => pure .blank
    | some '#' => pure .blank
    | some '\n' => pure .blank
    | some '\r' => pure .blank
    | some '[' => do
      if ← Reader.accept "[[" then
        let k ← key
        Reader.expect "]]"
        pure (Statement.element k)
      else
        Reader.expect "["
        let k ← key
        Reader.expect "]"
        pure (.table k)
    | some _ => do
      let (k, v) ← pair (value (depthLimit - 1))
      pure (.pair k v)
  Reader.endLine
  return some s

/-- The lines of a text. A byte order mark may stand in front. -/
def statements? (cs : List Char) : Option (List Statement) :=
  let cs := match cs with
    | '\ufeff' :: rest => rest
    | _ => cs
  Reader.whole? (Reader.many statement) cs

/-! ## Documents -/

/-- The tables so far, and the path of the one that keys are set in. -/
structure Progress where
  entries : Entries
  current : List String

/-- Does what a line does, unless that is refused. -/
def Progress.apply (p : Progress) : Statement → Option Progress
  | .blank => some p
  | .pair k v => do
    return { p with entries := ← Entries.within (Entries.assign v k) p.current p.entries }
  | .table k => do
    let name ← k.getLast?
    return ⟨← Entries.within (Entries.openTable name) k.dropLast p.entries, k⟩
  | .element k => do
    let name ← k.getLast?
    return ⟨← Entries.within (Entries.openElement name) k.dropLast p.entries, k⟩

/-- The entries of a document. -/
def parse? (s : String) : Option Entries := do
  let lines ← statements? s.toList
  return (← lines.foldlM Progress.apply ⟨[], []⟩).entries

end ArchiveDesk.Toml
