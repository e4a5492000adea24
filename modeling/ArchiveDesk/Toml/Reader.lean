/-!
# Reading a text from the front

A reader takes a value off the front of a text or refuses the text. Repetition
ends because every item takes at least one character.
-/

namespace ArchiveDesk.Toml

/-- Takes a value off the front of a text. -/
abbrev Reader := StateT (List Char) Option

namespace Reader

/-- The next character, which stays in front. -/
def peek : Reader (Option Char) := fun cs => some (cs.head?, cs)

/-- Takes the next character. -/
def next : Reader Char
  | [] => none
  | c :: cs => some (c, cs)

/-- Takes the longest front of characters that satisfy `p`. -/
def takeWhile (p : Char → Bool) : Reader (List Char) := fun cs =>
  some (cs.takeWhile p, cs.dropWhile p)

/-- Takes a text if it is in front, and says whether it was. -/
def accept (front : String) : Reader Bool := fun cs =>
  if front.toList.isPrefixOf cs then some (true, cs.drop front.length) else some (false, cs)

/-- Takes a text that must be in front. -/
def expect (front : String) : Reader Unit := do guard (← accept front)

/-- Takes one character that satisfies `p`. -/
def satisfying (p : Char → Bool) : Reader Char := do
  let c ← next
  guard (p c)
  return c

/-- Whether the text is at its end. -/
def atEnd : Reader Bool := fun cs => some (cs.isEmpty, cs)

/-- Reads items up to the one that ends the list. -/
def many {α : Type} (item : Reader (Option α)) (cs : List Char) : Option (List α × List Char) :=
  match item cs with
  | none => none
  | some (none, rest) => some ([], rest)
  | some (some x, rest) =>
    if rest.length < cs.length then
      (many item rest).map fun (xs, rest) => (x :: xs, rest)
    else none
termination_by cs.length

/-- Runs a reader over a whole text. -/
def whole? {α : Type} (r : Reader α) (cs : List Char) : Option α :=
  match r cs with
  | some (x, []) => some x
  | _ => none

end Reader

/-! ## Blanks, lines and comments -/

/-- Whether a character is a blank within a line. -/
def isSpace (c : Char) : Bool := c == ' ' || c == '\t'

/-- Whether a character may stand in comments and strings: all but controls, of
which only the tab is allowed. -/
def isTextChar (c : Char) : Bool := c == '\t' || (0x20 ≤ c.toNat && c.toNat != 0x7f)

namespace Reader

/-- Passes over the blanks of a line. -/
def skipSpace : Reader Unit := do let _ ← takeWhile isSpace

/-- Takes a line break, of one or two characters, and says whether there was one. -/
def acceptNewline : Reader Bool := do
  if ← accept "\n" then return true else accept "\r\n"

/-- Passes over a comment, if there is one. -/
def skipComment : Reader Unit := do
  if ← accept "#" then
    let _ ← takeWhile isTextChar

/-- Passes over what may follow on a line, and its end. -/
def endLine : Reader Unit := do
  skipSpace
  skipComment
  guard ((← acceptNewline) || (← atEnd))

/-- Passes over blanks, comments and line breaks. -/
def skipLines : Reader Unit := do
  let _ ← many (do
    skipSpace
    skipComment
    if ← acceptNewline then return some () else return none)

end Reader

end ArchiveDesk.Toml
