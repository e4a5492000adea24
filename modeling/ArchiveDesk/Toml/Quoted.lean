import ArchiveDesk.Text.CodeTable
import ArchiveDesk.Toml.Reader

/-!
# Quoted texts

A text stands in double quotes, with escapes, or in single quotes, as it is. Three
quotes set off a text of several lines, whose first line break does not count.
-/

namespace ArchiveDesk.Toml.Quoted

/-- What kind of quotes a text stands in. -/
structure Style where
  /-- The quote. -/
  quote : Char
  /-- Whether a backslash has a meaning. -/
  escapes : Bool

/-- Double quotes, with escapes. -/
def basic : Style := ⟨'"', true⟩

/-- Single quotes, without escapes. -/
def literal : Style := ⟨'\'', false⟩

/-- Whether a character stands for itself. -/
def Style.isPlain (style : Style) (c : Char) : Bool :=
  isTextChar c && c != style.quote && !(style.escapes && c == '\\')

/-- The character of an escape that is a single letter. -/
def shortEscape? (c : Char) : Option Char :=
  if c == '"' || c == '\\' then some c
  else if c == 'b' then some '\x08'
  else if c == 't' then some '\t'
  else if c == 'n' then some '\n'
  else if c == 'f' then some '\x0c'
  else if c == 'r' then some '\r'
  else none

/-- Takes a code point of a number of hexadecimal digits, which must be that of a
character. -/
def codePoint (count : Nat) : Reader Char := fun cs => do
  let digits := cs.take count
  guard (digits.length = count ∧ digits.all fun c => (Text.hexDigit? c).isSome)
  let code := Text.hexValue digits
  guard code.isValidChar
  return (Char.ofNat code, cs.drop count)

/-- Takes what follows the backslash of an escape. -/
def escaped : Reader Char := do
  let c ← Reader.next
  if c == 'u' then codePoint 4
  else if c == 'U' then codePoint 8
  else (shortEscape? c : Option Char)

/-- Takes a character of a line. -/
def lineChar (style : Style) : Reader Char := do
  let c ← Reader.next
  if style.escapes && c == '\\' then escaped
  else do
    guard (style.isPlain c)
    return c

/-- Takes the rest of a text that ends at the next quote. -/
def line (style : Style) : Reader String := do
  let cs ← Reader.many (do
    if ← Reader.accept (toString style.quote) then return none
    return some (← lineChar style))
  return String.ofList cs

/-- Passes over the break of a line that continues, and the blanks after it. -/
def continuation : Reader Unit := do
  Reader.skipSpace
  guard (← Reader.acceptNewline)
  let _ ← Reader.many (do
    Reader.skipSpace
    if ← Reader.acceptNewline then return some () else return none)

/-- Takes a piece of a text of several lines: a line break, a continuation or a
character. -/
def piece (style : Style) : Reader (List Char) := do
  if ← Reader.acceptNewline then return ['\n']
  (do guard style.escapes
      Reader.expect "\\"
      continuation
      return []) <|>
    (return [← lineChar style])

/-- Takes the rest of a text of several lines. Three quotes end it, before which
up to two may stand. -/
def lines (style : Style) : Reader String := do
  let _ ← Reader.acceptNewline
  let pieces ← Reader.many fun cs =>
    let quotes := (cs.takeWhile (· == style.quote)).length
    if 3 ≤ quotes then some (none, cs)
    else if 0 < quotes then some (some (cs.take quotes), cs.drop quotes)
    else (piece style cs).map fun (p, rest) => (some p, rest)
  let quotes : List Char ← fun cs =>
    let quotes := (cs.takeWhile (· == style.quote)).take 5
    some (quotes.drop 3, cs.drop quotes.length)
  return String.ofList (pieces.flatten ++ quotes)

/-- Takes a text of one line. -/
def single (style : Style) : Reader String := do
  Reader.expect (toString style.quote)
  line style

/-- Takes a text of one or several lines. -/
def text (style : Style) : Reader String := do
  if ← Reader.accept (String.ofList (List.replicate 3 style.quote)) then lines style
  else single style

end ArchiveDesk.Toml.Quoted
