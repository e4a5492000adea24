import ArchiveDesk.Text.CodeTable

/-!
# Tokens of JSON texts

A JSON text is cut into tokens one character at a time. Numbers and strings are
kept as they were written, so that a reader decides later which of them it can
represent.
-/

namespace ArchiveDesk.Json

/-- A number as it was written. -/
structure Numeral where
  /-- Whether a minus sign leads. -/
  negative : Bool
  /-- The digits before the point. -/
  whole : List Nat
  /-- The digits after the point, if there is one. -/
  fraction : Option (List Nat)
  /-- The sign (negative or not) and digits of the exponent, if there is one. -/
  exponent : Option (Bool × List Nat)

/-- A piece of a string: a character, or one half of a surrogate pair that was
escaped. -/
inductive Piece where
  | char (c : Char)
  | half (code : Nat)

/-- The tokens of a JSON text. -/
inductive Token where
  | openArray
  | closeArray
  | openObject
  | closeObject
  | comma
  | colon
  | null
  | bool (value : Bool)
  | numeral (n : Numeral)
  | text (pieces : List Piece)

namespace Numeral

/-- The value of a decimal digit. -/
def digit? (c : Char) : Option Nat :=
  if c.isDigit then some (c.toNat - '0'.toNat) else none

/-- A nonempty text of decimal digits. -/
def digits? (cs : List Char) : Option (List Nat) :=
  if cs.isEmpty then none else cs.mapM digit?

/-- Cuts a text at the first character that satisfies `p`. -/
private def cutAt (p : Char → Bool) (cs : List Char) : List Char × Option (List Char) :=
  match cs.dropWhile (fun c => !p c) with
  | [] => (cs, none)
  | _ :: rest => (cs.takeWhile (fun c => !p c), some rest)

/-- The sign and digits of an exponent. -/
private def exponent? : List Char → Option (Bool × List Nat)
  | '-' :: cs => (digits? cs).map (true, ·)
  | '+' :: cs => (digits? cs).map (false, ·)
  | cs => (digits? cs).map (false, ·)

/-- Whether the digits before the point have no needless zero in front. -/
private def plain : List Nat → Bool
  | 0 :: _ :: _ => false
  | _ => true

/-- Reads a number. -/
def ofChars? (cs : List Char) : Option Numeral := do
  let (negative, cs) := match cs with
    | '-' :: rest => (true, rest)
    | _ => (false, cs)
  let (mantissa, power) := cutAt (fun c => c == 'e' || c == 'E') cs
  let (whole, fraction) := cutAt (· == '.') mantissa
  let whole ← digits? whole
  guard (plain whole)
  let fraction ← match fraction with
    | none => some none
    | some ds => (digits? ds).map some
  let exponent ← match power with
    | none => some none
    | some ds => (exponent? ds).map some
  return ⟨negative, whole, fraction, exponent⟩

end Numeral

namespace Token

/-- What the scanner has begun to read. Texts are collected in reverse. -/
inductive Scan where
  /-- Between tokens. -/
  | idle
  /-- In a word such as `null`. -/
  | word (seen : List Char)
  /-- In a number. -/
  | number (seen : List Char)
  /-- In a string. -/
  | string (seen : List Piece)
  /-- After a backslash in a string. -/
  | escape (seen : List Piece)
  /-- In the four digits of an escaped code. -/
  | code (seen : List Piece) (digits : List Char)

/-- The characters of numbers. -/
private def isNumeric (c : Char) : Bool :=
  c.isDigit || c == '-' || c == '+' || c == '.' || c == 'e' || c == 'E'

/-- The blanks between tokens. -/
def isSpace (c : Char) : Bool := c == ' ' || c == '\n' || c == '\t' || c == '\r'

/-- Begins with a character between tokens. -/
private def start (c : Char) : Option (Scan × List Token) :=
  if isSpace c then some (.idle, [])
  else if c == '[' then some (.idle, [openArray])
  else if c == ']' then some (.idle, [closeArray])
  else if c == '\x7b' then some (.idle, [openObject])
  else if c == '\x7d' then some (.idle, [closeObject])
  else if c == ',' then some (.idle, [comma])
  else if c == ':' then some (.idle, [colon])
  else if c == '"' then some (.string [], [])
  else if c == '-' || c.isDigit then some (.number [c], [])
  else if c.isLower then some (.word [c], [])
  else none

/-- The token that a word stands for. -/
private def ofWord? (cs : List Char) : Option Token :=
  if cs = "null".toList then some null
  else if cs = "true".toList then some (bool true)
  else if cs = "false".toList then some (bool false)
  else none

/-- The character that a short escape stands for. -/
private def shortEscape? (c : Char) : Option Char :=
  if c == '"' || c == '\\' || c == '/' then some c
  else if c == 'b' then some '\x08'
  else if c == 'f' then some '\x0c'
  else if c == 'n' then some '\n'
  else if c == 'r' then some '\r'
  else if c == 't' then some '\t'
  else none

/-- The piece that an escaped code stands for. -/
private def ofCode (n : Nat) : Piece :=
  if 0xD800 ≤ n ∧ n < 0xE000 then .half n else .char (Char.ofNat n)

/-- Takes one character. The tokens that it completes come out in reverse. -/
def step : Scan → Char → Option (Scan × List Token)
  | .idle, c => start c
  | .word seen, c =>
    if c.isLower then some (.word (c :: seen), [])
    else do
      let token ← ofWord? seen.reverse
      let (scan, next) ← start c
      return (scan, next ++ [token])
  | .number seen, c =>
    if isNumeric c then some (.number (c :: seen), [])
    else do
      let n ← Numeral.ofChars? seen.reverse
      let (scan, next) ← start c
      return (scan, next ++ [numeral n])
  | .string seen, c =>
    if c == '"' then some (.idle, [text seen.reverse])
    else if c == '\\' then some (.escape seen, [])
    else if c.toNat < 0x20 then none
    else some (.string (.char c :: seen), [])
  | .escape seen, c =>
    if c == 'u' then some (.code seen [], [])
    else (shortEscape? c).map fun d => (.string (.char d :: seen), [])
  | .code seen digits, c =>
    if (Text.hexDigit? c).isNone then none
    else if digits.length < 3 then some (.code seen (c :: digits), [])
    else some (.string (ofCode (Text.hexValue (c :: digits).reverse) :: seen), [])

/-- Ends the text; a number or word may still be open. -/
private def finish : Scan → Option (List Token)
  | .idle => some []
  | .word seen => (ofWord? seen.reverse).map ([·])
  | .number seen => (Numeral.ofChars? seen.reverse).map ([numeral ·])
  | _ => none

/-- Scans on from a state, with the tokens so far in reverse. -/
private def scanFrom (scan : Scan) (seen : List Token) : List Char → Option (List Token)
  | [] => (finish scan).map fun last => (last ++ seen).reverse
  | c :: cs => do
    let (next, found) ← step scan c
    scanFrom next (found ++ seen) cs

/-- The tokens of a text, if it consists of tokens. -/
def scan? (cs : List Char) : Option (List Token) := scanFrom .idle [] cs

end Token

end ArchiveDesk.Json
