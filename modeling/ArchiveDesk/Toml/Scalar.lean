import ArchiveDesk.Text.CodeTable
import ArchiveDesk.Toml.Reader
import ArchiveDesk.Toml.Value

/-!
# Numbers and moments

An integer fits in 64 bits. A number with a point or an exponent is rounded to a
binary one. Days and times must be on the calendar and the clock.
-/

namespace ArchiveDesk.Toml.Scalar

/-- The digits of a run in which single underscores may stand between digits. -/
def digitRun (p : Char → Bool) : Reader (List Char) := do
  let groups := Text.pieces (· == '_') (← Reader.takeWhile fun c => p c || c == '_')
  guard (groups.all fun g => !g.isEmpty)
  return groups.flatten

/-- The value of decimal digits. -/
def decimal (ds : List Char) : Nat := ds.foldl (fun n c => 10 * n + (c.toNat - '0'.toNat)) 0

/-- Whether digits have no needless zero in front. -/
def isPlain : List Char → Bool
  | '0' :: _ :: _ => false
  | _ => true

/-! ## Numbers -/

/-- A sign: `some true` is a minus. -/
def sign : Reader (Option Bool) := do
  if ← Reader.accept "-" then return some true
  if ← Reader.accept "+" then return some false
  return none

/-- The power of ten beyond which a number is too large, and below whose negative
it is zero. -/
def powerLimit : Int := 400

/-- The number `± digits * 10 ^ exponent`, rounded. -/
def real (negative : Bool) (digits : List Char) (exponent : Int) : Real :=
  let n := decimal digits
  let size := exponent + (digits.dropWhile (· == '0')).length
  if n = 0 ∨ size < -powerLimit then .finite { Number.Binary64.zero with negative }
  else if powerLimit < size then .infinite negative
  else
    let num := n * Nat.pow 10 exponent.toNat
    let den := Nat.pow 10 (-exponent).toNat
    match Number.Binary64.ofQuotient? negative num den with
    | some x => .finite x
    | none => .infinite negative

/-- An integer of 64 bits. -/
def integer (n : Int) : Reader Value := do
  guard (-Int.pow 2 63 ≤ n ∧ n < Int.pow 2 63)
  return .integer n

/-- The digits after a point, if there is one. -/
def fraction : Reader (Option (List Char)) := do
  if ← Reader.accept "." then return some (← digitRun Char.isDigit)
  return none

/-- The exponent, if there is one. -/
def exponent : Reader (Option Int) := do
  if (← Reader.accept "e") || (← Reader.accept "E") then
    let negative ← sign
    let n : Int := decimal (← digitRun Char.isDigit)
    return some (if negative = some true then -n else n)
  return none

/-- A number in decimal digits. It must not be too large; a number that is too far
below zero stands for infinity. -/
def decimalNumber (negative : Bool) : Reader Value := do
  let whole ← digitRun Char.isDigit
  guard (isPlain whole)
  let fraction ← fraction
  let exponent ← exponent
  if fraction.isNone && exponent.isNone then
    integer (if negative then -(decimal whole : Int) else decimal whole)
  else
    let fraction := fraction.getD []
    let x := real negative (whole ++ fraction) (exponent.getD 0 - fraction.length)
    guard (x ≠ .infinite false)
    return .real x

/-- An integer in digits of another base. -/
def based (base : Nat) (p : Char → Bool) : Reader Value := do
  let digits ← digitRun p
  let value := digits.foldl (fun n c => base * n + (Text.hexDigit? c).getD 0) 0
  integer value

/-- Takes a number. -/
def number : Reader Value := do
  if ← Reader.accept "0x" then return ← based 16 fun c => (Text.hexDigit? c).isSome
  if ← Reader.accept "0o" then return ← based 8 fun c => '0' ≤ c && c ≤ '7'
  if ← Reader.accept "0b" then return ← based 2 fun c => c == '0' || c == '1'
  let negative := (← sign) == some true
  if ← Reader.accept "inf" then return .real (.infinite negative)
  if ← Reader.accept "nan" then return .real .notANumber
  decimalNumber negative

/-! ## Moments -/

/-- Takes a number of exactly the given count of digits. -/
def fixed (count : Nat) : Reader Nat := fun cs => do
  let digits := cs.take count
  guard (digits.length = count ∧ digits.all Char.isDigit)
  return (decimal digits, cs.drop count)

/-- Takes a date. -/
def date : Reader Date := do
  let year ← fixed 4
  Reader.expect "-"
  let month ← fixed 2
  Reader.expect "-"
  let d : Date := ⟨year, month, ← fixed 2⟩
  guard d.isValid
  return d

/-- Takes a time of day. -/
def time : Reader Time := do
  let hour ← fixed 2
  Reader.expect ":"
  let minute ← fixed 2
  Reader.expect ":"
  let second ← fixed 2
  let fraction ← (do
    Reader.expect "."
    let digits ← Reader.takeWhile Char.isDigit
    guard !digits.isEmpty
    return digits.map fun c => c.toNat - '0'.toNat) <|> pure []
  let t : Time := ⟨hour, minute, second, fraction⟩
  guard t.isValid
  return t

/-- Takes what tells how far the local clock is ahead, in minutes. -/
def offset : Reader Int := do
  if (← Reader.accept "Z") || (← Reader.accept "z") then return 0
  match ← sign with
  | none => failure
  | some negative =>
    let hour ← fixed 2
    Reader.expect ":"
    let minute ← fixed 2
    guard (hour ≤ 23 ∧ minute ≤ 59)
    let minutes : Int := 60 * hour + minute
    return if negative then -minutes else minutes

/-- Takes a date, which a time of day may follow. -/
def dateTime : Reader Moment := do
  let d ← date
  (do let _ ← Reader.satisfying fun c => c == 'T' || c == 't' || c == ' '
      let t ← time
      let o ← (some <$> offset) <|> pure none
      return .dateTime d t o) <|>
    (return .date d)

/-- Takes a moment. -/
def moment : Reader Value := .moment <$> (dateTime <|> (.time <$> time))

end ArchiveDesk.Toml.Scalar
