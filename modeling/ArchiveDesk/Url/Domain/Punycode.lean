/-!
# Punycode

A label with characters beyond ASCII is written in ASCII: first its ASCII
characters, then the others as numbers that say where each is inserted. The
numbers have base 36, with digit thresholds that adapt to the numbers so far.
-/

namespace ArchiveDesk.Url.Domain.Punycode

/-- The first code point that is not ASCII. -/
def firstCode : Nat := 0x80

/-- The bias at the start of a label. -/
def firstBias : Nat := 72

/-- The value of a digit: letters, then decimal digits. -/
def digitValue? (c : Char) : Option Nat :=
  if c.isLower then some (c.toNat - 'a'.toNat)
  else if c.isUpper then some (c.toNat - 'A'.toNat)
  else if c.isDigit then some (c.toNat - '0'.toNat + 26)
  else none

/-- The digit of a value. -/
def digitChar (d : Nat) : Char :=
  if d < 26 then Char.ofNat ('a'.toNat + d) else Char.ofNat ('0'.toNat + (d - 26))

/-- The threshold of a digit: below it, a digit is the last of its number. -/
def threshold (place bias : Nat) : Nat := max 1 (min 26 (place - bias))

private theorem one_le_threshold (place bias : Nat) : 1 ≤ threshold place bias := Nat.le_max_left ..

/-- Scales a number down, and counts the places. -/
private def settle (delta place : Nat) : Nat :=
  if 455 < delta then settle (delta / 35) (place + 36)
  else place + 36 * delta / (delta + 38)
  termination_by delta
  decreasing_by omega

/-- The bias after a number, when the label has grown to a length. -/
def adapt (delta length : Nat) (isFirst : Bool) : Nat :=
  let delta := if isFirst then delta / 700 else delta / 2
  settle (delta + delta / length) 0

/-! ## Reading -/

/-- A label in reading. -/
private structure Reading where
  /-- The characters so far. -/
  label : List Char
  /-- The code point to insert next. -/
  code : Nat
  /-- The place to insert it at, with the number that is being read. -/
  place : Nat
  /-- The place at which the number began. -/
  origin : Nat
  bias : Nat
  /-- The weight of the next digit. -/
  weight : Nat
  /-- The place of the next digit in its number. -/
  digit : Nat

/-- Takes a digit. -/
private def Reading.take (r : Reading) (c : Char) : Option Reading := do
  let d ← digitValue? c
  let place := r.place + d * r.weight
  let t := threshold r.digit r.bias
  if t ≤ d then
    return { r with place, weight := r.weight * (36 - t), digit := r.digit + 36 }
  let length := r.label.length + 1
  let code := r.code + place / length
  guard (code.isValidChar)
  let place := place % length
  return {
    label := r.label.take place ++ Char.ofNat code :: r.label.drop place
    code
    place := place + 1
    origin := place + 1
    bias := adapt (r.place + d * r.weight - r.origin) length (r.origin == 0)
    weight := 1
    digit := 36 }

/-- The label that a text stands for. -/
def decode? (cs : List Char) : Option (List Char) := do
  -- The last hyphen parts the two, unless it is the first character.
  let tail := (cs.reverse.takeWhile (· != '-')).reverse
  let basic := cs.take (cs.length - tail.length - 1)
  let digits := if basic.isEmpty then cs else tail
  let start : Reading := ⟨basic, firstCode, 0, 0, firstBias, 1, 36⟩
  let r ← digits.foldlM Reading.take start
  guard (r.digit == 36)
  return r.label

/-! ## Writing -/

/-- The digits of a number. -/
private def digitsFrom (number place bias : Nat) : List Char :=
  let t := threshold place bias
  if number < t then [digitChar number]
  else digitChar (t + (number - t) % (36 - t)) ::
    digitsFrom ((number - t) / (36 - t)) (place + 36) bias
  termination_by number
  decreasing_by
    have h₁ := one_le_threshold place bias
    have h₂ := Nat.div_le_self (number - threshold place bias) (36 - threshold place bias)
    omega

/-- A label in writing. -/
private structure Writing where
  /-- The digits so far, in pieces and in reverse. -/
  digits : List (List Char)
  /-- The distance to the next character. -/
  delta : Nat
  bias : Nat
  /-- How many characters have been written. -/
  handled : Nat

/-- Passes a character of the label while a code point is being written. -/
private def Writing.pass (basicCount code : Nat) (w : Writing) (c : Char) : Writing :=
  if c.toNat < code then { w with delta := w.delta + 1 }
  else if c.toNat = code then
    { digits := digitsFrom w.delta 36 w.bias :: w.digits
      delta := 0
      bias := adapt w.delta (w.handled + 1) (w.handled == basicCount)
      handled := w.handled + 1 }
  else w

/-- The distinct code points beyond ASCII, in ascending order. -/
private def codesOf (label : List Char) : List Nat :=
  (((label.map Char.toNat).filter (firstCode ≤ ·)).mergeSort (· ≤ ·)).eraseReps

/-- Writes a label. -/
def encode (label : List Char) : List Char :=
  let basic := label.filter (·.toNat < firstCode)
  let write (state : Writing × Nat) (code : Nat) : Writing × Nat :=
    let (w, previous) := state
    let w := { w with delta := w.delta + (code - previous) * (w.handled + 1) }
    let w := label.foldl (Writing.pass basic.length code) w
    ({ w with delta := w.delta + 1 }, code + 1)
  let start : Writing := ⟨[], 0, firstBias, basic.length⟩
  let (w, _) := (codesOf label).foldl write (start, firstCode)
  basic ++ (if basic.isEmpty then [] else ['-']) ++ w.digits.reverse.flatten

end ArchiveDesk.Url.Domain.Punycode
