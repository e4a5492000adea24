import ArchiveDesk.Number.Word
import ArchiveDesk.Text.CodeTable

/-!
# Numeric addresses

Addresses of 32 bits are one to four numbers parted by dots, each in decimal,
octal or hexadecimal, the last filling what is left. Addresses of 128 bits are
eight groups parted by colons; one run of zero groups may be left out, and the
last two groups may be written as a 32-bit address.
-/

namespace ArchiveDesk.Url

/-! ## 32 bits -/

namespace Ipv4

/-- Whether a character is a digit of a base up to sixteen. -/
private def isDigitOf (base : Nat) (c : Char) : Bool := (Text.hexDigit? c).any (· < base)

/-- The value of digits of a base. -/
private def valueOf (base : Nat) (cs : List Char) : Nat :=
  cs.foldl (fun n c => base * n + (Text.hexDigit? c).getD 0) 0

/-- The value of one of the numbers of an address. A leading zero announces octal,
`0x` hexadecimal. -/
def number? (cs : List Char) : Option Nat :=
  let (base, digits) := match cs with
    | '0' :: 'x' :: rest => (16, rest)
    | '0' :: 'X' :: rest => (16, rest)
    | '0' :: c :: rest => (8, c :: rest)
    | cs => (10, cs)
  if cs.isEmpty then none
  else if digits.all (isDigitOf base) then some (valueOf base digits)
  else none

/-- The parts of a host, without an empty one at the end. -/
private def parts (host : List Char) : List (List Char) :=
  let ps := Text.pieces (· == '.') host
  if ps.getLast? = some [] then ps.dropLast else ps

/-- Whether the last part of a host is a number, so that the host must be an
address. -/
def endsInNumber (host : List Char) : Bool :=
  match (parts host).getLast? with
  | none => false
  | some last => (!last.isEmpty && last.all Char.isDigit) || (number? last).isSome

/-- The address that a host stands for. -/
def parse? (host : List Char) : Option Nat := do
  let ps := parts host
  guard (ps.length ≤ 4)
  let numbers ← ps.mapM number?
  let last ← numbers.getLast?
  let front := numbers.dropLast
  guard (front.all (· < 256) && last < Nat.pow 256 (4 - front.length))
  return (front.foldl (fun n x => 256 * n + x) 0) * Nat.pow 256 (4 - front.length) + last

/-- The address as four decimal numbers. -/
def chars (address : Nat) : List Char :=
  List.intercalate ['.'] <| [3, 2, 1, 0].map fun i =>
    (toString (address / Nat.pow 256 i % 256)).toList

end Ipv4

/-! ## 128 bits -/

namespace Ipv6

/-- The value of a group of one to four hexadecimal digits. -/
private def group? (cs : List Char) : Option Nat :=
  if cs.isEmpty || 4 < cs.length || cs.any (fun c => (Text.hexDigit? c).isNone) then none
  else some (Text.hexValue cs)

/-- The value of a decimal number below 256 without leading zeros. -/
private def byte? (cs : List Char) : Option Nat :=
  let plain := match cs with
    | '0' :: _ :: _ => false
    | _ => true
  if cs.isEmpty || 3 < cs.length || !cs.all Char.isDigit || !plain then none
  else
    let n := cs.foldl (fun n c => 10 * n + (c.toNat - '0'.toNat)) 0
    if n < 256 then some n else none

/-- The two groups that are written as four decimal numbers. -/
private def embedded? (cs : List Char) : Option (List Nat) := do
  match ← (Text.pieces (· == '.') cs).mapM byte? with
  | [a, b, c, d] => return [256 * a + b, 256 * c + d]
  | _ => none

/-- The groups of a text, parted by colons. The last of them may be a 32-bit
address. -/
private def groups? : List (List Char) → Option (List Nat)
  | [] => some []
  | [last] => if last.contains '.' then embedded? last else (group? last).map ([·])
  | first :: rest => do return (← group? first) :: (← groups? rest)

/-- The pieces before and after the first two neighbouring colons, if there are
any. -/
private def cutGap : List (List Char) → Option (List (List Char) × List (List Char))
  | [] :: next :: rest => some ([], next :: rest)
  | first :: rest => (cutGap rest).map fun (a, b) => (first :: a, b)
  | [] => none

/-- The eight groups that a text stands for. -/
def parse? (cs : List Char) : Option (List Nat) := do
  match cs with
  | [':'] => none
  | ':' :: c :: _ => guard (c == ':')
  | _ => pure ()
  -- A text that begins with two colons has two empty pieces in front.
  let pieces := Text.pieces (· == ':') cs
  let pieces := if cs.head? = some ':' then pieces.drop 1 else pieces
  match cutGap pieces with
  | none =>
    let groups ← groups? pieces
    guard (groups.length == 8)
    return groups
  | some (front, back) =>
    let front ← front.mapM group?
    let back ← if back == [[]] then some [] else groups? back
    guard (front.length + back.length ≤ 7)
    return front ++ List.replicate (8 - front.length - back.length) 0 ++ back

/-- The first of the longest runs of zeros that has at least two: its place and
its length. -/
private def longestGap (groups : List Nat) : Nat × Nat :=
  let run (i : Nat) : Nat := ((groups.drop i).takeWhile (· == 0)).length
  (List.range groups.length).foldl (fun best i =>
    if 2 ≤ run i ∧ best.2 < run i then (i, run i) else best) (0, 0)

/-- Groups in hexadecimal, parted by colons. -/
private def colonText (groups : List Nat) : List Char :=
  List.intercalate [':'] (groups.map fun g => Nat.toDigits 16 g)

/-- The address in its shortest form. -/
def chars (groups : List Nat) : List Char :=
  let (start, length) := longestGap groups
  if length = 0 then colonText groups
  else colonText (groups.take start) ++ [':', ':'] ++ colonText (groups.drop (start + length))

end Ipv6

end ArchiveDesk.Url
