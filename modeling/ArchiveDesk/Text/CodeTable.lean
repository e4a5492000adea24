import ArchiveDesk.Text.Pieces

/-!
# Tables of code points

Character properties are written as texts of hexadecimal code points: words that
are single code points or ranges `first-last`, or mappings `from>to+to`. A range
of a mapping may carry two step widths after a slash, for its source and target.
-/

namespace ArchiveDesk.Text

/-- The value of a hexadecimal digit. -/
def hexDigit? (c : Char) : Option Nat :=
  if '0' ≤ c ∧ c ≤ '9' then some (c.toNat - '0'.toNat)
  else if 'a' ≤ c ∧ c ≤ 'f' then some (c.toNat - 'a'.toNat + 10)
  else if 'A' ≤ c ∧ c ≤ 'F' then some (c.toNat - 'A'.toNat + 10)
  else none

/-- The value of a text of hexadecimal digits; other characters count as zero. -/
def hexValue (cs : List Char) : Nat :=
  cs.foldl (fun n c => 16 * n + (hexDigit? c).getD 0) 0

/-- A set of code points, as inclusive ranges. -/
structure CodeSet where
  /-- The ranges, each with its first and last code point. -/
  ranges : Array (Nat × Nat)

namespace CodeSet

/-- The range that a word of the table stands for. -/
def rangeOf (word : List Char) : Nat × Nat :=
  match pieces (· == '-') word with
  | [first, last] => (hexValue first, hexValue last)
  | _ => (hexValue word, hexValue word)

/-- Reads a table of ranges. -/
def ofText (table : String) : CodeSet :=
  ⟨((words (fun c => c == ' ' || c == '\n') table.toList).map rangeOf).toArray⟩

/-- Whether the code point of a character lies in one of the ranges. -/
def contains (s : CodeSet) (c : Char) : Bool :=
  s.ranges.any fun r => r.1 ≤ c.toNat && c.toNat ≤ r.2

end CodeSet

/-- A run of code points that are mapped at an even pace. -/
structure CodeRun where
  /-- The first code point of the run. -/
  first : Nat
  /-- The last code point of the run. -/
  last : Nat
  /-- The distance between neighbours of the run. -/
  step : Nat
  /-- The distance between the images of neighbours. -/
  pace : Nat
  /-- The image of the first code point. -/
  target : List Nat

namespace CodeRun

/-- Whether a code point belongs to the run. -/
def covers (r : CodeRun) (n : Nat) : Bool :=
  r.first ≤ n && n ≤ r.last && (n - r.first) % r.step == 0

/-- The image of a code point of the run. -/
def image (r : CodeRun) (n : Nat) : List Nat :=
  let offset := (n - r.first) / r.step * r.pace
  r.target.map (· + offset)

end CodeRun

/-- A mapping of code points to texts. -/
structure CodeMap where
  /-- The runs of mapped code points. -/
  runs : Array CodeRun

namespace CodeMap

/-- The value of a decimal digit that stands for a step width. -/
private def width (c : Char) : Nat := c.toNat - '0'.toNat

/-- The run that a word of the table stands for. -/
def runOf (word : List Char) : CodeRun :=
  match pieces (· == '>') word with
  | [source, target] =>
    let image := (pieces (· == '+') target).map hexValue
    let (range, step, pace) := match pieces (· == '/') source with
      | [range, [s, p]] => (range, width s, width p)
      | _ => (source, 1, 1)
    let (first, last) := CodeSet.rangeOf range
    ⟨first, last, step, pace, image⟩
  | _ => ⟨1, 0, 1, 1, []⟩

/-- Reads a table of mappings. -/
def ofText (table : String) : CodeMap :=
  ⟨((words (fun c => c == ' ' || c == '\n') table.toList).map runOf).toArray⟩

/-- The image of a character, if the table maps it. -/
def find? (m : CodeMap) (c : Char) : Option (List Char) :=
  (m.runs.find? (·.covers c.toNat)).map fun r => (r.image c.toNat).map Char.ofNat

end CodeMap

end ArchiveDesk.Text
