import ArchiveDesk.Json.Syntax
import ArchiveDesk.Json.Basic
import ArchiveDesk.Number.Decimal

/-!
# Reading JSON values

A syntax tree stands for a value if its strings have no unpaired surrogates, its
numbers are finite, and it is nested less than 128 deep.
-/

namespace ArchiveDesk.Json

/-- The characters of a string; two halves of a pair make one character. -/
def Piece.chars? : List Piece → Option (List Char)
  | [] => some []
  | .char c :: rest => (Piece.chars? rest).map (c :: ·)
  | .half high :: .half low :: rest =>
    if high < 0xDC00 ∧ 0xDC00 ≤ low then
      let c := Char.ofNat (0x10000 + (high - 0xD800) * 0x400 + (low - 0xDC00))
      (Piece.chars? rest).map (c :: ·)
    else none
  | .half _ :: _ => none

/-- The text of a string. -/
def Piece.text? (pieces : List Piece) : Option String :=
  (Piece.chars? pieces).map String.ofList

namespace Numeral

/-- The value of decimal digits. -/
def value (ds : List Nat) : Nat := ds.foldl (fun n d => 10 * n + d) 0

/-- The number as an integer, if it has neither point nor exponent and fits in
64 bits, signed or unsigned. A negative zero is no integer. -/
def integer? (n : Numeral) : Option Int :=
  if n.fraction.isSome || n.exponent.isSome then none
  else
    let v := value n.whole
    if n.negative then
      if 0 < v ∧ v ≤ Nat.pow 2 63 then some (-(v : Int)) else none
    else if v < Nat.pow 2 64 then some v
    else none

/-- The number as a binary number, if it is finite. -/
def float? (n : Numeral) : Option Number.Binary64 :=
  let scaled := (Number.Scaled.whole n.whole).withFraction (n.fraction.getD [])
  let power : Int := match n.exponent with
    | none => 0
    | some (negative, ds) => if negative then -(value ds : Int) else value ds
  (Number.Scaled.mk scaled.significand (scaled.exponent + power)).toBinary?.map fun x =>
    if n.negative then x.neg else x

/-- The value of the number. -/
def json? (n : Numeral) : Option Json :=
  match n.integer? with
  | some i => some (.integer i)
  | none => n.float?.map .float

end Numeral

namespace Tree

/-- The depth at which nesting is refused. -/
def depthLimit : Nat := 128

mutual

/-- The value that a tree stands for, whatever its depth. -/
def value? : Tree → Option Json
  | null => some .null
  | bool b => some (.bool b)
  | numeral n => n.json?
  | text pieces => (Piece.text? pieces).map .text
  | array items => (values? items).map .array
  | object members => (fields? members).map fun l => .object (Fields.ofList l).entries

/-- The values of the items of an array. -/
def values? : List Tree → Option (List Json)
  | [] => some []
  | item :: rest => do
    let v ← value? item
    let vs ← values? rest
    return v :: vs

/-- The values of the members of an object. -/
def fields? : List (List Piece × Tree) → Option (List (String × Json))
  | [] => some []
  | (key, tree) :: rest => do
    let k ← Piece.text? key
    let v ← value? tree
    let vs ← fields? rest
    return (k, v) :: vs

end

end Tree

/-- Reads a JSON text. -/
def parse? (s : String) : Option Json := do
  let tree ← Tree.parse? s
  guard (tree.depth < Tree.depthLimit)
  tree.value?

end ArchiveDesk.Json
