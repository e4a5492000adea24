import ArchiveDesk.Json.Token

/-!
# Syntax trees of JSON texts

The tokens of a text are put together into a tree by a machine that holds the
open arrays and objects on a stack and takes one token at a time, so nesting is
not limited. Numbers and strings in the tree are still as they were written.
-/

namespace ArchiveDesk.Json

/-- A JSON text as a tree. -/
inductive Tree where
  | null
  | bool (value : Bool)
  | numeral (n : Numeral)
  | text (pieces : List Piece)
  | array (items : List Tree)
  | object (members : List (List Piece × Tree))

namespace Tree

/-- An array or object that is still open, with its content in reverse. -/
inductive Frame where
  | items (done : List Tree)
  | members (done : List (List Piece × Tree)) (key : List Piece)

/-- What may come next. -/
inductive Expect where
  /-- A value. -/
  | value
  /-- The first item of an array, or its end. -/
  | itemOrEnd
  /-- The first name of an object, or its end. -/
  | keyOrEnd
  /-- A name. -/
  | key (done : List (List Piece × Tree))
  /-- The colon after a name. -/
  | colon (done : List (List Piece × Tree)) (name : List Piece)
  /-- A comma or the end of what is open, after a value. -/
  | separator (last : Tree)

/-- The machine: what is open, and what may come next. -/
structure Machine where
  /-- The open arrays and objects, the innermost first. -/
  stack : List Frame
  /-- What may come next. -/
  expect : Expect

/-- The machine before the first token. -/
def Machine.start : Machine := ⟨[], .value⟩

/-- The value that a single token stands for. -/
private def scalar? : Token → Option Tree
  | .null => some null
  | .bool b => some (bool b)
  | .numeral n => some (numeral n)
  | .text pieces => some (text pieces)
  | _ => none

/-- Takes a token where a value may begin. -/
private def beginValue (stack : List Frame) : Token → Option Machine
  | .openArray => some ⟨.items [] :: stack, .itemOrEnd⟩
  | .openObject => some ⟨stack, .keyOrEnd⟩
  | token => (scalar? token).map fun v => ⟨stack, .separator v⟩

/-- Takes one token. -/
def Machine.step (m : Machine) (token : Token) : Option Machine :=
  match m.expect, m.stack, token with
  | .value, stack, token => beginValue stack token
  | .itemOrEnd, .items _ :: stack, .closeArray => some ⟨stack, .separator (array [])⟩
  | .itemOrEnd, stack, token => beginValue stack token
  | .keyOrEnd, stack, .closeObject => some ⟨stack, .separator (object [])⟩
  | .keyOrEnd, stack, .text name => some ⟨stack, .colon [] name⟩
  | .key done, stack, .text name => some ⟨stack, .colon done name⟩
  | .colon done name, stack, .colon => some ⟨.members done name :: stack, .value⟩
  | .separator v, .items done :: stack, .comma => some ⟨.items (v :: done) :: stack, .value⟩
  | .separator v, .items done :: stack, .closeArray =>
    some ⟨stack, .separator (array (v :: done).reverse)⟩
  | .separator v, .members done name :: stack, .comma =>
    some ⟨stack, .key ((name, v) :: done)⟩
  | .separator v, .members done name :: stack, .closeObject =>
    some ⟨stack, .separator (object ((name, v) :: done).reverse)⟩
  | _, _, _ => none

/-- The value that was read, if the machine has come to its end. -/
def Machine.result? : Machine → Option Tree
  | ⟨[], .separator v⟩ => some v
  | _ => none

/-- The tree of a list of tokens. -/
def ofTokens? (tokens : List Token) : Option Tree :=
  tokens.foldlM Machine.step Machine.start >>= Machine.result?

/-- The tree of a text. -/
def parse? (s : String) : Option Tree := Token.scan? s.toList >>= ofTokens?

mutual

/-- How deep arrays and objects are nested. -/
def depth : Tree → Nat
  | array items => depthItems items + 1
  | object members => depthMembers members + 1
  | _ => 0

/-- The greatest depth of an item. -/
def depthItems : List Tree → Nat
  | [] => 0
  | item :: rest => max (depth item) (depthItems rest)

/-- The greatest depth of a member. -/
def depthMembers : List (List Piece × Tree) → Nat
  | [] => 0
  | (_, value) :: rest => max (depth value) (depthMembers rest)

end

end Tree

end ArchiveDesk.Json
