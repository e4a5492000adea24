import ArchiveDesk.Fields
import ArchiveDesk.Number.Binary64

/-!
# JSON values

Numbers keep how they were written: whole numbers that fit in 64 bits are
integers, all others binary numbers of double precision.
-/

namespace ArchiveDesk

/-- A JSON value. The members of an object may repeat a name; the last one
counts. -/
inductive Json where
  | null
  | bool (value : Bool)
  | integer (value : Int)
  | float (value : Number.Binary64)
  | text (value : String)
  | array (items : List Json)
  | object (members : List (String × Json))

namespace Json

/-- The members of an object as fields. -/
def fields? : Json → Option (Fields Json)
  | object members => some (Fields.ofList members)
  | _ => none

/-- The member of an object with a given name. -/
def get? (j : Json) (key : String) : Option Json := j.fields? >>= (·.get? key)

/-- The items of an array. -/
def items? : Json → Option (List Json)
  | array items => some items
  | _ => none

/-- The text of a text value. -/
def text? : Json → Option String
  | text s => some s
  | _ => none

end Json

end ArchiveDesk
