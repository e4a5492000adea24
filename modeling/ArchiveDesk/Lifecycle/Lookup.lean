import ArchiveDesk.Failure
import ArchiveDesk.Lifecycle.Event

/-!
# Looking up a lifecycle

The source is asked once for the lifecycle of an entity. Its answer counts only
if it reports exactly one hit; anything else, a failure included, is a result
without events.
-/

namespace ArchiveDesk.Lifecycle

/-- What has a lifecycle. -/
inductive Kind where
  | unit
  | objectGroup
  deriving DecidableEq, Repr

namespace Kind

/-- The kind's name in addresses. -/
def segment : Kind → String
  | unit => "unit"
  | objectGroup => "objectgroup"

/-- The kind's name for the operator. -/
def label : Kind → String
  | unit => "Archive unit"
  | objectGroup => "Object group"

end Kind

/-- The outcome of a lookup. -/
inductive Result where
  /-- Exactly one hit, with its finished events. -/
  | entry (events : List Event)
  /-- Another count of hits. -/
  | mismatch (hits : Int)

namespace Result

/-- The count of hits. -/
def totalHits : Result → Int
  | entry _ => 1
  | mismatch hits => hits

/-- The events, none if the count of hits is not one. -/
def events : Result → List Event
  | entry events => events
  | mismatch _ => []

/-- Whether there was exactly one hit. -/
def isValid : Result → Bool
  | entry _ => true
  | mismatch _ => false

/-- The greatest signed number of 64 bits. -/
def countMax : Int := Int.pow 2 63 - 1

/-- The least signed number of 64 bits. -/
def countMin : Int := -Int.pow 2 63

/-- The count of hits that a binary number stands for: a whole number of magnitude
at most 2^63, held within 64 bits; anything else counts as none. -/
def hitsOfFloat (x : Number.Binary64) : Int :=
  match x.toInt? with
  | some n => if n.natAbs ≤ Nat.pow 2 63 then min n countMax else 0
  | none => 0

/-- The count of hits that a value stands for. -/
def hitCount : Json → Int
  | .integer n =>
    if countMin ≤ n ∧ n ≤ countMax then n
    else
      match Number.Binary64.ofNat? n.natAbs with
      | some x => hitsOfFloat (if n < 0 then x.neg else x)
      | none => 0
  | .float x => hitsOfFloat x
  | _ => 0

/-- The member `hits` of an answer, unless it is null. -/
def hits? (payload : Json) : Option Json :=
  match payload.get? "hits" with
  | some .null => none
  | hits => hits

/-- The count of hits that an answer reports. -/
def reported (payload : Json) : Int :=
  match hits? payload with
  | none => 0
  | some hits => ((hits.get? "total").map hitCount).getD 0

/-- The events of an answer; items that are not objects are skipped. -/
def rawEvents (payload : Json) : List RawEvent :=
  match payload.get? "result" >>= (·.get? "events") >>= Json.items? with
  | none => []
  | some items => items.filterMap Json.fields?

/-- The result that an answer stands for. -/
def ofPayload (payload : Json) : Result :=
  let count := reported payload
  if count = 1 then entry (finished (rawEvents payload)) else mismatch count

/-- The result of asking a source. -/
def ofAnswer : Except Failure Json → Result
  | .ok payload => ofPayload payload
  | .error _ => mismatch 0

end Result

/-- A source of lifecycles. -/
abbrev Source := Kind → String → Except Failure Json

/-- A lookup: its result, and what the source was asked for. -/
structure Lookup where
  /-- The outcome. -/
  result : Result
  /-- The kinds and identifiers the source was asked for. -/
  calls : List (Kind × String)

/-- Asks a source once. -/
def lookup (source : Source) (kind : Kind) (id : String) : Lookup where
  result := Result.ofAnswer (source kind id)
  calls := [(kind, id)]

end ArchiveDesk.Lifecycle
