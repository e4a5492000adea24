import ArchiveDesk.Number.Binary64

/-!
# TOML values

Texts, numbers, moments, arrays and tables. A table remembers how it came to be,
because that decides who may still add to it.
-/

namespace ArchiveDesk.Toml

/-- A number with a point, an exponent, or no finite value. -/
inductive Real where
  | finite (value : Number.Binary64)
  | infinite (negative : Bool)
  | notANumber
  deriving DecidableEq, Repr

/-- A day of the calendar. -/
structure Date where
  year : Nat
  month : Nat
  day : Nat
  deriving DecidableEq, Repr

namespace Date

/-- Whether a year has a leap day. -/
def isLeap (year : Nat) : Bool := year % 4 == 0 && (year % 100 != 0 || year % 400 == 0)

/-- The number of days of a month. -/
def monthLength (year month : Nat) : Nat :=
  if month = 2 then (if isLeap year then 29 else 28)
  else if month = 4 ∨ month = 6 ∨ month = 9 ∨ month = 11 then 30
  else 31

/-- Whether the calendar has the day. -/
def isValid (d : Date) : Bool :=
  1 ≤ d.month && d.month ≤ 12 && 1 ≤ d.day && d.day ≤ monthLength d.year d.month

end Date

/-- A time of day, with the digits of a fraction of a second. -/
structure Time where
  hour : Nat
  minute : Nat
  second : Nat
  fraction : List Nat
  deriving DecidableEq, Repr

/-- Whether the clock has the time; a minute may have a leap second. -/
def Time.isValid (t : Time) : Bool := t.hour ≤ 23 && t.minute ≤ 59 && t.second ≤ 60

/-- A date, a time of day, or both, then perhaps with the minutes that the local
clock is ahead of the universal one. -/
inductive Moment where
  | date (date : Date)
  | time (time : Time)
  | dateTime (date : Date) (time : Time) (offset : Option Int)
  deriving DecidableEq, Repr

/-- How a table came to be. -/
inductive Origin where
  /-- It was written in braces. -/
  | inline
  /-- A header of its own opened it. -/
  | header
  /-- The header of a table within it implied it. -/
  | implied
  /-- A dotted key implied it. -/
  | dotted
  deriving DecidableEq, Repr

/-- A TOML value. -/
inductive Value where
  | text (value : String)
  | integer (value : Int)
  | real (value : Real)
  | bool (value : Bool)
  | moment (value : Moment)
  | array (items : List Value)
  | table (origin : Origin) (entries : List (String × Value))
  /-- An array of tables that headers opened one by one. -/
  | tables (elements : List (List (String × Value)))

/-- The names and values of a table, in the order of their first appearance. -/
abbrev Entries := List (String × Value)

end ArchiveDesk.Toml
