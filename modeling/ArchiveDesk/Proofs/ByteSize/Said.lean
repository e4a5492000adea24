import ArchiveDesk.ByteSize
import Mathlib.Data.List.Infix
import Mathlib.Data.String.Basic

/-!
# What the text of a byte count says

The text is a number and a unit, and neither of them can be read in two ways: the unit is what
stands after the blank, and the digits are those of the number of hundredths.
-/

namespace ArchiveDesk

/-- How many bytes the unit holds. -/
def ByteUnit.size : ByteUnit → ℕ
  | bytes => 1
  | kilobytes => 1024
  | megabytes => 1024 ^ 2
  | gigabytes => 1024 ^ 3

namespace ByteSize

/-- The text says this number of hundredths of this unit. -/
inductive Says : String → ℕ → ByteUnit → Prop where
  /-- A whole number of bytes. -/
  | whole (count : ℕ) :
      Says (toString count ++ " " ++ ByteUnit.bytes.symbol) (100 * count) .bytes
  /-- A number of a larger unit with two decimals. -/
  | decimals (n : ℕ) {unit : ByteUnit} (hlarger : unit ≠ .bytes) :
      Says (decimals n ++ " " ++ unit.symbol) n unit

variable {t : String} {n n' : ℕ} {unit unit' : ByteUnit}

/-- A text in a unit larger than bytes has two decimals. -/
theorem Says.eq_decimals (h : Says t n unit) (hunit : unit ≠ .bytes) :
    t = ByteSize.decimals n ++ " " ++ unit.symbol := by
  cases h with
  | whole count => exact absurd rfl hunit
  | decimals n => rfl

/-! ## The unit -/

/-- A text ends in a blank and the abbreviation of its unit. -/
theorem Says.suffix (h : Says t n unit) : ' ' :: unit.symbol.toList <:+ t.toList := by
  cases h with
  | whole count =>
    rw [String.toList_append, String.toList_append, List.append_assoc]
    exact List.suffix_append _ _
  | decimals n =>
    rw [String.toList_append, String.toList_append, List.append_assoc]
    exact List.suffix_append _ _

/-- A text speaks of one unit only. -/
theorem Says.unit_eq (h : Says t n unit) (h' : Says t n' unit') : unit = unit' := by
  have hsuffix := List.suffix_or_suffix_of_suffix h.suffix h'.suffix
  revert hsuffix
  cases unit <;> cases unit' <;> decide

/-! ## The number -/

/-- The digits of a text, read as one number. -/
def digitsOf (t : String) : ℕ := Nat.ofDigitChars 10 (t.toList.filter Char.isDigit) 0

/-- The two decimals of a number of hundredths. -/
def cents (n : ℕ) : List Char := ((if n < 10 then "0" else "") ++ toString n).toList

/-- The two digits of the hundredths are read as the hundredths themselves. -/
theorem ofDigitChars_cents {n : ℕ} (h : n < 100) (front : ℕ) :
    Nat.ofDigitChars 10 ((cents n).filter Char.isDigit) front = 100 * front + n := by
  have hcents : ∀ m < 100, ((cents m).filter Char.isDigit).length = 2 ∧
      Nat.ofDigitChars 10 ((cents m).filter Char.isDigit) 0 = m := by decide +kernel
  obtain ⟨hlength, hvalue⟩ := hcents n h
  rw [Nat.ofDigitChars_eq_ofDigitChars_zero, hlength, hvalue]

/-- All characters of a written number are its digits. -/
theorem filter_isDigit_toString (n : ℕ) :
    (toString n).toList.filter Char.isDigit = Nat.toDigits 10 n := by
  rw [Nat.toString_eq_repr, Nat.toList_repr, List.filter_eq_self]
  exact fun c hc => Nat.isDigit_of_mem_toDigits (by decide) (by decide) hc

/-- The digits of a count of bytes are the count. -/
theorem digitsOf_whole (count : ℕ) :
    digitsOf (toString count ++ " " ++ ByteUnit.bytes.symbol) = count := by
  have hsymbol : (" ".toList ++ ByteUnit.bytes.symbol.toList).filter Char.isDigit = [] := by decide
  rw [digitsOf, String.toList_append, String.toList_append, List.append_assoc, List.filter_append,
    hsymbol, List.append_nil, filter_isDigit_toString, Nat.ofDigitChars_ten_toDigits]

/-- The digits of a number with two decimals are its hundredths. -/
theorem digitsOf_decimals (n : ℕ) (unit : ByteUnit) :
    digitsOf (decimals n ++ " " ++ unit.symbol) = n := by
  have hsymbol : (" ".toList ++ unit.symbol.toList).filter Char.isDigit = [] := by
    cases unit <;> decide
  have hpoint : ".".toList.filter Char.isDigit = [] := by decide
  have hdecimals : (decimals n).toList.filter Char.isDigit =
      Nat.toDigits 10 (n / 100) ++ (cents (n % 100)).filter Char.isDigit := by
    simp only [decimals, cents, String.toList_append, List.filter_append, List.append_assoc,
      hpoint, List.nil_append, filter_isDigit_toString]
  rw [digitsOf, String.toList_append, String.toList_append, List.append_assoc, List.filter_append,
    hsymbol, List.append_nil, hdecimals, Nat.ofDigitChars_append, Nat.ofDigitChars_ten_toDigits,
    ofDigitChars_cents (Nat.mod_lt n (by decide))]
  omega

/-- A text speaks of one number of hundredths only, which its digits tell. -/
theorem Says.number_eq (h : Says t n unit) :
    n = if unit = .bytes then 100 * digitsOf t else digitsOf t := by
  cases h with
  | whole count => rw [if_pos rfl, digitsOf_whole]
  | decimals n hlarger => rw [if_neg hlarger, digitsOf_decimals]

/-- A text says one thing only. -/
theorem Says.unique (h : Says t n unit) (h' : Says t n' unit') : n = n' ∧ unit = unit' := by
  obtain rfl := h.unit_eq h'
  exact ⟨h.number_eq.trans h'.number_eq.symm, rfl⟩

end ByteSize

end ArchiveDesk
