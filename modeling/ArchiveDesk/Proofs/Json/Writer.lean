import ArchiveDesk.Json.Writer
import Mathlib.Data.String.Basic

/-!
# Capital letters in compact JSON texts

Numbers are written without capital letters, and the other values begin with a small letter, a
quote or a bracket. So a bare word in capitals is never the compact text of a value.
-/

namespace ArchiveDesk

/-- The text has no capital letter of the Latin alphabet. -/
def HasNoCapital (s : String) : Prop := ∀ c ∈ s.toList, c.isUpper = false

instance (s : String) : Decidable (HasNoCapital s) := List.decidableBAll _ _

/-- Texts without capitals are joined to one without capitals. -/
theorem HasNoCapital.append {s t : String} (hs : HasNoCapital s) (ht : HasNoCapital t) :
    HasNoCapital (s ++ t) := by
  intro c hc
  rw [String.toList_append, List.mem_append] at hc
  exact hc.elim (hs c) (ht c)

private theorem isUpper_eq_false_of_isDigit {c : Char} (h : c.isDigit = true) :
    c.isUpper = false := by
  rw [← Bool.not_eq_true]
  intro hupper
  have hletter : 'A'.val ≤ c.val ∧ c.val ≤ 'Z'.val := of_decide_eq_true hupper
  simp only [Char.isDigit, Bool.and_eq_true, decide_eq_true_eq, ge_iff_le,
    UInt32.le_iff_toNat_le] at h hletter
  have hnine : '9'.val.toNat = 57 := rfl
  have hfirst : 'A'.val.toNat = 65 := rfl
  omega

/-- A natural number is written without capitals. -/
theorem hasNoCapital_nat (n : Nat) : HasNoCapital (toString n) := by
  intro c hc
  rw [Nat.toString_eq_repr, Nat.toList_repr] at hc
  exact isUpper_eq_false_of_isDigit (Nat.isDigit_of_mem_toDigits (by decide) (by decide) hc)

/-- An integer is written without capitals. -/
theorem hasNoCapital_int (n : Int) : HasNoCapital (toString n) := by
  rw [Int.toString_eq_repr, Int.repr_eq_if]
  split
  · exact hasNoCapital_nat _
  · exact HasNoCapital.append (by decide) (hasNoCapital_nat _)

namespace Number

/-- A list of digits is written without capitals. -/
theorem Digits.hasNoCapital_text (ds : List Nat) : HasNoCapital (Digits.text ds) := by
  intro c hc
  rw [Digits.text, String.toList_join] at hc
  obtain ⟨s, hs, hc⟩ := List.mem_flatMap.mp hc
  obtain ⟨d, -, rfl⟩ := List.mem_map.mp hs
  exact hasNoCapital_nat d c hc

/-- A binary number is written without capitals. -/
theorem Binary64.hasNoCapital_text (x : Binary64) : HasNoCapital x.text := by
  have hsign : HasNoCapital (if x.negative then "-" else "") := by
    split <;> decide
  unfold Binary64.text
  dsimp only
  split
  · exact hsign.append (by decide)
  split
  · split
    · exact (hsign.append (by decide)).append (Digits.hasNoCapital_text _)
    · refine ((hsign.append (Digits.hasNoCapital_text _)).append (by decide)).append ?_
      exact Digits.hasNoCapital_text _
  · refine (((hsign.append ?_).append (by decide)).append ?_).append (hasNoCapital_nat _)
    · split
      · decide
      · exact hasNoCapital_nat _
      · exact ((hasNoCapital_nat _).append (by decide)).append (Digits.hasNoCapital_text _)
    · split <;> decide

end Number

namespace Json

/-- The compact text of a value does not begin with a capital letter. -/
theorem head?_write_ne_capital (value : Json) {c : Char} (hc : c.isUpper = true) :
    value.write.toList.head? ≠ some c := by
  have hnumber {s : String} (hs : HasNoCapital s) : s.toList.head? ≠ some c := by
    intro hhead
    exact absurd (hc.symm.trans (hs c (List.mem_of_mem_head? hhead))) nofun
  have hstart {d : Char} {rest : List Char} (hd : d.isUpper = false) :
      (d :: rest).head? ≠ some c := by
    rintro ⟨rfl⟩
    exact absurd (hc.symm.trans hd) nofun
  cases value with
  | null => exact hstart rfl
  | bool b => cases b <;> exact hstart rfl
  | integer n => exact hnumber (hasNoCapital_int n)
  | float x => exact hnumber x.hasNoCapital_text
  | text s =>
    rw [write, writeText, String.toList_ofList]
    exact hstart rfl
  | array items =>
    rw [write, String.toList_append, String.toList_append]
    exact hstart rfl
  | object members =>
    rw [write, String.toList_append, String.toList_append]
    exact hstart rfl

end Json

end ArchiveDesk
