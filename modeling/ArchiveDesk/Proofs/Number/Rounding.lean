import ArchiveDesk.Number.Rounding
import Mathlib.Algebra.Order.Field.Basic
import Mathlib.Algebra.Order.Ring.Abs
import Mathlib.Data.Rat.Cast.Order
import Mathlib.Tactic.FieldSimp
import Mathlib.Tactic.Linarith
import Mathlib.Tactic.Ring

/-!
# Rounding to whole numbers and to significant digits

A value has one nearest whole number, and a smaller value has no larger one. A whole number that
is rounded to a count of binary digits is rounded to a multiple of the place of its last digit;
this keeps the order of numbers too, although the place depends on the number.
-/

namespace ArchiveDesk.Number

/-! ## Whole numbers -/

/-- The whole number nearest to a value. Of two that are equally near it is the even one. -/
structure IsNearest (v : ℚ) (n : ℕ) : Prop where
  near : |v - n| ≤ 1 / 2
  even : |v - n| = 1 / 2 → Even n

variable {v w : ℚ} {m n : ℕ}

/-- A whole number is nearest to itself. -/
theorem isNearest_natCast (n : ℕ) : IsNearest n n where
  near := by norm_num
  even h := by norm_num at h

/-- Rounding keeps the order of values. -/
theorem IsNearest.le_of_le (hv : IsNearest v m) (hw : IsNearest w n) (hle : v ≤ w) : m ≤ n := by
  by_contra hlt
  have hsucc : n + 1 ≤ m := by omega
  have hcast : (n : ℚ) + 1 ≤ m := by exact_mod_cast hsucc
  obtain ⟨hlow, -⟩ := abs_le.mp hv.near
  obtain ⟨-, hhigh⟩ := abs_le.mp hw.near
  -- Only a tie is rounded to both numbers, and not both of them are even.
  have hm : (m : ℚ) = n + 1 := by linarith
  have htieV : v - m = -(1 / 2) := by linarith
  have htieW : w - n = 1 / 2 := by linarith
  have hevenM : Even m := hv.even (by rw [htieV, abs_neg, abs_of_pos (by norm_num)])
  have hevenN : Even n := hw.even (by rw [htieW, abs_of_pos (by norm_num)])
  obtain rfl : m = n + 1 := by exact_mod_cast hm
  exact Nat.not_even_iff_odd.mpr hevenN.add_one hevenM

/-- There is only one nearest whole number. -/
theorem IsNearest.unique (hm : IsNearest v m) (hn : IsNearest v n) : m = n :=
  Nat.le_antisymm (hm.le_of_le hn le_rfl) (hn.le_of_le hm le_rfl)

/-- A value that is at most a whole number is not rounded beyond it. -/
theorem IsNearest.le_natCast (hv : IsNearest v m) (hle : v ≤ n) : m ≤ n :=
  hv.le_of_le (isNearest_natCast n) hle

/-- A value that is at least a whole number is not rounded below it. -/
theorem IsNearest.natCast_le (hv : IsNearest v m) (hle : n ≤ v) : n ≤ m :=
  (isNearest_natCast n).le_of_le hv hle

/-- The values below the half before an even number are those that are not rounded up to it. -/
theorem IsNearest.lt_iff_of_even (hv : IsNearest v m) (hn : Even n) : m < n ↔ v < n - 1 / 2 := by
  obtain ⟨hlow, hhigh⟩ := abs_le.mp hv.near
  constructor
  · intro hlt
    have hcast : (m : ℚ) + 1 ≤ n := by exact_mod_cast hlt
    by_contra hge
    -- Otherwise the value is the half itself, and its nearest number before it is odd.
    have hm : (n : ℚ) = m + 1 := by linarith
    have htie : v - m = 1 / 2 := by linarith
    have heven : Even m := hv.even (by rw [htie, abs_of_pos (by norm_num)])
    obtain rfl : n = m + 1 := by exact_mod_cast hm
    exact Nat.not_even_iff_odd.mpr heven.add_one hn
  · intro hlt
    have hcast : (m : ℚ) < n := by linarith
    exact_mod_cast hcast

/-- Quotients are rounded to the nearest whole number. -/
theorem isNearest_nearest (num : ℕ) {den : ℕ} (hden : 0 < den) :
    IsNearest ((num : ℚ) / den) (nearest num den) := by
  have hpos : (0 : ℚ) < den := by exact_mod_cast hden
  have hrest : (num : ℚ) / den - (num / den : ℕ) = (num % den : ℕ) / den := by
    have hsplit : (num : ℚ) = den * (num / den : ℕ) + (num % den : ℕ) := by
      exact_mod_cast (Nat.div_add_mod num den).symm
    rw [eq_div_iff hpos.ne', sub_mul, div_mul_cancel₀ _ hpos.ne']
    linarith
  have hlow : (0 : ℚ) ≤ (num % den : ℕ) / den := by positivity
  have hhigh : ((num % den : ℕ) : ℚ) / den < 1 := by
    rw [div_lt_one hpos]
    exact_mod_cast Nat.mod_lt num hden
  have hhalf : ((num % den : ℕ) : ℚ) / den ≤ 1 / 2 ↔ 2 * (num % den) ≤ den := by
    rw [div_le_div_iff₀ hpos (by norm_num)]
    norm_cast
    omega
  have hhalf' : 1 / 2 ≤ ((num % den : ℕ) : ℚ) / den ↔ den ≤ 2 * (num % den) := by
    rw [div_le_div_iff₀ (by norm_num) hpos]
    norm_cast
    omega
  generalize ((num % den : ℕ) : ℚ) / den = rest at hrest hlow hhigh hhalf hhalf'
  have hdown : |(num : ℚ) / den - (num / den : ℕ)| = rest := by
    rw [hrest, abs_of_nonneg hlow]
  have hup : |(num : ℚ) / den - (num / den + 1 : ℕ)| = 1 - rest := by
    rw [Nat.cast_add, Nat.cast_one, ← sub_sub, hrest, abs_sub_comm, abs_of_pos (by linarith)]
  unfold nearest
  dsimp only
  split_ifs with hless hmore heven
  · refine ⟨hdown.trans_le (hhalf.mpr hless.le), fun htie => ?_⟩
    have hreached := hhalf'.mp (hdown.symm.trans htie).ge
    omega
  · refine ⟨hup.trans_le (by linarith [hhalf'.mpr hmore.le]), fun htie => ?_⟩
    have hreached := hhalf.mp (by linarith)
    omega
  · exact ⟨hdown.trans_le (hhalf.mpr (by omega)), fun _ => Nat.even_iff.mpr heven⟩
  · refine ⟨hup.trans_le (by linarith [hhalf'.mpr (by omega)]), fun _ => ?_⟩
    rw [Nat.even_add_one, Nat.even_iff]
    exact heven

/-! ## Significant digits -/

/-- A number in multiples of a power of two, which is the place of the last of so many digits: it
fits in them, and it fills the first of them unless the last one counts ones. -/
structure RoundsAt (bits place n m : ℕ) : Prop where
  fits : n < 2 ^ (bits + place)
  first : place = 0 ∨ 2 ^ (bits + place) ≤ 2 * n
  nearest : IsNearest (n / 2 ^ place) m

/-- A number rounded to a count of binary digits: to a multiple of the place of its last one,
counted from the first. -/
def IsRounded (bits n r : ℕ) : Prop := ∃ place m, RoundsAt bits place n m ∧ r = m * 2 ^ place

variable {bits r r' n' : ℕ}

/-- A number that fits in the digits is kept. -/
theorem isRounded_self (h : n < 2 ^ bits) : IsRounded bits n n := by
  refine ⟨0, n, ⟨h, .inl rfl, ?_⟩, by simp⟩
  simpa using isNearest_natCast n

/-- Rounding to significant digits keeps the order of numbers. -/
theorem IsRounded.le_of_le (hr : IsRounded (bits + 1) n r) (hr' : IsRounded (bits + 1) n' r')
    (hle : n ≤ n') : r ≤ r' := by
  obtain ⟨place, m, ⟨hfits, hfirst, hm⟩, rfl⟩ := hr
  obtain ⟨place', m', ⟨hfits', hfirst', hm'⟩, rfl⟩ := hr'
  have hpos (k : ℕ) : (0 : ℚ) < 2 ^ k := by positivity
  rcases Nat.lt_trichotomy place place' with hlt | rfl | hgt
  · -- The power of two between the numbers is rounded to itself in both places.
    have hbelow : m ≤ 2 ^ (bits + 1) := by
      refine hm.le_natCast ?_
      rw [div_le_iff₀ (hpos place)]
      exact_mod_cast (hfits.le.trans_eq (Nat.pow_add ..))
    have habove : 2 ^ bits ≤ m' := by
      refine hm'.natCast_le ?_
      rw [le_div_iff₀ (hpos place')]
      have hhalf : 2 ^ (bits + 1 + place') = 2 * (2 ^ bits * 2 ^ place') := by ring
      have hreached : 2 ^ bits * 2 ^ place' ≤ n' := by omega
      exact_mod_cast hreached
    calc m * 2 ^ place ≤ 2 ^ (bits + 1) * 2 ^ place := Nat.mul_le_mul_right _ hbelow
      _ = 2 ^ bits * 2 ^ (place + 1) := by ring
      _ ≤ 2 ^ bits * 2 ^ place' := Nat.mul_le_mul_left _ (Nat.pow_le_pow_right two_pos hlt)
      _ ≤ m' * 2 ^ place' := Nat.mul_le_mul_right _ habove
  · refine Nat.mul_le_mul_right _ (hm.le_of_le hm' ?_)
    rw [div_le_div_iff_of_pos_right (hpos place)]
    exact_mod_cast hle
  · -- The smaller number has no longer place.
    have hfirst := hfirst.resolve_left (by omega)
    have hlonger : 2 ^ (bits + 1 + place' + 1) ≤ 2 ^ (bits + 1 + place) :=
      Nat.pow_le_pow_right two_pos (by omega)
    rw [Nat.pow_succ] at hlonger
    omega

/-- A number is rounded to one number only. -/
theorem IsRounded.unique (hr : IsRounded (bits + 1) n r) (hr' : IsRounded (bits + 1) n r') :
    r = r' :=
  Nat.le_antisymm (hr.le_of_le hr' le_rfl) (hr'.le_of_le hr le_rfl)

/-- The first number with one digit too many is a power of two, and is kept as well. -/
theorem IsRounded.eq_self (hr : IsRounded (bits + 1) n r) (h : n ≤ 2 ^ (bits + 1)) : r = n := by
  rcases h.lt_or_eq with hlt | rfl
  · exact hr.unique (isRounded_self hlt)
  · refine hr.unique ⟨1, 2 ^ bits, ⟨?_, .inr ?_, ?_⟩, by ring⟩
    · exact Nat.pow_lt_pow_right (by norm_num) (by omega)
    · exact (Nat.pow_succ' ..).le
    · have hhalf : ((2 ^ (bits + 1) : ℕ) : ℚ) / 2 ^ 1 = (2 ^ bits : ℕ) := by
        push_cast
        rw [pow_succ]
        ring
      rw [hhalf]
      exact isNearest_natCast _

end ArchiveDesk.Number
