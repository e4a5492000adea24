import ArchiveDesk.Number.Binary64
import Mathlib.Algebra.Order.Field.Power
import Mathlib.Data.Rat.Cast.Order
import Mathlib.Tactic.FieldSimp
import Mathlib.Tactic.Ring

/-!
# The values of binary numbers

A binary number stands for a rational number. It is turned into an integer exactly if its value
is one, and a large natural number is rounded to an even one.
-/

namespace ArchiveDesk.Number.Binary64

/-- The value of the number. -/
def toRat (x : Binary64) : ℚ :=
  (if x.negative then -(x.significand : ℚ) else x.significand) * 2 ^ x.exponent

/-- The denominator of a number is a power of two and not zero. -/
theorem den_pos (x : Binary64) : 0 < x.den := Nat.two_pow_pos _

/-- A power of two is the quotient of its numerator and its denominator. -/
theorem two_zpow (e : Int) : (2 : ℚ) ^ e = powerNum e / powerDen e := by
  obtain ⟨n, rfl | rfl⟩ := e.eq_nat_or_neg
  · simp [powerNum, powerDen]
  · simp [powerNum, powerDen]

/-- The value of a number is the quotient of its two parts. -/
theorem toRat_eq (x : Binary64) : x.toRat = x.signedNum / x.den := by
  rw [toRat, two_zpow, signedNum, num, den]
  split <;> push_cast <;> ring

private theorem toInt?_eq_some_iff_mul {x : Binary64} {n : Int} :
    x.toInt? = some n ↔ n * x.den = x.signedNum := by
  have hden : x.den ≠ 0 := x.den_pos.ne'
  rw [toInt?]
  split
  · rename_i hmod
    obtain ⟨k, hk⟩ := Nat.dvd_of_mod_eq_zero hmod
    have hdiv : x.num / x.den = k := by rw [hk, Nat.mul_div_cancel_left k x.den_pos]
    rw [← Int.natCast_ediv, hdiv, signedNum, hk, Option.some_inj, eq_comm, mul_comm]
    cases x.negative with
    | false => simp [hden]
    | true => simp [hden, ← mul_neg]
  · rename_i hmod
    refine iff_of_false nofun fun hmul => hmod (Nat.mod_eq_zero_of_dvd ?_)
    have hdvd : (x.den : Int) ∣ x.signedNum := ⟨n, by rw [← hmul, mul_comm]⟩
    unfold signedNum at hdvd
    split at hdvd
    · exact Int.natCast_dvd_natCast.mp (Int.dvd_neg.mp hdvd)
    · exact Int.natCast_dvd_natCast.mp hdvd

/-- The integer of a number is its value. -/
theorem toInt?_eq_some_iff {x : Binary64} {n : Int} : x.toInt? = some n ↔ (n : ℚ) = x.toRat := by
  have hden : (x.den : ℚ) ≠ 0 := Nat.cast_ne_zero.mpr x.den_pos.ne'
  rw [toInt?_eq_some_iff_mul, toRat_eq, eq_div_iff hden]
  norm_cast

/-- Only a number whose value is no integer has no integer. -/
theorem toInt?_eq_none_iff {x : Binary64} : x.toInt? = none ↔ ∀ n : Int, (n : ℚ) ≠ x.toRat := by
  simp only [Option.eq_none_iff_forall_ne_some, ne_eq, toInt?_eq_some_iff]

/-! ## Large natural numbers -/

/-- A number that is at least `2 ^ k` has more than `k` digits. -/
theorem two_pow_le_bitLength {n k : Nat} (h : 2 ^ k ≤ n) : k < bitLength n := by
  have hn : n ≠ 0 := (Nat.two_pow_pos k |>.trans_le h).ne'
  rw [bitLength, if_neg hn]
  exact Nat.lt_succ_of_le ((Nat.le_log2 hn).mpr h)

/-- A number with more digits than a significand is scaled by a positive power of two. -/
theorem scaleOf_pos {n : Nat} (h : 2 ^ 54 ≤ n) : 0 < scaleOf n 1 := by
  have hlength := two_pow_le_bitLength h
  have hone : bitLength 1 = 1 := by decide
  simp only [scaleOf, hone]
  split <;> omega

/-- Its binary number then has a positive exponent. -/
theorem exponent_pos_of_ofNat? {n : Nat} {x : Binary64} (h : 2 ^ 54 ≤ n)
    (hx : ofNat? n = some x) : 0 < x.exponent := by
  have hpos := scaleOf_pos h
  rw [ofNat?, ofQuotient?, if_neg (Nat.two_pow_pos 54 |>.trans_le h).ne'] at hx
  dsimp only at hx
  split at hx <;> split at hx <;> simp only [Option.some_inj, reduceCtorEq] at hx <;> subst hx
  · exact Int.add_pos hpos Int.one_pos
  · exact hpos

/-- An integer with a positive exponent is even. -/
theorem even_of_exponent_pos {x : Binary64} {n : Int} (h : 0 < x.exponent)
    (hn : x.toInt? = some n) : 2 ∣ n := by
  have heven : (2 : Int) ∣ x.signedNum := by
    have hnum : 2 ∣ x.num := Dvd.dvd.mul_left (dvd_pow_self 2 (by omega)) x.significand
    unfold signedNum
    split <;> omega
  have hden : x.den = 1 := by
    simp [den, powerDen, Int.toNat_of_nonpos (show -x.exponent ≤ 0 by omega)]
  have hmul := toInt?_eq_some_iff_mul.mp hn
  rw [hden] at hmul
  omega

end ArchiveDesk.Number.Binary64
