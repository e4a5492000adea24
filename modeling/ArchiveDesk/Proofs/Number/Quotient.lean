import ArchiveDesk.Proofs.Number.Binary64
import ArchiveDesk.Proofs.Number.Rounding

/-!
# Rounded quotients as binary numbers

The scale of a quotient is found from the lengths of its two parts, which leave a choice of two.
It is the one at which the quotient has 53 digits before the point. So a quotient that has no more
digits is not rounded, and a natural number is rounded to its first 53 digits. Whatever its size,
a quotient comes out in the one form that its value has.
-/

namespace ArchiveDesk.Number.Binary64

/-- A number with all its digits, so that there is one form of it. -/
structure IsNormal (x : Binary64) : Prop where
  first : 2 ^ 52 ≤ x.significand
  fits : x.significand < 2 ^ 53
  least : minExponent ≤ x.exponent
  greatest : x.exponent ≤ maxExponent

/-! ## Values -/

/-- The absolute value of a number as the quotient of its parts. -/
theorem num_div_den (x : Binary64) : (x.num : ℚ) / x.den = x.significand * 2 ^ x.exponent := by
  rw [two_zpow, num, den]
  push_cast
  ring

/-- The value of a number without a minus. -/
theorem toRat_of_not_negative {x : Binary64} (h : x.negative = false) :
    x.toRat = x.significand * 2 ^ x.exponent := by
  simp [toRat, h]

/-- Numbers are compared by their values. -/
theorem le_iff {x y : Binary64} : x.le y = true ↔ x.toRat ≤ y.toRat := by
  have hx : (0 : ℚ) < x.den := by exact_mod_cast x.den_pos
  have hy : (0 : ℚ) < y.den := by exact_mod_cast y.den_pos
  rw [le, decide_eq_true_eq, toRat_eq, toRat_eq, div_le_div_iff₀ hx hy]
  norm_cast

/-! ## The scale of a quotient -/

/-- A number lies between the powers of two that its length names. -/
theorem bitLength_bounds {n : ℕ} (hn : n ≠ 0) :
    (2 : ℚ) ^ ((bitLength n : ℤ) - 1) ≤ n ∧ (n : ℚ) < 2 ^ (bitLength n : ℤ) := by
  have hlength : bitLength n = n.log2 + 1 := if_neg hn
  have hlow : 2 ^ n.log2 ≤ n := Nat.log2_self_le hn
  have hhigh : n < 2 ^ (n.log2 + 1) := Nat.lt_log2_self
  rw [hlength, Nat.cast_add_one, add_sub_cancel_right]
  constructor
  · exact_mod_cast hlow
  · exact_mod_cast hhigh

variable {num den : ℕ}

/-- Whether a quotient fits in the digits at an exponent. -/
theorem fits_iff (hden : 0 < den) (e : ℤ) :
    num * powerDen e < Nat.pow 2 53 * (den * powerNum e) ↔ (num : ℚ) / den < 2 ^ (53 + e) := by
  have hpos : (0 : ℚ) < den := by exact_mod_cast hden
  have hpower : (0 : ℚ) < powerDen e := by exact_mod_cast Nat.two_pow_pos _
  have hscale : (2 : ℚ) ^ (53 + e) = 2 ^ 53 * powerNum e / powerDen e := by
    rw [zpow_add₀ two_ne_zero, two_zpow e]
    norm_num
    ring
  rw [hscale, div_lt_div_iff₀ hpos hpower]
  have hpow : Nat.pow 2 53 = 2 ^ 53 := rfl
  rw [hpow, ← @Nat.cast_lt ℚ]
  push_cast
  ring_nf

/-- At its scale a quotient fits in the digits, and its first digit stands in the first place
unless the scale is the least exponent. -/
theorem scaleOf_bounds (hnum : num ≠ 0) (hden : 0 < den) :
    minExponent ≤ scaleOf num den ∧ (num : ℚ) / den < 2 ^ (53 + scaleOf num den) ∧
      ((2 : ℚ) ^ (52 + scaleOf num den) ≤ num / den ∨ scaleOf num den = minExponent) := by
  have hpos : (0 : ℚ) < den := by exact_mod_cast hden
  obtain ⟨hnumLow, hnumHigh⟩ := bitLength_bounds hnum
  obtain ⟨hdenLow, hdenHigh⟩ := bitLength_bounds hden.ne'
  have hmono {k l : ℤ} (h : k ≤ l) : (2 : ℚ) ^ k ≤ 2 ^ l := zpow_le_zpow_right₀ one_le_two h
  set guess : ℤ := (bitLength num : ℤ) - bitLength den - 53 with hguess
  -- The lengths of the two parts leave two exponents.
  have hlow : (2 : ℚ) ^ (52 + guess) ≤ num / den := by
    calc (2 : ℚ) ^ (52 + guess) = 2 ^ ((bitLength num : ℤ) - 1) / 2 ^ (bitLength den : ℤ) := by
          rw [← zpow_sub₀ two_ne_zero, hguess]
          ring_nf
      _ ≤ num / 2 ^ (bitLength den : ℤ) := by gcongr
      _ ≤ num / den := by gcongr
  have hhigh : (num : ℚ) / den < 2 ^ (54 + guess) := by
    calc (num : ℚ) / den < 2 ^ (bitLength num : ℤ) / den := by gcongr
      _ ≤ 2 ^ (bitLength num : ℤ) / 2 ^ ((bitLength den : ℤ) - 1) := by gcongr
      _ = 2 ^ (54 + guess) := by
          rw [← zpow_sub₀ two_ne_zero, hguess]
          ring_nf
  unfold scaleOf
  simp only [fits_iff hden, decide_eq_true_eq, ← hguess]
  split_ifs with hfits
  · refine ⟨le_max_left _ _, hfits.trans_le (hmono (by omega)), ?_⟩
    rcases le_total guess minExponent with h | h
    · exact .inr (max_eq_left h)
    · exact .inl (by rwa [max_eq_right h])
  · refine ⟨le_max_left _ _, hhigh.trans_le (hmono (by omega)), ?_⟩
    rcases le_total (guess + 1) minExponent with h | h
    · exact .inr (max_eq_left h)
    · refine .inl ?_
      rw [max_eq_right h, ← add_assoc, add_right_comm]
      exact not_lt.mp hfits

/-- The scale is the exponent at which the quotient has its first digit in the first place. -/
theorem scaleOf_eq (hnum : num ≠ 0) (hden : 0 < den) {e : ℤ} (hleast : minExponent ≤ e)
    (hlow : (2 : ℚ) ^ (52 + e) ≤ num / den) (hhigh : (num : ℚ) / den < 2 ^ (53 + e)) :
    scaleOf num den = e := by
  obtain ⟨-, hfits, hfirst⟩ := scaleOf_bounds hnum hden
  have hle : 52 + e < 53 + scaleOf num den :=
    (zpow_lt_zpow_iff_right₀ (one_lt_two (α := ℚ))).mp (hlow.trans_lt hfits)
  rcases hfirst with hfirst | hfirst
  · have hge : 52 + scaleOf num den < 53 + e :=
      (zpow_lt_zpow_iff_right₀ (one_lt_two (α := ℚ))).mp (hfirst.trans_lt hhigh)
    omega
  · omega

/-! ## The digits of a quotient -/

/-- The number of rounded digits. Rounding up may have given one digit too many. -/
def ofDigits (negative : Bool) (m : ℕ) (e : ℤ) : Binary64 :=
  if m = 2 ^ 53 then ⟨negative, 2 ^ 52, e + 1⟩ else ⟨negative, m, e⟩

/-- The carry does not change the sign. -/
theorem negative_ofDigits (negative : Bool) (m : ℕ) (e : ℤ) :
    (ofDigits negative m e).negative = negative := by
  unfold ofDigits
  split_ifs <;> rfl

/-- The carry raises the exponent by one at most. -/
theorem exponent_ofDigits (negative : Bool) (m : ℕ) (e : ℤ) :
    e ≤ (ofDigits negative m e).exponent ∧ (ofDigits negative m e).exponent ≤ e + 1 := by
  unfold ofDigits
  split_ifs
  · exact ⟨Int.le_add_one le_rfl, le_rfl⟩
  · exact ⟨le_rfl, Int.le_add_one le_rfl⟩

/-- Digits that begin in the first place still do so after the carry. -/
theorem isNormal_ofDigits {m : ℕ} {e : ℤ} (hfirst : 2 ^ 52 ≤ m) (hlast : m ≤ 2 ^ 53)
    (hleast : minExponent ≤ e) (hgreatest : e < maxExponent) (negative : Bool) :
    (ofDigits negative m e).IsNormal := by
  unfold ofDigits
  split_ifs with hcarry
  · exact ⟨le_rfl, by norm_num, Int.le_add_one hleast, hgreatest⟩
  · exact ⟨hfirst, lt_of_le_of_ne hlast hcarry, hleast, hgreatest.le⟩

/-- The carry does not change the value. -/
theorem toRat_ofDigits (m : ℕ) (e : ℤ) : (ofDigits false m e).toRat = m * 2 ^ e := by
  rw [toRat_of_not_negative (negative_ofDigits false m e)]
  unfold ofDigits
  split_ifs with hcarry
  · rw [hcarry, zpow_add_one₀ two_ne_zero]
    push_cast
    ring
  · rfl

/-- The digits of a quotient at an exponent are the nearest ones. -/
theorem isNearest_digits (hden : 0 < den) (e : ℤ) :
    IsNearest (num / den / 2 ^ e) (nearest (num * powerDen e) (den * powerNum e)) := by
  have hscaled : ((num * powerDen e : ℕ) : ℚ) / (den * powerNum e : ℕ) = num / den / 2 ^ e := by
    rw [two_zpow]
    push_cast
    field_simp
  exact hscaled ▸ isNearest_nearest (num * powerDen e)
    (Nat.mul_pos hden (Nat.two_pow_pos e.toNat))

/-- A quotient is the number of its digits at its scale, unless that is too large. -/
theorem ofQuotient?_of_ne_zero (hnum : num ≠ 0) (negative : Bool) {e : ℤ} {m : ℕ}
    (he : scaleOf num den = e) (hm : nearest (num * powerDen e) (den * powerNum e) = m) :
    ofQuotient? negative num den =
      if (ofDigits negative m e).exponent ≤ maxExponent then some (ofDigits negative m e)
      else none := by
  have hpow : Nat.pow 2 53 = 2 ^ 53 := rfl
  rw [ofQuotient?, if_neg hnum, he, ofDigits]
  dsimp only
  rw [hm, hpow]
  by_cases hcarry : m = 2 ^ 53
  · simp only [if_pos hcarry]
    rfl
  · simp only [if_neg hcarry]

/-- The digits of a quotient are the nearest ones. -/
theorem ofQuotient?_eq (hden : 0 < den) {e : ℤ} (hleast : minExponent ≤ e)
    (hgreatest : e < maxExponent) (hlow : (2 : ℚ) ^ (52 + e) ≤ num / den)
    (hhigh : (num : ℚ) / den < 2 ^ (53 + e)) {m : ℕ} (hm : IsNearest (num / den / 2 ^ e) m)
    (negative : Bool) : ofQuotient? negative num den = some (ofDigits negative m e) := by
  have hnum : num ≠ 0 := by
    rintro rfl
    have hpositive : (0 : ℚ) < 2 ^ (52 + e) := by positivity
    simp only [Nat.cast_zero, zero_div] at hlow
    linarith
  rw [ofQuotient?_of_ne_zero hnum negative (scaleOf_eq hnum hden hleast hlow hhigh)
    ((isNearest_digits hden e).unique hm)]
  exact if_pos ((exponent_ofDigits negative m e).2.trans hgreatest)

/-- A number in the form that arithmetic gives: its digits and its exponent fit, and its first
digit is set unless the exponent is the least one. -/
structure IsCanonical (x : Binary64) : Prop where
  fits : x.significand < 2 ^ 53
  least : minExponent ≤ x.exponent
  greatest : x.exponent ≤ maxExponent
  first : 2 ^ 52 ≤ x.significand ∨ x.exponent = minExponent

/-- The carry of rounded digits leaves them in the one form. -/
theorem isCanonical_ofDigits {negative : Bool} {m : ℕ} {e : ℤ}
    (hfirst : 2 ^ 52 ≤ m ∨ e = minExponent) (hlast : m ≤ 2 ^ 53) (hleast : minExponent ≤ e)
    (hgreatest : (ofDigits negative m e).exponent ≤ maxExponent) :
    (ofDigits negative m e).IsCanonical := by
  refine ⟨?_, hleast.trans (exponent_ofDigits negative m e).1, hgreatest, ?_⟩
  · unfold ofDigits
    split_ifs with hcarry
    · norm_num
    · exact lt_of_le_of_ne hlast hcarry
  · unfold ofDigits
    split_ifs with hcarry
    · exact .inl le_rfl
    · exact hfirst

/-- Every quotient is given in the one form, whatever the forms of its parts. Products and
readings of natural numbers are quotients too. -/
theorem isCanonical_of_ofQuotient? (hden : 0 < den) {negative : Bool} {x : Binary64}
    (hx : ofQuotient? negative num den = some x) : x.IsCanonical := by
  by_cases hnum : num = 0
  · rw [ofQuotient?, if_pos hnum] at hx
    obtain rfl := Option.some.inj hx
    have hrange : minExponent ≤ maxExponent := by decide
    exact ⟨Nat.two_pow_pos 53, le_rfl, hrange, .inr rfl⟩
  · obtain ⟨hleast, hfits, hfirst⟩ := scaleOf_bounds hnum hden
    rw [ofQuotient?_of_ne_zero hnum negative rfl rfl] at hx
    set e := scaleOf num den
    have hpos : (0 : ℚ) < 2 ^ e := by positivity
    have hsplit (k : ℕ) : ((2 ^ k : ℕ) : ℚ) * 2 ^ e = 2 ^ (k + e) := by
      rw [zpow_add₀ two_ne_zero, zpow_natCast, Nat.cast_pow, Nat.cast_ofNat]
    have hnearest : IsNearest (num / den / 2 ^ e) _ := isNearest_digits hden e
    generalize nearest (num * powerDen e) (den * powerNum e) = m at hx hnearest
    have hlast : m ≤ 2 ^ 53 := by
      refine hnearest.le_natCast ?_
      rw [div_le_iff₀ hpos, hsplit]
      exact hfits.le
    have hdigit : 2 ^ 52 ≤ m ∨ e = minExponent := by
      refine hfirst.imp_left fun hlow => hnearest.natCast_le ?_
      rw [le_div_iff₀ hpos, hsplit]
      exact hlow
    split_ifs at hx with hgreatest
    obtain rfl := Option.some.inj hx
    exact isCanonical_ofDigits hdigit hlast hleast hgreatest

/-- A quotient that is a binary number is not rounded. -/
theorem ofQuotient?_eq_self (hden : 0 < den) {x : Binary64} (hx : x.IsNormal)
    (hgreatest : x.exponent < maxExponent)
    (hvalue : (num : ℚ) / den = x.significand * 2 ^ x.exponent) :
    ofQuotient? x.negative num den = some x := by
  have hpos : (0 : ℚ) < 2 ^ x.exponent := by positivity
  have hfirst : (2 : ℚ) ^ 52 ≤ x.significand := by exact_mod_cast hx.first
  have hfits : (x.significand : ℚ) < 2 ^ 53 := by exact_mod_cast hx.fits
  have hlow : (2 : ℚ) ^ (52 + x.exponent) ≤ num / den := by
    rw [hvalue, zpow_add₀ two_ne_zero]
    exact mul_le_mul_of_nonneg_right hfirst hpos.le
  have hhigh : (num : ℚ) / den < 2 ^ (53 + x.exponent) := by
    rw [hvalue, zpow_add₀ two_ne_zero]
    exact mul_lt_mul_of_pos_right hfits hpos
  have hexact : (num : ℚ) / den / 2 ^ x.exponent = x.significand := by
    rw [hvalue, mul_div_cancel_right₀ _ hpos.ne']
  rw [ofQuotient?_eq hden hx.least hgreatest hlow hhigh (hexact ▸ isNearest_natCast _), ofDigits,
    if_neg hx.fits.ne]

/-- A division by a power of two changes the exponent alone. -/
theorem div?_two_zpow {x : Binary64} (hx : x.IsNormal) {k : ℤ}
    (hleast : minExponent ≤ x.exponent - k) (hgreatest : x.exponent - k < maxExponent) :
    x.div? ⟨false, Nat.pow 2 52, k - 52⟩ = some { x with exponent := x.exponent - k } := by
  set y : Binary64 := ⟨false, Nat.pow 2 52, k - 52⟩ with hy
  have hpower : (y.num : ℚ) / y.den = 2 ^ k := by
    rw [num_div_den, hy, zpow_sub₀ two_ne_zero]
    norm_num
    ring
  have hvalue : ((x.num * y.den : ℕ) : ℚ) / (x.den * y.num : ℕ) =
      x.significand * 2 ^ (x.exponent - k) := by
    have hsplit : ((x.num * y.den : ℕ) : ℚ) / (x.den * y.num : ℕ) =
        x.num / x.den / (y.num / y.den) := by
      push_cast
      rw [div_div_div_eq]
    rw [hsplit, hpower, num_div_den, zpow_sub₀ two_ne_zero]
    ring
  have hnum : 0 < y.num := Nat.mul_pos (Nat.two_pow_pos 52) (Nat.two_pow_pos _)
  have hsign : (x.negative != y.negative) = x.negative := by simp [hy]
  rw [div?, hsign]
  exact ofQuotient?_eq_self (Nat.mul_pos x.den_pos hnum)
    (x := { x with exponent := x.exponent - k }) ⟨hx.first, hx.fits, hleast, hgreatest.le⟩
    hgreatest hvalue

/-! ## Natural numbers -/

/-- The binary number has all its digits, as many of them after the point as a word can leave, and
its value is what the natural number is rounded to. -/
structure Holds (x : Binary64) (n r : ℕ) : Prop where
  normal : x.IsNormal
  sign : x.negative = false
  least : -52 ≤ x.exponent
  greatest : x.exponent ≤ 12
  rounded : IsRounded 53 n r
  value : x.toRat = r

variable {n : ℕ}

/-- A number that fits in the digits has zeros after its own ones. -/
theorem exists_ofNat?_of_lt (hn : n ≠ 0) (hfits : n < 2 ^ 53) :
    ∃ x, ofNat? n = some x ∧ x.Holds n n := by
  have hlow : 2 ^ n.log2 ≤ n := Nat.log2_self_le hn
  have hhigh : n < 2 ^ (n.log2 + 1) := Nat.lt_log2_self
  have hshort : n.log2 < 53 := (Nat.log2_lt hn).mpr hfits
  have hleast : minExponent = -1074 := rfl
  have hgreatest : maxExponent = 971 := rfl
  obtain ⟨k, hk⟩ : ∃ k, n.log2 + k = 52 := ⟨52 - n.log2, by omega⟩
  have hfirst : 2 ^ 52 ≤ n * 2 ^ k := by
    calc 2 ^ 52 = 2 ^ n.log2 * 2 ^ k := by rw [← hk, Nat.pow_add]
      _ ≤ n * 2 ^ k := Nat.mul_le_mul_right _ hlow
  have hlast : n * 2 ^ k < 2 ^ 53 := by
    calc n * 2 ^ k < 2 ^ (n.log2 + 1) * 2 ^ k :=
          Nat.mul_lt_mul_of_pos_right hhigh (Nat.two_pow_pos k)
      _ = 2 ^ (n.log2 + k + 1) := by ring
      _ = 2 ^ 53 := by rw [hk]
  set x : Binary64 := ⟨false, n * 2 ^ k, -k⟩ with hx
  have hexponent : x.exponent = -k := rfl
  have hnormal : x.IsNormal := ⟨hfirst, hlast, by omega, by omega⟩
  have hvalue : (x.significand : ℚ) * 2 ^ x.exponent = n := by simp [hx]
  refine ⟨x, ?_, hnormal, rfl, by omega, by omega, isRounded_self hfits, ?_⟩
  · refine ofQuotient?_eq_self Nat.one_pos hnormal (by omega) ?_
    rw [hvalue, Nat.cast_one, div_one]
  · rw [toRat_of_not_negative rfl, hvalue]

/-- A longer number is rounded, and may then be a power of two with one digit more. -/
theorem exists_ofNat?_of_le (hlong : 2 ^ 53 ≤ n) (hword : n < 2 ^ 64) :
    ∃ x r, ofNat? n = some x ∧ x.Holds n r := by
  have hn : n ≠ 0 := (Nat.two_pow_pos 53 |>.trans_le hlong).ne'
  have hlow : 2 ^ n.log2 ≤ n := Nat.log2_self_le hn
  have hhigh : n < 2 ^ (n.log2 + 1) := Nat.lt_log2_self
  have hlength : 53 ≤ n.log2 := (Nat.le_log2 hn).mpr hlong
  have hlog : n.log2 < 64 := (Nat.log2_lt hn).mpr hword
  have hleast : minExponent = -1074 := rfl
  have hgreatest : maxExponent = 971 := rfl
  obtain ⟨place, hplace⟩ : ∃ place, n.log2 = 52 + place := ⟨n.log2 - 52, by omega⟩
  rw [hplace] at hlow hhigh
  have hpos : (0 : ℚ) < 2 ^ place := by positivity
  set m := nearest n (2 ^ place) with hm
  have hnearest : IsNearest (n / 2 ^ place) m := by
    have hrounded := isNearest_nearest n (Nat.two_pow_pos place)
    exact_mod_cast hrounded
  have hrounded : RoundsAt 53 place n m := by
    refine ⟨?_, .inr ?_, hnearest⟩
    · rwa [Nat.add_right_comm] at hhigh
    · rw [Nat.add_right_comm 52 1, Nat.pow_succ']
      exact Nat.mul_le_mul_left 2 hlow
  have hfirst : 2 ^ 52 ≤ m := by
    refine hnearest.natCast_le ?_
    rw [le_div_iff₀ hpos]
    exact_mod_cast Nat.pow_add .. ▸ hlow
  have hlast : m ≤ 2 ^ 53 := by
    refine hnearest.le_natCast ?_
    rw [div_le_iff₀ hpos]
    exact_mod_cast Nat.pow_add .. ▸ hrounded.fits.le
  have hvalue : (n : ℚ) / (1 : ℕ) = n := by rw [Nat.cast_one, div_one]
  have hquotient : ofNat? n = some (ofDigits false m place) := by
    refine ofQuotient?_eq Nat.one_pos (by omega) (by omega) ?_ ?_ ?_ false
    · rw [hvalue]
      exact_mod_cast hlow
    · rw [hvalue]
      exact_mod_cast hrounded.fits
    · rw [hvalue]
      exact_mod_cast hnearest
  obtain ⟨hbelow, habove⟩ := exponent_ofDigits false m place
  refine ⟨_, m * 2 ^ place, hquotient, isNormal_ofDigits hfirst hlast (by omega) (by omega) false,
    negative_ofDigits .., by omega, by omega, ⟨place, m, hrounded, rfl⟩, ?_⟩
  rw [toRat_ofDigits, zpow_natCast]
  push_cast
  rfl

/-- A number of 64 bits is rounded to its first 53 digits. -/
theorem exists_ofNat? (hn : n ≠ 0) (hword : n < 2 ^ 64) :
    ∃ x r, ofNat? n = some x ∧ x.Holds n r := by
  by_cases hfits : n < 2 ^ 53
  · obtain ⟨x, hread, hholds⟩ := exists_ofNat?_of_lt hn hfits
    exact ⟨x, n, hread, hholds⟩
  · exact exists_ofNat?_of_le (not_lt.mp hfits) hword

end ArchiveDesk.Number.Binary64
