import ArchiveDesk.Number.Word
import ArchiveDesk.Proofs.ByteSize.Said
import ArchiveDesk.Proofs.Number.Quotient

/-!
# Byte counts are rounded twice

A count is rounded once to 53 binary digits and once to two decimals. The divisions between the
two are exact, so the unit and the hundredths follow from the rounded count by exact arithmetic.
A larger count never shows less.
-/

namespace ArchiveDesk

open Number (Binary64 IsNearest IsRounded)

/-! ## The largest unit that a number of bytes fills -/

namespace ByteUnit

/-- The largest unit that a number of bytes fills, or else bytes. -/
def ofBytes (r : ℕ) : ByteUnit :=
  if r < 1024 then bytes
  else if r < 1024 ^ 2 then kilobytes
  else if r < 1024 ^ 3 then megabytes
  else gigabytes

/-- A unit is at least one byte. -/
theorem size_pos (unit : ByteUnit) : 0 < unit.size := by
  cases unit <;> decide

variable {r r' : ℕ}

/-- Less than 1024 bytes fill no larger unit. -/
theorem ofBytes_eq_bytes_iff : ofBytes r = bytes ↔ r < 1024 := by
  unfold ofBytes
  split_ifs <;> simp [*]

/-- The unit is filled at least once. -/
theorem size_ofBytes_le (h : r ≠ 0) : (ofBytes r).size ≤ r := by
  unfold ofBytes
  split_ifs <;> simp only [size] <;> omega

/-- Of all units but the last the bytes fill less than the next one. -/
theorem lt_of_ofBytes_ne (h : ofBytes r ≠ gigabytes) : r < 1024 * (ofBytes r).size := by
  unfold ofBytes at h ⊢
  split_ifs at h ⊢ <;> simp only [size] <;> first | omega | exact absurd rfl h

/-- Only one unit is filled, and the next one not. -/
theorem ofBytes_eq {unit : ByteUnit} (hfills : unit.size ≤ r) (hless : r < 1024 * unit.size) :
    ofBytes r = unit := by
  unfold ofBytes
  cases unit <;> simp only [size] at hfills hless <;> split_ifs <;> first | rfl | omega

/-- The units after the others go up to the gigabyte. -/
theorem next_le {unit : ByteUnit} (h : unit ≠ gigabytes) : 1024 * unit.size ≤ 1024 ^ 3 := by
  cases unit <;> first | decide | exact absurd rfl h

/-- More bytes have the same unit or a larger one. -/
theorem ofBytes_eq_or_size_le (h : r ≤ r') :
    ofBytes r = ofBytes r' ∨ 1024 * (ofBytes r).size ≤ (ofBytes r').size := by
  unfold ofBytes
  split_ifs <;> first | exact .inl rfl | omega | exact .inr (by decide)

/-- How often a number of bytes is divided by 1024. -/
theorem exists_power (h : r ≠ 0) :
    ∃ k, (bytes :: ByteSize.largerUnits)[k]? = some (ofBytes r) ∧ (ofBytes r).size = 1024 ^ k ∧
      k ≤ ByteSize.largerUnits.length ∧ 1024 ^ k ≤ r ∧
      (k = ByteSize.largerUnits.length ∨ r < 1024 ^ (k + 1)) := by
  have hthree : ByteSize.largerUnits.length = 3 := rfl
  unfold ofBytes
  split_ifs
  · exact ⟨0, rfl, rfl, by omega, by omega, .inr (by omega)⟩
  · exact ⟨1, rfl, rfl, by omega, by omega, .inr (by omega)⟩
  · exact ⟨2, rfl, rfl, by omega, by omega, .inr (by omega)⟩
  · exact ⟨3, rfl, rfl, by omega, by omega, .inl rfl⟩

end ByteUnit

namespace ByteSize

/-! ## Exact divisions -/

/-- The ratio of two units that follow each other is 1024. -/
theorem toRat_ratio : ratio.toRat = 1024 := by
  rw [Binary64.toRat_of_not_negative rfl, ratio]
  norm_num

/-- Each division makes the exponent smaller by ten. They go on as often as the number holds 1024
and a unit is left. -/
theorem reduce?_eq {x : Binary64} (hx : x.IsNormal) (hsign : x.negative = false)
    (hgreatest : x.exponent < Binary64.maxExponent) {unit target : ByteUnit}
    {larger : List ByteUnit} {k : ℕ} (htarget : (unit :: larger)[k]? = some target)
    (hleast : Binary64.minExponent ≤ x.exponent - 10 * k) (hfills : 1024 ^ k ≤ x.toRat)
    (hleft : k = larger.length ∨ x.toRat < 1024 ^ (k + 1)) :
    reduce? x unit larger = some ({ x with exponent := x.exponent - 10 * k }, target) := by
  induction larger generalizing x unit k with
  | nil =>
    obtain ⟨rfl, rfl⟩ : k = 0 ∧ unit = target := by
      cases k with
      | zero => simpa using htarget
      | succ k => simp at htarget
    simp [reduce?]
  | cons next rest ih =>
    cases k with
    | zero =>
      obtain rfl : unit = target := by simpa using htarget
      have hbelow : x.toRat < 1024 := by simpa using hleft
      have hstop : ¬ ratio.le x = true := by
        rw [Binary64.le_iff, toRat_ratio]
        exact not_le.mpr hbelow
      simp [reduce?, hstop]
    | succ k =>
      set y : Binary64 := { x with exponent := x.exponent - 10 } with hy
      have hexponent : y.exponent = x.exponent - 10 := rfl
      have hpositive : y.negative = false := hsign
      push_cast at hleast
      have hstep : 1024 ≤ x.toRat := by
        refine le_trans ?_ hfills
        rw [pow_succ]
        exact le_mul_of_one_le_left (by norm_num) (one_le_pow₀ (by norm_num))
      have hgo : ratio.le x = true := by rwa [Binary64.le_iff, toRat_ratio]
      have hdivided : x.div? ratio = some y :=
        Binary64.div?_two_zpow hx (k := 10) (by omega) (by omega)
      have hvalue : y.toRat = x.toRat / 1024 := by
        rw [Binary64.toRat_of_not_negative hpositive, Binary64.toRat_of_not_negative hsign,
          hexponent, zpow_sub₀ two_ne_zero]
        norm_num
        ring
      have hnormal : y.IsNormal := ⟨hx.first, hx.fits, by omega, by omega⟩
      have hrest := ih hnormal hsign (by omega) (k := k) (by simpa using htarget) (by omega)
        (by
          rw [hvalue, le_div_iff₀ (by norm_num), ← pow_succ]
          exact hfills)
        (by
          rw [hvalue, div_lt_iff₀ (by norm_num), ← pow_succ]
          simpa using hleft)
      have hsum : y.exponent - 10 * k = x.exponent - 10 * (k + 1 : ℕ) := by
        push_cast
        omega
      rw [reduce?, if_pos hgo, hdivided]
      simp only [Option.bind_eq_bind, Option.bind_some, hrest, hsum]
      rfl

variable {size size' : ℕ}

/-- The count as it is shown: its first 53 digits, divided exactly. -/
theorem exists_reduced? (hsize : size ≠ 0) (hword : size < 2 ^ 64) :
    ∃ r y, IsRounded 53 size r ∧ y.negative = false ∧
      reduced? size = some (y, .ofBytes r) ∧ y.toRat = r / (ByteUnit.ofBytes r).size := by
  obtain ⟨x, r, hread, hholds⟩ := Binary64.exists_ofNat? hsize hword
  have hrounded := hholds.rounded
  have hr : r ≠ 0 := by
    have hone : 1 ≤ r :=
      (Number.isRounded_self (by norm_num)).le_of_le hrounded (Nat.one_le_iff_ne_zero.mpr hsize)
    omega
  obtain ⟨k, htarget, hpower, hunits, hfills, hleft⟩ := ByteUnit.exists_power hr
  have hthree : largerUnits.length = 3 := rfl
  have hleast : Binary64.minExponent = -1074 := rfl
  have hgreatest : Binary64.maxExponent = 971 := rfl
  have hlow := hholds.least
  have hhigh := hholds.greatest
  have hreduced := reduce?_eq hholds.normal hholds.sign (by omega) htarget (by omega)
    (by
      rw [hholds.value]
      exact_mod_cast hfills)
    (by
      rw [hholds.value]
      exact_mod_cast hleft)
  set y : Binary64 := { x with exponent := x.exponent - 10 * k } with hy
  have hexponent : y.exponent = x.exponent - 10 * k := rfl
  have hpositive : y.negative = false := hholds.sign
  refine ⟨r, y, hrounded, hpositive, ?_, ?_⟩
  · rw [reduced?, hread]
    exact hreduced
  · have hscale : (2 : ℚ) ^ (10 * (k : ℤ)) = 1024 ^ k := by
      rw [zpow_mul, zpow_natCast]
      norm_num
    rw [Binary64.toRat_of_not_negative hpositive, hexponent, zpow_sub₀ two_ne_zero, hscale, hpower,
      ← hholds.value, Binary64.toRat_of_not_negative hholds.sign]
    push_cast
    ring

/-- The hundredths of a number are the whole number nearest to them. -/
theorem isNearest_hundredths {y : Binary64} (hsign : y.negative = false) :
    IsNearest (100 * y.toRat) (hundredths y) := by
  have hvalue : 100 * y.toRat = (100 * y.num : ℕ) / y.den := by
    rw [Binary64.toRat_of_not_negative hsign, ← Binary64.num_div_den]
    push_cast
    ring
  rw [hvalue]
  exact Number.isNearest_nearest _ y.den_pos

/-! ## The text -/

/-- The text of a count: a whole number of bytes, or hundredths of the unit that its first 53
digits fill. -/
theorem text_cases (hword : size < 2 ^ 64) : ∃ r, IsRounded 53 size r ∧
    (ByteUnit.ofBytes r = .bytes ∧ r = size ∧
        text size = toString size ++ " " ++ ByteUnit.bytes.symbol ∨
      ByteUnit.ofBytes r ≠ .bytes ∧ ∃ n, IsNearest (100 * (r / (ByteUnit.ofBytes r).size)) n ∧
        text size = decimals n ++ " " ++ (ByteUnit.ofBytes r).symbol) := by
  by_cases hsize : size = 0
  · subst hsize
    exact ⟨0, Number.isRounded_self (by norm_num), .inl ⟨rfl, rfl, by decide +kernel⟩⟩
  · obtain ⟨r, y, hrounded, hsign, hreduced, hvalue⟩ := exists_reduced? hsize hword
    refine ⟨r, hrounded, ?_⟩
    by_cases hunit : ByteUnit.ofBytes r = .bytes
    · refine .inl ⟨hunit, ?_, by simp only [text, hreduced, hunit]⟩
      have hsmall : r < 1024 := ByteUnit.ofBytes_eq_bytes_iff.mp hunit
      refine hrounded.eq_self (Nat.le_of_lt ?_)
      by_contra hlarge
      have hlarger := (Number.isRounded_self (n := 1024) (by norm_num)).le_of_le hrounded
        (by omega)
      omega
    · refine .inr ⟨hunit, hundredths y, hvalue ▸ isNearest_hundredths hsign, ?_⟩
      simp only [text, hreduced]

/-- What the text of a count says. -/
theorem exists_says (hword : size < 2 ^ 64) : ∃ r n, IsRounded 53 size r ∧
    IsNearest (100 * (r / (ByteUnit.ofBytes r).size)) n ∧
    Says (text size) n (.ofBytes r) := by
  obtain ⟨r, hrounded, ⟨hunit, rfl, htext⟩ | ⟨hunit, n, hnearest, htext⟩⟩ := text_cases hword
  · refine ⟨r, 100 * r, hrounded, ?_, ?_⟩
    · rw [hunit]
      have hwhole := Number.isNearest_natCast (100 * r)
      simpa [ByteUnit.size] using hwhole
    · rw [htext, hunit]
      exact .whole r
  · exact ⟨r, n, hrounded, hnearest, htext ▸ .decimals n hunit⟩

/-! ## The order of the texts -/

section

variable {r n : ℕ} (hn : IsNearest (100 * (r / (ByteUnit.ofBytes r).size)) n)

include hn

/-- A unit but the last is not shown more often than the next one holds it. -/
theorem isNearest_le_next (h : ByteUnit.ofBytes r ≠ .gigabytes) : n ≤ 102400 := by
  have hpos : (0 : ℚ) < (ByteUnit.ofBytes r).size := by exact_mod_cast ByteUnit.size_pos _
  have hbelow : (r : ℚ) ≤ 1024 * (ByteUnit.ofBytes r).size := by
    exact_mod_cast (ByteUnit.lt_of_ofBytes_ne h).le
  refine hn.le_natCast ?_
  rw [mul_div_assoc', div_le_iff₀ hpos]
  push_cast
  linarith

/-- A unit is shown at least once. -/
theorem hundred_le_isNearest (h : r ≠ 0) : 100 ≤ n := by
  have hpos : (0 : ℚ) < (ByteUnit.ofBytes r).size := by exact_mod_cast ByteUnit.size_pos _
  have habove : ((ByteUnit.ofBytes r).size : ℚ) ≤ r := by
    exact_mod_cast ByteUnit.size_ofBytes_le h
  refine hn.natCast_le ?_
  rw [mul_div_assoc', le_div_iff₀ hpos]
  push_cast
  linarith

end

/-- A larger count never says less. -/
theorem le_of_says (hle : size ≤ size') (hword : size' < 2 ^ 64) {n n' : ℕ}
    {unit unit' : ByteUnit} (h : Says (text size) n unit) (h' : Says (text size') n' unit') :
    n * unit.size ≤ n' * unit'.size := by
  obtain ⟨r, m, hrounded, hnearest, hsays⟩ := exists_says (hle.trans_lt hword)
  obtain ⟨r', m', hrounded', hnearest', hsays'⟩ := exists_says hword
  obtain ⟨rfl, rfl⟩ := hsays.unique h
  obtain ⟨rfl, rfl⟩ := hsays'.unique h'
  have hrle : r ≤ r' := hrounded.le_of_le hrounded' hle
  rcases ByteUnit.ofBytes_eq_or_size_le hrle with hunit | hunit
  · rw [hunit] at hnearest ⊢
    refine Nat.mul_le_mul_right _ (hnearest.le_of_le hnearest' ?_)
    gcongr
  · -- The smaller count says no more than the next unit, and the larger one no less.
    have hne : ByteUnit.ofBytes r ≠ .gigabytes := by
      intro hlast
      rw [hlast] at hunit
      revert hunit
      cases ByteUnit.ofBytes r' <;> decide
    have hr' : r' ≠ 0 := by
      rintro rfl
      have hzero : (ByteUnit.ofBytes 0).size = 1 := by decide
      have hsmall := (ByteUnit.ofBytes r).size_pos
      omega
    calc m * (ByteUnit.ofBytes r).size ≤ 102400 * (ByteUnit.ofBytes r).size :=
          Nat.mul_le_mul_right _ (isNearest_le_next hnearest hne)
      _ = 100 * (1024 * (ByteUnit.ofBytes r).size) := by ring
      _ ≤ 100 * (ByteUnit.ofBytes r').size := Nat.mul_le_mul_left _ hunit
      _ ≤ m' * (ByteUnit.ofBytes r').size :=
          Nat.mul_le_mul_right _ (hundred_le_isNearest hnearest' hr')

/-- **The text is correctly rounded and keeps the order.** A count below 1024 is shown as it is. A
larger one is rounded to 53 binary digits, which a count up to 2^53 has, and shown in the largest
unit that it then fills, to the nearest hundredth. What the text of a larger count says is no
less. -/
theorem text_rounded :
    (∀ size < Number.wordLimit, ∃ r, IsRounded 53 size r ∧ (size ≤ 2 ^ 53 → r = size) ∧
      (size < 1024 → text size = toString size ++ " B") ∧
      (1024 ≤ size → ByteUnit.ofBytes r ≠ .bytes ∧
        ∃ n, IsNearest (100 * (r / (ByteUnit.ofBytes r).size)) n ∧
          text size = decimals n ++ " " ++ (ByteUnit.ofBytes r).symbol)) ∧
    ∀ size' < Number.wordLimit, ∀ size ≤ size', ∀ n unit n' unit',
      Says (text size) n unit → Says (text size') n' unit' →
        n * unit.size ≤ n' * unit'.size := by
  constructor
  · intro size hword
    obtain ⟨r, hrounded, hcases⟩ := text_cases hword
    have hkept : size ≤ 2 ^ 53 → r = size := hrounded.eq_self
    refine ⟨r, hrounded, hkept, fun hsmall => ?_, fun hlarge => ?_⟩
    · obtain rfl := hkept (by omega)
      rcases hcases with ⟨-, -, htext⟩ | ⟨hunit, -⟩
      · rw [htext, String.append_assoc]
        rfl
      · exact absurd (ByteUnit.ofBytes_eq_bytes_iff.mpr hsmall) hunit
    · rcases hcases with ⟨hunit, rfl, -⟩ | hlarger
      · exact absurd (ByteUnit.ofBytes_eq_bytes_iff.mp hunit) (not_lt.mpr hlarge)
      · exact hlarger
  · intro size' hword size hle n unit n' unit' h h'
    exact le_of_says hle hword h h'

/-- The hundredths of 1152 bytes in kilobytes are a tie, which goes to the even number of them; a
megabyte says more. -/
theorem text_rounded_tie :
    (∃ n, IsNearest (100 * ((1152 : ℕ) / ByteUnit.kilobytes.size)) n ∧
      text 1152 = decimals n ++ " " ++ ByteUnit.kilobytes.symbol) ∧
    Says "1.12 KB" 112 .kilobytes ∧ Says "1.00 MB" 100 .megabytes ∧
      112 * ByteUnit.kilobytes.size ≤ 100 * ByteUnit.megabytes.size := by
  have htext : text 1152 = "1.12 KB" := by decide +kernel
  have htext' : text (1024 ^ 2) = "1.00 MB" := by decide +kernel
  have hsays : Says "1.12 KB" 112 .kilobytes := by
    have hform : decimals 112 ++ " " ++ ByteUnit.kilobytes.symbol = "1.12 KB" := by decide +kernel
    exact hform ▸ .decimals 112 (by decide)
  have hsays' : Says "1.00 MB" 100 .megabytes := by
    have hform : decimals 100 ++ " " ++ ByteUnit.megabytes.symbol = "1.00 MB" := by decide +kernel
    exact hform ▸ .decimals 100 (by decide)
  refine ⟨?_, hsays, hsays', text_rounded.2 (1024 ^ 2) (by decide) 1152 (by decide) 112 _ 100 _
    (htext ▸ hsays) (htext' ▸ hsays')⟩
  obtain ⟨r, -, hkept, -, hlarge⟩ := text_rounded.1 1152 (by decide)
  obtain rfl := hkept (by norm_num)
  exact (hlarge (by decide)).2

end ByteSize

end ArchiveDesk
