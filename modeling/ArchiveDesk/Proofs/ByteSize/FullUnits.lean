import ArchiveDesk.Proofs.ByteSize.Rounded

/-!
# Units that are full only after the rounding

The unit is chosen before the number is rounded to two decimals. So a count just below a unit can
be rounded to 1024 of the unit before it. There are two short ranges of such counts.
-/

namespace ArchiveDesk.ByteSize

open Number (IsNearest IsRounded)

/-- What a text keeps to where the number is carried into the next unit. Numbers are counted in
hundredths. -/
structure KeepsUnits (size : ℕ) : Prop where
  /-- The number is below 1024 where a larger unit is left. -/
  below : ∀ n unit, Says (text size) n unit → unit ≠ .gigabytes → n < 102400
  /-- The number is at least one where the unit is not the smallest. -/
  above : ∀ n unit, Says (text size) n unit → unit ≠ .bytes → 100 ≤ n
  /-- What is rounded to 1024 of a unit is shown as one of the next. -/
  carried : ∀ (r : ℕ) (unit next : ByteUnit), IsRounded 53 size r → next.size = 1024 * unit.size →
    IsNearest (100 * (r / unit.size)) 102400 → text size = "1.00 " ++ next.symbol

/-- The count is less than the next unit, and its nearest number of hundredths is that of the next
unit. -/
structure FullByRounding (size : ℕ) (unit : ByteUnit) : Prop where
  larger : unit ≠ .gigabytes
  reaches : 204799 * unit.size ≤ 200 * size
  less : size < 1024 * unit.size

variable {size r n : ℕ} {unit next : ByteUnit}

/-- The two ranges. No count of bytes is rounded. -/
theorem fullByRounding_iff : (∃ unit, FullByRounding size unit) ↔
    1048571 ≤ size ∧ size < 1024 ^ 2 ∨ 1073736582 ≤ size ∧ size < 1024 ^ 3 := by
  constructor
  · rintro ⟨unit, hlarger, hreaches, hless⟩
    cases unit <;> simp only [ByteUnit.size] at hreaches hless
    · omega
    · omega
    · omega
    · exact absurd rfl hlarger
  · rintro (⟨hreaches, hless⟩ | ⟨hreaches, hless⟩)
    · exact ⟨.kilobytes, by decide, by simp only [ByteUnit.size]; omega,
        by simp only [ByteUnit.size]; omega⟩
    · exact ⟨.megabytes, by decide, by simp only [ByteUnit.size]; omega,
        by simp only [ByteUnit.size]; omega⟩

/-! ## Rounding near a unit -/

/-- A number that is rounded to less than its digits can hold is not rounded. -/
theorem eq_of_isRounded (h : IsRounded 53 size r) (hr : r < 2 ^ 53 - 1) : r = size := by
  refine h.eq_self ?_
  by_contra hlarge
  have hleast := (Number.isRounded_self (n := 2 ^ 53 - 1) (by norm_num)).le_of_le h (by omega)
  omega

/-- The numbers that are rounded to 1024 of a unit. -/
theorem bounds_of_isNearest (h : IsNearest (100 * (r / unit.size)) 102400) :
    204799 * unit.size ≤ 200 * r ∧ 200 * r ≤ 204801 * unit.size := by
  have hpos : (0 : ℚ) < unit.size := by exact_mod_cast unit.size_pos
  obtain ⟨hlow, hhigh⟩ := abs_le.mp h.near
  have hvalue : (r : ℚ) / unit.size * unit.size = r := div_mul_cancel₀ _ hpos.ne'
  constructor
  · have hcast : (204799 : ℚ) * unit.size ≤ 200 * r := by
      rw [← hvalue]
      push_cast at hlow
      nlinarith
    exact_mod_cast hcast
  · have hcast : (200 : ℚ) * r ≤ 204801 * unit.size := by
      rw [← hvalue]
      push_cast at hhigh
      nlinarith
    exact_mod_cast hcast

/-- The number is rounded to the next unit from half a hundredth below it on. -/
theorem lt_iff_of_isNearest (h : IsNearest (100 * (r / unit.size)) n) :
    n < 102400 ↔ 200 * r < 204799 * unit.size := by
  have hpos : (0 : ℚ) < unit.size := by exact_mod_cast unit.size_pos
  have heven : Even 102400 := by decide
  have hhalf : 100 * ((r : ℚ) / unit.size) < (102400 : ℕ) - 1 / 2 ↔
      (200 : ℚ) * r < 204799 * unit.size := by
    rw [mul_div_assoc', div_lt_iff₀ hpos]
    push_cast
    constructor <;> intro hlt <;> linarith
  rw [h.lt_iff_of_even heven, hhalf]
  norm_cast

/-- A number that is rounded to 1024 of a unit is rounded to at most one of the next: it is less
than half a hundredth above that. -/
theorem isNearest_next_le (hnext : next.size = 1024 * unit.size)
    (hmost : 200 * r ≤ 204801 * unit.size) (h : IsNearest (100 * (r / next.size)) n) :
    n ≤ 100 := by
  have hunit : (0 : ℚ) < unit.size := by exact_mod_cast unit.size_pos
  have hpos : (0 : ℚ) < next.size := by exact_mod_cast next.size_pos
  have hsize : (next.size : ℚ) = 1024 * unit.size := by exact_mod_cast hnext
  have hcast : (200 : ℚ) * r ≤ 204801 * unit.size := by exact_mod_cast hmost
  have hvalue : 100 * ((r : ℚ) / next.size) ≤ 100 + 1 / 4 := by
    rw [mul_div_assoc', div_le_iff₀ hpos, hsize]
    linarith
  obtain ⟨hnear, -⟩ := abs_le.mp h.near
  have hlast : (n : ℚ) < 101 := by linarith
  have hlast' : n < 101 := by exact_mod_cast hlast
  omega

/-! ## What the texts keep to -/

/-- Of a larger unit a text says at least one. -/
theorem le_of_says_ne_bytes (hword : size < 2 ^ 64) (h : Says (text size) n unit)
    (hunit : unit ≠ .bytes) : 100 ≤ n := by
  obtain ⟨r, m, hrounded, hnearest, hsaid⟩ := exists_says hword
  obtain ⟨rfl, rfl⟩ := h.unique hsaid
  refine hundred_le_isNearest hnearest ?_
  rintro rfl
  exact hunit rfl

/-- A count that is full by rounding is shown as 1024 of its unit. -/
theorem FullByRounding.said (h : FullByRounding size unit) :
    Says (text size) 102400 unit := by
  have hsmall := ByteUnit.next_le h.larger
  have hword : size < 2 ^ 64 := h.less.trans_le (hsmall.trans (by norm_num))
  have hless := h.less
  have hreaches := h.reaches
  obtain ⟨r, n, hrounded, hnearest, hsays⟩ := exists_says hword
  obtain rfl : r = size := hrounded.eq_self (by omega)
  have hunit : ByteUnit.ofBytes r = unit := ByteUnit.ofBytes_eq (by omega) hless
  have hmost : n ≤ 102400 := isNearest_le_next hnearest (hunit ▸ h.larger)
  rw [hunit] at hnearest hsays
  have hleast : ¬ n < 102400 := by
    rw [lt_iff_of_isNearest hnearest]
    omega
  obtain rfl : n = 102400 := by omega
  exact hsays

/-- Where no unit is full by rounding, a number that is rounded to 1024 of a unit fills the
next. -/
theorem le_of_not_fullByRounding (hfull : ¬ ∃ unit, FullByRounding size unit)
    (hrounded : IsRounded 53 size r) (hreaches : 204799 * unit.size ≤ 200 * r)
    (hlarger : unit ≠ .gigabytes) : 1024 * unit.size ≤ r := by
  by_contra hless
  have hsmall := ByteUnit.next_le hlarger
  obtain rfl : r = size := eq_of_isRounded hrounded (by omega)
  exact hfull ⟨unit, hlarger, hreaches, by omega⟩

/-- A count keeps its units if none of them is full by rounding. -/
theorem keepsUnits_of_not_fullByRounding (hword : size < 2 ^ 64)
    (hfull : ¬ ∃ unit, FullByRounding size unit) : KeepsUnits size where
  below n unit hsays hlarger := by
    obtain ⟨r, m, hrounded, hnearest, hsaid⟩ := exists_says hword
    obtain ⟨rfl, rfl⟩ := hsays.unique hsaid
    have hless := ByteUnit.lt_of_ofBytes_ne hlarger
    rw [lt_iff_of_isNearest hnearest]
    by_contra hreaches
    have hfills := le_of_not_fullByRounding hfull hrounded (not_lt.mp hreaches) hlarger
    omega
  above n unit hsays hunit := le_of_says_ne_bytes hword hsays hunit
  carried r unit next hrounded hnext hnearest := by
    -- The number fills the next unit, so that this is the unit which is shown.
    have hlarger : unit ≠ .gigabytes := by
      rintro rfl
      revert hnext
      cases next <;> decide
    obtain ⟨hreaches, hmost⟩ := bounds_of_isNearest hnearest
    have hfills := le_of_not_fullByRounding hfull hrounded hreaches hlarger
    have hpos := unit.size_pos
    have hunit : ByteUnit.ofBytes r = next := ByteUnit.ofBytes_eq (by omega) (by omega)
    obtain ⟨r', hrounded', hcases⟩ := text_cases hword
    obtain rfl := hrounded.unique hrounded'
    rcases hcases with ⟨hbytes, -, -⟩ | ⟨-, n, hshown, htext⟩
    · have hbelow := ByteUnit.ofBytes_eq_bytes_iff.mp hbytes
      omega
    · have hleast : 100 ≤ n := hundred_le_isNearest hshown (by omega)
      rw [hunit] at hshown
      have hone : n = 100 := Nat.le_antisymm (isNearest_next_le hnext hmost hshown) hleast
      have hdecimals : decimals 100 ++ " " = "1.00 " := by decide +kernel
      rw [htext, hunit, hone, hdecimals]

/-- **Which counts are shown as 1024 of a unit.** A text keeps to its unit unless the count is in
one of two short ranges below the megabyte and below the gigabyte. There it says 1024 of the
smaller unit. In any case it says at least one of a larger unit. -/
theorem keepsUnits_iff (hword : size < Number.wordLimit) :
    (KeepsUnits size ↔ ¬ (1048571 ≤ size ∧ size < 1024 ^ 2) ∧
      ¬ (1073736582 ≤ size ∧ size < 1024 ^ 3)) ∧
    (1048571 ≤ size ∧ size < 1024 ^ 2 → text size = "1024.00 KB") ∧
    (1073736582 ≤ size ∧ size < 1024 ^ 3 → text size = "1024.00 MB") ∧
    ∀ n unit, Says (text size) n unit → unit ≠ .bytes → 100 ≤ n := by
  have hrange : (∃ unit, FullByRounding size unit) ↔ _ := fullByRounding_iff
  refine ⟨⟨fun hkeeps => ?_, fun hnot => ?_⟩, ?_, ?_, ?_⟩
  · rw [← not_or, ← hrange]
    rintro ⟨unit, hfull⟩
    exact absurd (hkeeps.below _ _ hfull.said hfull.larger) (lt_irrefl _)
  · rw [← not_or, ← hrange] at hnot
    exact keepsUnits_of_not_fullByRounding hword hnot
  · rintro ⟨hreaches, hless⟩
    have hfull : FullByRounding size .kilobytes :=
      ⟨by decide, by simp only [ByteUnit.size]; omega, by simp only [ByteUnit.size]; omega⟩
    rw [hfull.said.eq_decimals (by decide)]
    decide +kernel
  · rintro ⟨hreaches, hless⟩
    have hfull : FullByRounding size .megabytes :=
      ⟨by decide, by simp only [ByteUnit.size]; omega, by simp only [ByteUnit.size]; omega⟩
    rw [hfull.said.eq_decimals (by decide)]
    decide +kernel
  · intro n unit hsaid hunit
    exact le_of_says_ne_bytes hword hsaid hunit

/-- Ten megabytes are far from the next unit. -/
theorem keepsUnits_tenMegabytes :
    10 * 1024 ^ 2 < Number.wordLimit ∧ KeepsUnits (10 * 1024 ^ 2) := by
  have hword : 10 * 1024 ^ 2 < Number.wordLimit := by decide
  exact ⟨hword, (keepsUnits_iff hword).1.mpr (by omega)⟩

/-- One byte less than a megabyte is shown as 1024 kilobytes. -/
theorem exists_not_keepsUnits : text 1048575 = "1024.00 KB" ∧ ¬ KeepsUnits 1048575 := by
  have htext : text 1048575 = "1024.00 KB" := by decide +kernel
  have hsays : Says (text 1048575) 102400 .kilobytes := by
    have hform : decimals 102400 ++ " " ++ ByteUnit.kilobytes.symbol = "1024.00 KB" := by
      decide +kernel
    rw [htext, ← hform]
    exact .decimals 102400 (by decide)
  exact ⟨htext, fun hkeeps => absurd (hkeeps.below _ _ hsays (by decide)) (by decide)⟩

end ArchiveDesk.ByteSize
