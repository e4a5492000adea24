import ArchiveDesk.Proofs.Lifecycle.Pages
import Mathlib.Algebra.Group.Nat.Defs

/-!
# The page numbers shown

The pager shows up to five page numbers around the current page. They are calculated in 64 bits
without stopping at the greatest number, so the file also says exactly when a sum is too large:
for the last three pages that a page number can name, which no list in memory has.
-/

namespace ArchiveDesk.Pager

/-- Where the page numbers start: half their count before the current page, but within the
pages. -/
def firstVisible (width current pages : Nat) : Nat :=
  if pages < max (current - width / 2) 1 + width - 1 then pages + 1 - width
  else max (current - width / 2) 1

/-- There are no pages if and only if there are no items. -/
theorem pageCount_eq_zero_iff (p : Pager) {total : Nat} : p.pageCount total = 0 ↔ total = 0 := by
  have hpos : 0 < p.pageCount total ↔ 0 * p.size < total := p.lt_pageCount_iff
  omega

/-- The only sum that can be too large is the one that gives the end before it is seen whether
this is beyond the pages. -/
theorem visiblePages?_eq (p : Pager) {total : Nat} (htotal : total ≠ 0) :
    p.visiblePages? total =
      let pages := p.pageCount total
      let width := min 5 pages
      let current := min p.current pages
      if max (current - width / 2) 1 + width < Number.wordLimit then
        some (List.range' (firstVisible width current pages) width)
      else none := by
  have hpages : p.pageCount total ≠ 0 := fun hzero => htotal (p.pageCount_eq_zero_iff.mp hzero)
  have hfive : maxVisible = 5 := rfl
  rw [visiblePages?, if_neg hpages, hfive]
  dsimp only
  generalize p.pageCount total = pages
  have hwidth : min 5 pages ≤ pages := Nat.min_le_right ..
  generalize min 5 pages = width at hwidth ⊢
  generalize min p.current pages = current
  have hfirst : 1 ≤ max (current - width / 2) 1 := Nat.le_max_right ..
  rw [firstVisible]
  generalize max (current - width / 2) 1 = first at hfirst ⊢
  simp only [Option.bind_eq_bind, Option.pure_def]
  by_cases hsum : first + width < Number.wordLimit
  · have hstop : Number.add? first width = some (first + width) := if_pos hsum
    have hlast : Number.sub? (first + width) 1 = some (first + width - 1) := if_pos (by omega)
    rw [if_pos hsum, hstop, Option.bind_some, hlast, Option.bind_some]
    by_cases hbeyond : pages < first + width - 1
    · have hnext : Number.add? pages 1 = some (pages + 1) := if_pos (by omega)
      have hshift : Number.sub? (pages + 1) width = some (pages + 1 - width) := if_pos (by omega)
      have hend : Number.add? (pages + 1 - width) width = some (pages + 1 - width + width) :=
        if_pos (by omega)
      rw [if_pos hbeyond, if_pos hbeyond, hnext, Option.bind_some, hshift, Option.bind_some, hend,
        Option.bind_some, Nat.add_sub_cancel_left]
    · rw [if_neg hbeyond, if_neg hbeyond, Option.bind_some, hstop, Option.bind_some,
        Nat.add_sub_cancel_left]
  · have hstop : Number.add? first width = none := if_neg hsum
    rw [if_neg hsum, hstop, Option.bind_none]

/-! ## The numbers -/

/-- The numbers are among the pages. -/
theorem bounds_of_mem_visible {pages current n : Nat}
    (hn : n ∈ List.range' (firstVisible (min 5 pages) current pages) (min 5 pages)) :
    1 ≤ n ∧ n ≤ pages := by
  rw [List.mem_range'_1, firstVisible] at hn
  split at hn <;> omega

section Window

variable {pages current : Nat} (hpages : current ≤ pages)
include hpages

/-- Half the count before the current page, moved into the range of possible starts. -/
theorem firstVisible_eq :
    (firstVisible (min 5 pages) current pages : Int) =
      max 1 (min (current - (min 5 pages : Nat) / 2) (pages + 1 - (min 5 pages : Nat))) := by
  rw [firstVisible]
  split <;> omega

variable (hcurrent : 1 ≤ current)
include hcurrent

/-- The end of the shown numbers fits in a word unless the page is one of its last three numbers. -/
theorem sum_lt_wordLimit_iff :
    max (current - min 5 pages / 2) 1 + min 5 pages < Number.wordLimit ↔
      current < 2 ^ 64 - 3 := by
  have hlimit : Number.wordLimit = 2 ^ 64 := rfl
  omega

/-- The current page is among the numbers. -/
theorem current_mem_visible :
    current ∈ List.range' (firstVisible (min 5 pages) current pages) (min 5 pages) := by
  rw [List.mem_range'_1, firstVisible]
  split <;> omega

end Window

section Visible

variable (p : Pager) {total : Nat} (htotal : total ≠ 0)
include htotal

/-- The page that is shown is at least the first one. -/
theorem one_le_shownPage : 1 ≤ min p.current (p.pageCount total) := by
  have hcount : p.pageCount total ≠ 0 := fun hzero => htotal (p.pageCount_eq_zero_iff.mp hzero)
  exact Nat.le_min.mpr ⟨p.one_le_current, Nat.one_le_iff_ne_zero.mpr hcount⟩

/-- The shown numbers are five, or as many as there are pages, from the first visible one on. -/
theorem visiblePages?_eq_some (hlt : min p.current (p.pageCount total) < 2 ^ 64 - 3) :
    p.visiblePages? total = some (List.range'
      (firstVisible (min 5 (p.pageCount total)) (min p.current (p.pageCount total))
        (p.pageCount total))
      (min 5 (p.pageCount total))) := by
  have hsum := sum_lt_wordLimit_iff (Nat.min_le_right ..) (p.one_le_shownPage htotal)
  rw [p.visiblePages?_eq htotal]
  exact if_pos (hsum.mpr hlt)

/-- The calculation of the shown numbers overflows on the last three numbers of a word. -/
theorem visiblePages?_eq_none (hle : 2 ^ 64 - 3 ≤ min p.current (p.pageCount total)) :
    p.visiblePages? total = none := by
  have hsum := sum_lt_wordLimit_iff (Nat.min_le_right ..) (p.one_le_shownPage htotal)
  rw [p.visiblePages?_eq htotal]
  exact if_neg fun hlt => Nat.not_lt.mpr hle (hsum.mp hlt)

end Visible

/-- Without items no number is shown. -/
theorem visiblePages?_zero (p : Pager) : p.visiblePages? 0 = some [] := by
  have hcount : p.pageCount 0 = 0 := p.pageCount_eq_zero_iff.mpr rfl
  rw [visiblePages?, hcount]
  rfl

/-- The calculation overflows for these pages only. -/
theorem visiblePages?_eq_none_iff (p : Pager) {total : Nat} :
    p.visiblePages? total = none ↔ 2 ^ 64 - 3 ≤ min p.current (p.pageCount total) := by
  by_cases htotal : total = 0
  · have hcount : p.pageCount total = 0 := p.pageCount_eq_zero_iff.mpr htotal
    rw [hcount, htotal, visiblePages?_zero]
    exact iff_of_false nofun (by omega)
  · refine ⟨fun hnone => Nat.le_of_not_lt fun hlt => ?_, p.visiblePages?_eq_none htotal⟩
    exact absurd (hnone.symm.trans (p.visiblePages?_eq_some htotal hlt)) nofun

/-- No number is shown only if there are no items. -/
theorem visiblePages?_eq_nil_iff (p : Pager) {total : Nat} :
    p.visiblePages? total = some [] ↔ total = 0 := by
  refine ⟨fun hnil => Classical.byContradiction fun htotal => ?_, ?_⟩
  · by_cases hlt : min p.current (p.pageCount total) < 2 ^ 64 - 3
    · have hshown := current_mem_visible (Nat.min_le_right p.current (p.pageCount total))
        (p.one_le_shownPage htotal)
      have hsome := hnil.symm.trans (p.visiblePages?_eq_some htotal hlt)
      rw [← Option.some_inj.mp hsome] at hshown
      exact List.not_mem_nil hshown
    · have hnone := p.visiblePages?_eq_none htotal (Nat.le_of_not_lt hlt)
      exact absurd (hnil.symm.trans hnone) nofun
  · rintro rfl
    exact p.visiblePages?_zero

/-- **A centred window of page numbers.** There are none exactly for an empty list. A sum is too
large exactly if the current page is one of the last three numbers of 64 bits, which it is not
for a list that fits in memory. Otherwise the numbers are consecutive ones among the pages, and
the current page is among them: they start half their count before it, unless that is not within
the pages. -/
theorem visiblePages_centred (p : Pager) (total : Nat) :
    let count := p.pageCount total
    let width := min 5 count
    let current := min p.current count
    (p.visiblePages? total = some [] ↔ total = 0) ∧
    (p.visiblePages? total = none ↔ 2 ^ 64 - 3 ≤ current) ∧
    (total < 2 ^ 63 → p.visiblePages? total ≠ none) ∧
    (total ≠ 0 → current < 2 ^ 64 - 3 → ∃ first : Nat,
      p.visiblePages? total = some (List.range' first width) ∧
      (first : Int) = max 1 (min (current - width / 2) (count + 1 - width)) ∧
      (∀ n ∈ List.range' first width, 1 ≤ n ∧ n ≤ count) ∧
      current ∈ List.range' first width) := by
  intro count width current
  have hle : current ≤ count := Nat.min_le_right ..
  refine ⟨p.visiblePages?_eq_nil_iff, p.visiblePages?_eq_none_iff, fun hmemory hnone => ?_,
    fun htotal hlt => ?_⟩
  · have hlast : 2 ^ 64 - 3 ≤ current := p.visiblePages?_eq_none_iff.mp hnone
    have hcount : count ≤ total := p.pageCount_le total
    omega
  · have hone : 1 ≤ current := p.one_le_shownPage htotal
    exact ⟨firstVisible width current count, p.visiblePages?_eq_some htotal hlt,
      firstVisible_eq hle, fun n => bounds_of_mem_visible,
      current_mem_visible hle hone⟩

/-- The last page of twenty is shown with the four before it. -/
example : (initial.setPage 20).visiblePages? 200 = some [16, 17, 18, 19, 20] := by decide

end ArchiveDesk.Pager
