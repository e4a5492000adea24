import ArchiveDesk.Lifecycle.Pager

/-!
# Pages tile the list

Positions are calculated with products and sums that stop at the greatest number of 64 bits.
For a list whose length is such a number they are exact wherever they matter: a start that was
cut off is beyond the list anyway. So the pages of a list are its consecutive pieces. What holds
of all pagers holds of exactly those that occur, since each is reached from the initial one.
-/

namespace ArchiveDesk.Pager

/-! ## The pagers that occur -/

/-- A number that is positive and fits in a word is taken as it is. -/
theorem clamp_eq {n : Nat} (hpos : 1 ≤ n) (hlt : n < Number.wordLimit) : clamp n = n := by
  have hmax : n ≤ Number.wordMax := Nat.le_sub_one_of_lt hlt
  rw [clamp, Nat.min_eq_left hmax, Nat.max_eq_right hpos]

/-- Turning to a page keeps the page size. -/
@[simp] theorem size_setPage (p : Pager) (n : Nat) : (p.setPage n).size = p.size := rfl

/-- A page number that fits is the current one after turning to it. -/
theorem current_setPage (p : Pager) {n : Nat} (hpos : 1 ≤ n) (hlt : n < Number.wordLimit) :
    (p.setPage n).current = n :=
  clamp_eq hpos hlt

/-- Every pager is reached from the initial one, by choosing its size and turning to its page. -/
theorem setPage_setSize_initial (p : Pager) : (initial.setSize p.size).setPage p.current = p := by
  obtain ⟨size, current, hsize, hsize', hcurrent, hcurrent'⟩ := p
  simp only [setPage, setSize, clamp_eq hsize hsize', clamp_eq hcurrent hcurrent']

/-! ## The count of pages -/

/-- There are more than `n` pages if `n` of them do not hold all items. -/
theorem lt_pageCount_iff (p : Pager) {n count : Nat} :
    n < p.pageCount count ↔ n * p.size < count := by
  have hsize := p.one_le_size
  rw [pageCount, Nat.lt_iff_add_one_le, Nat.le_div_iff_mul_le hsize, Nat.succ_mul]
  omega

/-- The pages hold all items. -/
theorem le_pageCount_mul (p : Pager) (count : Nat) : count ≤ p.pageCount count * p.size := by
  refine Nat.le_of_not_lt fun hlt => ?_
  exact Nat.lt_irrefl _ (p.lt_pageCount_iff.mpr hlt)

/-- There are no more pages than items. -/
theorem pageCount_le (p : Pager) (count : Nat) : p.pageCount count ≤ count := by
  refine Nat.le_of_not_lt fun hlt => ?_
  have hmul := p.lt_pageCount_iff.mp hlt
  have hle : count * 1 ≤ count * p.size := Nat.mul_le_mul_left count p.one_le_size
  omega

/-! ## The items of a page -/

/-- A page ends one page size after its start. -/
theorem start_add_size {n : Nat} (size : Nat) (hpos : 1 ≤ n) :
    (n - 1) * size + size = n * size := by
  rw [← Nat.succ_mul]
  congr 1
  omega

/-- The positions of the current page are exact within a list. -/
theorem window?_eq (p : Pager) {count : Nat} (hcount : count < Number.wordLimit) :
    p.window? count = some (if count ≤ (p.current - 1) * p.size then (0, 0)
      else ((p.current - 1) * p.size, min (p.current * p.size) count)) := by
  have hmax : count ≤ Number.wordMax := Nat.le_sub_one_of_lt hcount
  have hstop := start_add_size p.size p.one_le_current
  have hbefore : Number.sub? p.current 1 = some (p.current - 1) := if_pos p.one_le_current
  have hbeyond : count ≤ Number.saturatingMul (p.current - 1) p.size ↔
      count ≤ (p.current - 1) * p.size := by
    rw [Number.saturatingMul]
    omega
  rw [window?, hbefore, Option.bind_eq_bind, Option.bind_some, Option.pure_def, Option.some_inj]
  by_cases hin : count ≤ (p.current - 1) * p.size
  · rw [if_pos hin, if_pos (hbeyond.mpr hin)]
  · have hstart : Number.saturatingMul (p.current - 1) p.size = (p.current - 1) * p.size := by
      rw [Number.saturatingMul]
      omega
    have hend : min (Number.saturatingAdd ((p.current - 1) * p.size) p.size) count =
        min (p.current * p.size) count := by
      rw [Number.saturatingAdd]
      omega
    rw [if_neg hin, hstart, if_neg hin, hend]

/-- Taking the items of a page neither goes below zero nor leaves the list. -/
theorem page?_eq {α : Type} (p : Pager) {items : List α}
    (hitems : items.length < Number.wordLimit) :
    p.page? items = some ((items.take (p.current * p.size)).drop ((p.current - 1) * p.size)) := by
  have hstop := start_add_size p.size p.one_le_current
  rw [page?, p.window?_eq hitems, Option.bind_eq_bind, Option.bind_some]
  by_cases hbeyond : items.length ≤ (p.current - 1) * p.size
  · have hnone : (items.take (p.current * p.size)).drop ((p.current - 1) * p.size) = [] := by
      rw [List.drop_eq_nil_iff, List.length_take]
      omega
    rw [if_pos hbeyond, hnone]
    rfl
  · rw [if_neg hbeyond]
    dsimp only
    rw [slice?, if_pos (by omega), Option.some_inj, ← List.drop_take]
    congr 1
    rw [List.take_eq_take_iff]
    omega

/-- The page holds the items before its end that are not before its start. -/
theorem page_eq {α : Type} (p : Pager) {items : List α}
    (hitems : items.length < Number.wordLimit) :
    p.page items = (items.take (p.current * p.size)).drop ((p.current - 1) * p.size) := by
  rw [page, p.page?_eq hitems]
  rfl

/-- The count of items on a page is that between its start and its end. -/
theorem length_page {α : Type} (p : Pager) {items : List α}
    (hitems : items.length < Number.wordLimit) :
    (p.page items).length = min (p.current * p.size) items.length - (p.current - 1) * p.size := by
  rw [p.page_eq hitems, List.length_drop, List.length_take]

/-- A page is not empty exactly if it is one of the pages. -/
theorem page_ne_nil_iff {α : Type} (p : Pager) {items : List α}
    (hitems : items.length < Number.wordLimit) :
    p.page items ≠ [] ↔ p.current ≤ p.pageCount items.length := by
  have hcurrent := p.one_le_current
  have hsize := p.one_le_size
  have hstop := start_add_size p.size p.one_le_current
  have hcount : p.current - 1 < p.pageCount items.length ↔
      (p.current - 1) * p.size < items.length := p.lt_pageCount_iff
  rw [← List.length_pos_iff, p.length_page hitems]
  omega

/-! ## All pages -/

section Tiling

variable {α : Type} (p : Pager) {items : List α} (hitems : items.length < Number.wordLimit)
include hitems

/-- The items of the page that was turned to. -/
theorem page_setPage {n : Nat} (hpos : 1 ≤ n) (hn : n ≤ p.pageCount items.length) :
    (p.setPage n).page items = (items.take (n * p.size)).drop ((n - 1) * p.size) := by
  have hlt : n < Number.wordLimit :=
    Nat.lt_of_le_of_lt (Nat.le_trans hn (p.pageCount_le _)) hitems
  rw [page_eq _ hitems, p.current_setPage hpos hlt, size_setPage]

/-- The first pages hold the first items. -/
theorem flatMap_page_range' {k : Nat} (hk : k ≤ p.pageCount items.length) :
    ((List.range' 1 k).flatMap fun n => (p.setPage n).page items) = items.take (k * p.size) := by
  induction k with
  | zero => simp
  | succ k ih =>
    have hpage := p.page_setPage hitems (Nat.le_add_left 1 k) hk
    have hfront : items.take (k * p.size) = (items.take ((k + 1) * p.size)).take (k * p.size) := by
      rw [List.take_take, Nat.min_eq_left (Nat.mul_le_mul_right _ (Nat.le_succ k))]
    rw [List.range'_1_concat, List.flatMap_append, ih (Nat.le_of_succ_le hk),
      List.flatMap_singleton, Nat.add_comm 1 k, hpage, Nat.add_sub_cancel, hfront]
    exact List.take_append_drop _ _

/-- Every page but the last one is full. -/
theorem length_page_setPage {n : Nat} (hpos : 1 ≤ n) (hn : n < p.pageCount items.length) :
    ((p.setPage n).page items).length = p.size := by
  have hfull := p.lt_pageCount_iff.mp hn
  have hstop := start_add_size p.size hpos
  rw [p.page_setPage hitems hpos (Nat.le_of_lt hn), List.length_drop, List.length_take]
  omega

end Tiling

/-- **Pages tile the list.** For a list whose length has 64 bits, taking the items of the current
page never fails. They are those at the positions from `(current - 1) * size` up to
`current * size`, as far as the list goes, and there are some exactly if the page is one of the
counted pages. All pages of a size together give the list, and each of them but the last is
full. -/
theorem page_tiles {α : Type} (p : Pager) (items : List α)
    (hitems : items.length < Number.wordLimit) :
    p.page? items = some (p.page items) ∧
    p.page items = (items.take (p.current * p.size)).drop ((p.current - 1) * p.size) ∧
    (p.page items ≠ [] ↔ p.current ≤ p.pageCount items.length) ∧
    ((List.range' 1 (p.pageCount items.length)).flatMap fun n => (p.setPage n).page items) =
      items ∧
    ∀ n, 1 ≤ n → n < p.pageCount items.length →
      ((p.setPage n).page items).length = p.size := by
  refine ⟨?_, p.page_eq hitems, p.page_ne_nil_iff hitems, ?_, fun n => p.length_page_setPage hitems⟩
  · rw [p.page_eq hitems]
    exact p.page?_eq hitems
  · rw [p.flatMap_page_range' hitems (Nat.le_refl _)]
    exact List.take_of_length_le (p.le_pageCount_mul _)

/-- Twenty-five items fill two pages of ten, and half of a third one. -/
theorem page_tiles_twentyFive :
    (List.range 25).length < Number.wordLimit ∧
    (initial.setPage 3).page? (List.range 25) = some [20, 21, 22, 23, 24] ∧
    ((List.range' 1 3).flatMap fun n => (initial.setPage n).page (List.range 25)) =
      List.range 25 := by
  have hlength : (List.range 25).length < Number.wordLimit := by decide
  obtain ⟨htaken, hpage, -, htiled, -⟩ := page_tiles (initial.setPage 3) (List.range 25) hlength
  refine ⟨hlength, ?_, htiled⟩
  rw [htaken, hpage]
  decide

end ArchiveDesk.Pager
