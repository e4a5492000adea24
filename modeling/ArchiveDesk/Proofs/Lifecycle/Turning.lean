import ArchiveDesk.Lifecycle.Turn
import ArchiveDesk.Proofs.Lifecycle.PageNumbers

/-!
# Turning pages stays on the pages

A pager takes any page number, also one past the end of its list. What keeps the operator on the
pages that there are is what the view offers: each click leads to a page that is counted, and a
new size or a new result leads back to the first page. Since no page size that is offered is
small, even the longest list has few enough pages for their numbers to be calculated.
-/

namespace ArchiveDesk

namespace Pager

/-- A page size that fits is the size after it was chosen. -/
theorem size_setSize (p : Pager) {n : Nat} (hpos : 1 ≤ n) (hlt : n < Number.wordLimit) :
    (p.setSize n).size = n :=
  clamp_eq hpos hlt

/-- A page size that is offered is at least ten and fits in a word. -/
theorem bounds_of_mem_offeredSizes {n : Nat} (hn : n ∈ offeredSizes) :
    10 ≤ n ∧ n < Number.wordLimit := by
  have hall : ∀ n ∈ offeredSizes, 10 ≤ n ∧ n < Number.wordLimit := by decide
  exact hall n hn

/-- A list in memory has few pages of a size that is offered. -/
theorem pageCount_lt (p : Pager) {count : Nat} (hsize : p.size ∈ offeredSizes)
    (hcount : count < Number.wordLimit) : p.pageCount count < 2 ^ 64 - 3 := by
  have hlimit : Number.wordLimit = 2 ^ 64 := rfl
  have hten : (2 ^ 64 - 4) * 10 ≤ (2 ^ 64 - 4) * p.size :=
    Nat.mul_le_mul_left _ (bounds_of_mem_offeredSizes hsize).1
  refine Nat.lt_of_not_le fun hle => ?_
  have hheld : (2 ^ 64 - 4) * p.size < count := p.lt_pageCount_iff.mp (by omega)
  omega

/-- Calculating the page numbers of such a list does not fail. -/
theorem visiblePages?_eq_visiblePages (p : Pager) {count : Nat} (hsize : p.size ∈ offeredSizes)
    (hcount : count < Number.wordLimit) : p.visiblePages? count = some (p.visiblePages count) := by
  have hpages := p.pageCount_lt hsize hcount
  have hsome : p.visiblePages? count ≠ none := by
    rw [Ne, p.visiblePages?_eq_none_iff]
    omega
  obtain ⟨numbers, hnumbers⟩ := Option.ne_none_iff_exists'.mp hsome
  rw [visiblePages, hnumbers]
  rfl

/-- The page numbers shown are those of pages. -/
theorem bounds_of_mem_visiblePages (p : Pager) {count n : Nat} (hn : n ∈ p.visiblePages count) :
    1 ≤ n ∧ n ≤ p.pageCount count := by
  by_cases hcount : count = 0
  · rw [visiblePages, hcount, visiblePages?_zero] at hn
    exact absurd hn List.not_mem_nil
  · rw [visiblePages, p.visiblePages?_eq hcount] at hn
    dsimp only at hn
    split at hn
    · exact bounds_of_mem_visible hn
    · exact absurd hn List.not_mem_nil

/-- The current page is shown if it is one of the pages. -/
theorem current_mem_visiblePages (p : Pager) {count : Nat} (hsize : p.size ∈ offeredSizes)
    (hcount : count < Number.wordLimit) (hcurrent : p.current ≤ p.pageCount count) :
    p.current ∈ p.visiblePages count := by
  have hone := p.one_le_current
  have hne : count ≠ 0 := by
    rintro rfl
    have hzero : p.pageCount 0 = 0 := p.pageCount_eq_zero_iff.mpr rfl
    omega
  have hpages := p.pageCount_lt hsize hcount
  have hmin : min p.current (p.pageCount count) = p.current := Nat.min_eq_left hcurrent
  rw [visiblePages, p.visiblePages?_eq_some hne (by omega), hmin]
  exact current_mem_visible hcurrent hone

end Pager

namespace Lifecycle.View

variable {v : View}

/-! ## Where a click leads -/

/-- A click keeps the view, changes its page size, or turns to the page that is calculated. -/
theorem turn_cases {t : Turn} {n : Nat} (hn : v.destination? t = some n) :
    (v.turn t = v ∧ n = v.pager.current) ∨
      (∃ size, t = .size size ∧ v.turn t = v.setPageSize size ∧ n = 1) ∨
      v.turn t = v.setPage n := by
  cases t with
  | size size =>
    obtain rfl := Option.some.inj hn
    by_cases hsize : size = v.pager.size
    · exact .inl ⟨if_pos hsize, if_pos hsize⟩
    · exact .inr (.inl ⟨size, rfl, if_neg hsize, if_neg hsize⟩)
  | previous | number | next =>
    unfold turn
    dsimp only
    rw [hn]
    exact .inr (.inr rfl)

/-- The view is on one of its pages, on the first one if it has none. The page size is one that
is offered, and the events are a list in memory. -/
structure OnPage (v : View) : Prop where
  size_mem : v.pager.size ∈ Pager.offeredSizes
  length_lt : v.events.length < Number.wordLimit
  current_le : v.pager.current ≤ max 1 v.pageCount

/-- The number of a page is far from 64 bits. -/
theorem OnPage.succ_lt_wordLimit (h : v.OnPage) {n : Nat} (hn : n ≤ max 1 v.pageCount) :
    n + 1 < Number.wordLimit := by
  have hpages : v.pageCount < 2 ^ 64 - 3 := v.pager.pageCount_lt h.size_mem h.length_lt
  have hlimit : Number.wordLimit = 2 ^ 64 := rfl
  omega

/-- A click that is offered leads to a page, without a difference below zero or a sum beyond 64
bits. -/
theorem OnPage.exists_destination (h : v.OnPage) {t : Turn} (ht : v.offers t = true) :
    ∃ n, v.destination? t = some n ∧ 1 ≤ n ∧ n ≤ max 1 v.pageCount := by
  have hcurrent := h.current_le
  have hone := v.pager.one_le_current
  cases t with
  | size size =>
    refine ⟨_, rfl, ?_⟩
    split <;> omega
  | previous =>
    have hback : 1 < v.pager.current := of_decide_eq_true ht
    exact ⟨v.pager.current - 1, if_pos hone, by omega, by omega⟩
  | number n =>
    have hshown := v.pager.bounds_of_mem_visiblePages (List.contains_iff_mem.mp ht)
    exact ⟨n, rfl, hshown.1, Nat.le_trans hshown.2 (Nat.le_max_right ..)⟩
  | next =>
    have hforth : v.pager.current < v.pageCount := of_decide_eq_true ht
    exact ⟨v.pager.current + 1, if_pos (h.succ_lt_wordLimit hcurrent), by omega, by omega⟩

/-! ## Staying on the pages -/

/-- A new view is on its first page. -/
theorem onPage_fresh (kind : Kind) (id title : String) (fields : FieldChoice) (labels : Labels) :
    ((View.new kind id title).withColumns fields labels).OnPage where
  size_mem := List.mem_cons_self
  length_lt := Nat.two_pow_pos 64
  current_le := Nat.le_max_left ..

/-- A click that is offered keeps the view on its pages, and leads where it is calculated to
lead: the number of the page is taken as it is. -/
theorem OnPage.turn (h : v.OnPage) {t : Turn} (ht : v.offers t = true) :
    (v.turn t).OnPage ∧ v.destination? t = some (v.turn t).pager.current := by
  obtain ⟨n, hn, hpos, hle⟩ := h.exists_destination ht
  rw [hn, Option.some_inj]
  obtain ⟨hkept, hcurrent⟩ | ⟨size, rfl, hsized, hfirst⟩ | hturned := turn_cases hn
  · rw [hkept]
    exact ⟨h, hcurrent⟩
  · have hoffered : size ∈ Pager.offeredSizes := List.contains_iff_mem.mp ht
    have hbounds := Pager.bounds_of_mem_offeredSizes hoffered
    have hsize : (v.setPageSize size).pager.size = size :=
      v.pager.size_setSize (by omega) hbounds.2
    rw [hsized]
    exact ⟨⟨hsize.symm ▸ hoffered, h.length_lt, Nat.le_max_left ..⟩, hfirst⟩
  · have hsucc := h.succ_lt_wordLimit hle
    have hcurrent : (v.setPage n).pager.current = n := v.pager.current_setPage hpos (by omega)
    rw [hturned]
    exact ⟨⟨h.size_mem, h.length_lt, hcurrent.symm ▸ hle⟩, hcurrent.symm⟩

/-- A new result is shown from its first page on. -/
theorem OnPage.apply (h : v.OnPage) {r : Result} (hr : r.events.length < Number.wordLimit) :
    (v.apply r).OnPage where
  size_mem := h.size_mem
  length_lt := hr
  current_le := Nat.le_max_left ..

/-- A view stays on one of its pages in one use. -/
theorem OnPage.after (h : v.OnPage) (use : Use) : (v.after use).OnPage := by
  cases use with
  | turn t =>
    unfold View.after
    dsimp only
    split
    · exact (h.turn ‹_›).1
    · exact h
  | result r inMemory => exact h.apply inMemory

/-- A view stays on one of its pages in any number of uses. -/
theorem OnPage.afterAll (h : v.OnPage) (uses : List Use) : (v.afterAll uses).OnPage := by
  induction uses generalizing v with
  | nil => exact h
  | cons use uses ih => exact ih (h.after use)

/-- **The pager never leaves the operator without a page.** Whatever results come to a view that
was opened, and whichever of the clicks that it offers are made in between, the current page is
one of those counted, or the first one. Every click that is offered leads to the page that it
names, without a difference below zero or a sum beyond 64 bits. The page and the page numbers can
be calculated, and as long as there are events there are some on the page, and its number is
among those shown. -/
theorem afterAll_onShownPage (kind : Kind) (id title : String) (fields : FieldChoice)
    (labels : Labels) (uses : List Use) :
    let v := ((View.new kind id title).withColumns fields labels).afterAll uses
    (1 ≤ v.pager.current ∧ v.pager.current ≤ max 1 v.pageCount) ∧
    (∀ t, v.offers t = true → v.destination? t = some (v.turn t).pager.current) ∧
    v.pager.page? v.events = some v.page ∧
    v.pager.visiblePages? v.events.length = some v.visiblePages ∧
    (v.events ≠ [] → v.page ≠ [] ∧ v.pager.current ∈ v.visiblePages) := by
  intro v
  have h : v.OnPage := (onPage_fresh kind id title fields labels).afterAll uses
  refine ⟨⟨v.pager.one_le_current, h.current_le⟩, fun t ht => (h.turn ht).2, ?_,
    v.pager.visiblePages?_eq_visiblePages h.size_mem h.length_lt, fun hevents => ?_⟩
  · rw [page, v.pager.page_eq h.length_lt]
    exact v.pager.page?_eq h.length_lt
  · have hcount : v.pageCount ≠ 0 := by
      rw [pageCount, Ne, v.pager.pageCount_eq_zero_iff, List.length_eq_zero_iff]
      exact hevents
    have hcurrent : v.pager.current ≤ v.pageCount := by
      have hle := h.current_le
      omega
    exact ⟨(v.pager.page_ne_nil_iff h.length_lt).mpr hcurrent,
      v.pager.current_mem_visiblePages h.size_mem h.length_lt hcurrent⟩

end Lifecycle.View

end ArchiveDesk
