import ArchiveDesk.Lifecycle.Lookup
import ArchiveDesk.Proofs.Number.Binary64

/-!
# What counts as one hit

A lookup asks its source once, and its result counts only if the answer reports exactly one
hit. The file says which answers do so among all JSON values, and which number any other
answer is taken to report.
-/

namespace ArchiveDesk

namespace Json

/-- A value is found in another one by following names through objects. -/
inductive Holds : Json → List String → Json → Prop where
  | here (value : Json) : Holds value [] value
  | member {members : List (String × Json)} {name : String} {next value : Json}
      {names : List String} (hnext : (Fields.ofList members).get? name = some next)
      (hrest : Holds next names value) : Holds (.object members) (name :: names) value

/-- A number in double precision. -/
def double? : Json → Option Number.Binary64
  | .integer n => (Number.Binary64.ofNat? n.natAbs).map fun x => if n < 0 then x.neg else x
  | .float x => some x
  | _ => none

/-- The value is the number one, written as an integer or not. -/
def IsOne (value : Json) : Prop := value = .integer 1 ∨ ∃ x, value = .float x ∧ x.toRat = 1

/-- The first name is followed first. -/
theorem holds_cons_iff {j value : Json} {name : String} {names : List String} :
    j.Holds (name :: names) value ↔ ∃ next, j.get? name = some next ∧ next.Holds names value := by
  constructor
  · rintro (_ | ⟨hnext, hrest⟩)
    exact ⟨_, hnext, hrest⟩
  · rintro ⟨next, hnext, hrest⟩
    cases j with
    | object members => exact .member hnext hrest
    | _ => cases hnext

/-- Without names a value is found in itself. -/
theorem holds_nil_iff {j value : Json} : j.Holds [] value ↔ j = value :=
  ⟨fun | .here _ => rfl, fun h => h ▸ .here j⟩

end Json

namespace Lifecycle

open Number (Binary64)

namespace Result

/-- A whole number that fits in 64 bits with its sign. -/
def FitsWord (total : Json) : Prop := ∃ n, total = .integer n ∧ countMin ≤ n ∧ n ≤ countMax

/-- What a total counts. An integer of 64 bits counts as it is. Any other number is taken in
double precision, and counts if it is whole and its magnitude is at most 2^63, but no more than
the greatest integer of 64 bits. All other values count as none. -/
inductive Counts : Json → Int → Prop where
  | exactly {n : Int} (hfits : FitsWord (.integer n)) : Counts (.integer n) n
  | whole {total : Json} {x : Binary64} {n : Int} (hfits : ¬ FitsWord total)
      (hx : total.double? = some x) (hn : n = x.toRat) (hsmall : |n| ≤ 2 ^ 63) :
      Counts total (min n countMax)
  | fractional {total : Json} {x : Binary64} (hfits : ¬ FitsWord total)
      (hx : total.double? = some x) (hn : ∀ n : Int, n ≠ x.toRat) : Counts total 0
  | excessive {total : Json} {x : Binary64} (hfits : ¬ FitsWord total)
      (hx : total.double? = some x) (hlarge : 2 ^ 63 < |x.toRat|) : Counts total 0
  | noNumber {total : Json} (hfits : ¬ FitsWord total) (hx : total.double? = none) :
      Counts total 0

/-- What an answer of a source is taken to report: the count of its total, and none if there is
no total or no answer at all. -/
inductive Reports : Except Failure Json → Int → Prop where
  | total {answer total : Json} {n : Int} (htotal : answer.Holds ["hits", "total"] total)
      (hcounts : Counts total n) : Reports (.ok answer) n
  | noTotal {answer : Json} (htotal : ∀ total, ¬ answer.Holds ["hits", "total"] total) :
      Reports (.ok answer) 0
  | failed (cause : Failure) : Reports (.error cause) 0

private theorem natAbs_le_iff {n : Int} : n.natAbs ≤ Nat.pow 2 63 ↔ |n| ≤ 2 ^ 63 := by
  rw [Int.abs_eq_natAbs, Nat.pow_eq]
  omega

/-- The count of a binary number, by the kind of its value. -/
theorem hitsOfFloat_cases (x : Binary64) :
    (∃ n : Int, n = x.toRat ∧ |n| ≤ 2 ^ 63 ∧ hitsOfFloat x = min n countMax) ∨
    (((∀ n : Int, n ≠ x.toRat) ∨ 2 ^ 63 < |x.toRat|) ∧ hitsOfFloat x = 0) := by
  unfold hitsOfFloat
  cases hint : x.toInt? with
  | none => exact .inr ⟨.inl (Binary64.toInt?_eq_none_iff.mp hint), rfl⟩
  | some n =>
    have hn := Binary64.toInt?_eq_some_iff.mp hint
    by_cases hsmall : |n| ≤ 2 ^ 63
    · exact .inl ⟨n, hn, hsmall, if_pos (natAbs_le_iff.mpr hsmall)⟩
    · refine .inr ⟨.inr ?_, if_neg (natAbs_le_iff.not.mpr hsmall)⟩
      rw [← hn]
      exact_mod_cast not_le.mp hsmall

/-- The count of a total that is no integer of 64 bits. -/
theorem hitCount_of_not_fitsWord {total : Json} (hfits : ¬ FitsWord total) :
    hitCount total = (total.double?.map hitsOfFloat).getD 0 := by
  cases total with
  | integer n =>
    have hn : ¬ (countMin ≤ n ∧ n ≤ countMax) := fun h => hfits ⟨n, rfl, h⟩
    simp only [hitCount, if_neg hn, Json.double?]
    cases Binary64.ofNat? n.natAbs <;> rfl
  | _ => rfl

/-- A whole number that fits is counted as it is. -/
theorem hitCount_of_fitsWord {n : Int} (hfits : FitsWord (.integer n)) :
    hitCount (.integer n) = n := by
  obtain ⟨n', hn, hrange⟩ := hfits
  cases hn
  exact if_pos hrange

/-- The count of a total is what the total counts. -/
theorem counts_hitCount (total : Json) : Counts total (hitCount total) := by
  by_cases hfits : FitsWord total
  · obtain ⟨n, rfl, -⟩ := id hfits
    rw [hitCount_of_fitsWord hfits]
    exact .exactly hfits
  · rw [hitCount_of_not_fitsWord hfits]
    cases hx : total.double? with
    | none => exact .noNumber hfits hx
    | some x =>
      simp only [Option.map_some, Option.getD_some]
      rcases hitsOfFloat_cases x with ⟨n, hn, hsmall, hcount⟩ | ⟨hfractional | hlarge, hcount⟩
      · exact hcount ▸ .whole hfits hx hn hsmall
      · exact hcount ▸ .fractional hfits hx hfractional
      · exact hcount ▸ .excessive hfits hx hlarge

/-- A binary number counts as one hit if its value is one. -/
theorem hitsOfFloat_eq_one_iff {x : Binary64} : hitsOfFloat x = 1 ↔ x.toRat = 1 := by
  rcases hitsOfFloat_cases x with ⟨n, hn, -, hcount⟩ | ⟨hother, hcount⟩
  · have hmin : min n countMax = 1 ↔ n = 1 := by
      simp only [countMax, Int.pow_eq]
      omega
    rw [hcount, hmin, ← hn]
    exact_mod_cast Iff.rfl
  · rw [hcount]
    refine iff_of_false (by decide) fun hone => ?_
    rcases hother with hfractional | hlarge
    · exact hfractional 1 (by rw [hone, Int.cast_one])
    · rw [hone] at hlarge
      norm_num at hlarge

/-- An integer beyond 64 bits is rounded to an even number. -/
theorem toRat_ne_one_of_not_fitsWord {n : Int} {x : Binary64} (hfits : ¬ FitsWord (.integer n))
    (hx : (Json.integer n).double? = some x) : x.toRat ≠ 1 := by
  have hlarge : 2 ^ 54 ≤ n.natAbs := by
    by_contra hsmall
    refine hfits ⟨n, rfl, ?_⟩
    simp only [countMin, countMax, Int.pow_eq]
    omega
  obtain ⟨y, hy, rfl⟩ := Option.map_eq_some_iff.mp hx
  have hexponent : 0 < (if n < 0 then y.neg else y).exponent := by
    have := Binary64.exponent_pos_of_ofNat? hlarge hy
    split <;> exact this
  intro hone
  have hint : (if n < 0 then y.neg else y).toInt? = some 1 :=
    Binary64.toInt?_eq_some_iff.mpr (by rw [hone, Int.cast_one])
  exact absurd (Binary64.even_of_exponent_pos hexponent hint) (by decide)

/-- Only the number one counts as one hit. -/
theorem hitCount_eq_one_iff {total : Json} : hitCount total = 1 ↔ total.IsOne := by
  by_cases hfits : FitsWord total
  · obtain ⟨n, rfl, -⟩ := id hfits
    simp [hitCount_of_fitsWord hfits, Json.IsOne]
  rw [hitCount_of_not_fitsWord hfits]
  cases total with
  | float x => simp [Json.double?, Json.IsOne, hitsOfFloat_eq_one_iff]
  | integer n =>
    have hn : n ≠ 1 := by
      rintro rfl
      exact hfits ⟨1, rfl, by decide, by decide⟩
    cases hx : (Json.integer n).double? with
    | none => simp [Json.IsOne, hn]
    | some x =>
      simp [Json.IsOne, hn, hitsOfFloat_eq_one_iff, toRat_ne_one_of_not_fitsWord hfits hx]
  | _ => simp [Json.double?, Json.IsOne]

/-- The count that an answer reports is the one of its total. -/
theorem reported_eq (answer : Json) :
    reported answer = (((answer.get? "hits").bind (·.get? "total")).map hitCount).getD 0 := by
  unfold reported hits?
  cases answer.get? "hits" with
  | none => rfl
  | some hits => cases hits <;> rfl

/-- The total is found below the hits. -/
theorem holds_total_iff {answer total : Json} : answer.Holds ["hits", "total"] total ↔
    (answer.get? "hits").bind (·.get? "total") = some total := by
  simp [Json.holds_cons_iff, Json.holds_nil_iff, Option.bind_eq_some_iff]

/-- Every answer reports the count that is read off it. -/
theorem reports_reported (answer : Json) : Reports (.ok answer) (reported answer) := by
  rw [reported_eq]
  cases htotal : (answer.get? "hits").bind (·.get? "total") with
  | none =>
    exact .noTotal fun total hholds => absurd (htotal.symm.trans (holds_total_iff.mp hholds)) nofun
  | some total => exact .total (holds_total_iff.mpr htotal) (counts_hitCount total)

/-- One hit is reported exactly if the total is the number one. -/
theorem reported_eq_one_iff {answer : Json} :
    reported answer = 1 ↔ ∃ total, answer.Holds ["hits", "total"] total ∧ total.IsOne := by
  rw [reported_eq]
  simp only [holds_total_iff]
  cases (answer.get? "hits").bind (·.get? "total") with
  | none => simp
  | some total => simp [hitCount_eq_one_iff]

/-- The events are found below the result. -/
theorem holds_events_iff {answer value : Json} : answer.Holds ["result", "events"] value ↔
    (answer.get? "result").bind (·.get? "events") = some value := by
  simp [Json.holds_cons_iff, Json.holds_nil_iff, Option.bind_eq_some_iff]

/-- The events of an answer are the objects in its list of events. -/
theorem rawEvents_of_holds {answer : Json} {items : List Json}
    (h : answer.Holds ["result", "events"] (.array items)) :
    rawEvents answer = items.filterMap Json.fields? := by
  simp [rawEvents, Option.bind_eq_bind, holds_events_iff.mp h, Json.items?]

/-- An answer without a list of events has none. -/
theorem rawEvents_of_not_holds {answer : Json}
    (h : ∀ items, ¬ answer.Holds ["result", "events"] (.array items)) :
    rawEvents answer = [] := by
  simp only [holds_events_iff] at h
  rw [rawEvents, Option.bind_eq_bind, Option.bind_eq_bind]
  cases hvalue : (answer.get? "result").bind (·.get? "events") with
  | none => rfl
  | some value =>
    cases value with
    | array items => exact absurd hvalue (h items)
    | _ => rfl

/-- A payload with one hit is an entry with its finished events. -/
theorem ofPayload_of_one {answer : Json} (h : reported answer = 1) :
    ofPayload answer = entry (finished (rawEvents answer)) := if_pos h

/-- Any other payload is a mismatch with its count. -/
theorem ofPayload_of_ne_one {answer : Json} (h : reported answer ≠ 1) :
    ofPayload answer = mismatch (reported answer) := if_neg h

end Result

open Result

/-- **Exactly one hit.** A lookup asks its source once, and for nothing else. Its result is
valid if and only if the answer has the number one as the total of its hits, and then holds the
finished events among the objects of the answer's list of events. Any other result is empty and
has the count of hits that the answer reports, which is not one. -/
theorem lookup_valid_iff (source : Source) (kind : Kind) (id : String) :
    let answer := source kind id
    let l := lookup source kind id
    l.calls = [(kind, id)] ∧
    (∀ other : Source, other kind id = answer → lookup other kind id = l) ∧
    (l.result.isValid = true ↔
      ∃ j total, answer = .ok j ∧ j.Holds ["hits", "total"] total ∧ total.IsOne) ∧
    (l.result.isValid = true → l.result.totalHits = 1 ∧ ∀ j, answer = .ok j →
      (∀ items, j.Holds ["result", "events"] (.array items) →
        l.result.events = finished (items.filterMap Json.fields?)) ∧
      ((∀ items, ¬ j.Holds ["result", "events"] (.array items)) → l.result.events = [])) ∧
    (l.result.isValid = false →
      l.result.events = [] ∧ l.result.totalHits ≠ 1 ∧ Reports answer l.result.totalHits) := by
  intro answer l
  have hresult : l.result = ofAnswer answer := rfl
  refine ⟨rfl, fun other hother => by simp only [l, answer, lookup, hother], ?_⟩
  rw [hresult]
  clear_value answer
  cases answer with
  | error cause =>
    exact ⟨by simp [ofAnswer, isValid], nofun, fun _ => ⟨rfl, Int.zero_ne_one, .failed cause⟩⟩
  | ok j =>
    simp only [ofAnswer, Except.ok.injEq, exists_and_left, exists_eq_left']
    rw [← reported_eq_one_iff]
    by_cases hone : reported j = 1
    · rw [ofPayload_of_one hone]
      refine ⟨by simp [isValid, hone], fun _ => ⟨rfl, ?_⟩, nofun⟩
      rintro j rfl
      exact ⟨fun items hitems => congrArg finished (rawEvents_of_holds hitems),
        fun hnone => congrArg finished (rawEvents_of_not_holds hnone)⟩
    · rw [ofPayload_of_ne_one hone]
      exact ⟨by simp [isValid, hone], nofun, fun _ => ⟨rfl, hone, reports_reported j⟩⟩

end Lifecycle

end ArchiveDesk
