import ArchiveDesk.Text.UpperCase
import Mathlib.Data.String.Basic

/-!
# What upper-casing does to texts

Upper-casing is done once and for all: the characters that the tables produce are not changed
by them again. It merges texts, also texts of different lengths, but most capital letters of
the Latin alphabet come from nothing but themselves and their small letters. A text of such
letters is the upper case only of texts that are at most its lower case.
-/

namespace ArchiveDesk.Text

/-- A code point that no rule of the tables applies to. -/
def IsUpper (n : Nat) : Prop :=
  (∀ e ∈ caseExpansions, e.1 ≠ n) ∧ ∀ r ∈ caseRuns, r.covers n = false

instance (n : Nat) : Decidable (IsUpper n) := inferInstanceAs (Decidable (_ ∧ _))

/-- The upper case of a code point of the run. -/
def CaseRun.image (r : CaseRun) (n : Nat) : Nat := r.target + (n - r.first)

/-- What becomes of a character: several ones, one that lies in the image of a run, or the
character itself. -/
theorem upperChar_cases (c : Char) :
    (∃ e ∈ caseExpansions, upperChar c = e.2.map Char.ofNat) ∨
    (∃ r ∈ caseRuns, r.covers c.toNat = true ∧ upperChar c = [Char.ofNat (r.image c.toNat)]) ∨
    (IsUpper c.toNat ∧ upperChar c = [c]) := by
  unfold upperChar
  split
  · rename_i e image hfind
    exact .inl ⟨_, List.mem_of_find?_eq_some hfind, rfl⟩
  · rename_i hexpansions
    right
    split
    · rename_i r hfind
      have hcovers : r.covers c.toNat = true :=
        List.find?_some (p := (CaseRun.covers · c.toNat)) hfind
      exact .inl ⟨r, List.mem_of_find?_eq_some hfind, hcovers, rfl⟩
    · rename_i hruns
      refine .inr ⟨⟨fun e he => ?_, fun r hr => ?_⟩, rfl⟩
      · simpa using List.find?_eq_none.mp hexpansions e he
      · simpa using List.find?_eq_none.mp hruns r hr

/-- A character that no rule applies to is its own upper case. -/
theorem upperChar_of_isUpper {c : Char} (h : IsUpper c.toNat) : upperChar c = [c] := by
  have hexpansions : caseExpansions.find? (·.1 == c.toNat) = none := by
    simpa using h.1
  have hruns : caseRuns.find? (·.covers c.toNat) = none := by
    simpa using h.2
  rw [upperChar, hexpansions, hruns]

private theorem toNat_ofNat {n : Nat} (h : n.isValidChar) : (Char.ofNat n).toNat = n := by
  rw [Char.ofNat, dif_pos h]
  rfl

/-! ## Upper-casing twice -/

/-- The images of a run are not covered by another run: they lie beside it, or between its
characters, which are then every other one. -/
def CaseRun.apart (r other : CaseRun) : Bool :=
  -- There are many pairs of runs, and the kernel evaluates this comparison in one step.
  Nat.blt (r.image r.last) other.first || Nat.blt other.last r.target ||
    (other.step == 2 && (r.step == 2 || r.first == r.last) && (r.target + other.first) % 2 == 1)

/-- A code point lies beside the images of the run. -/
def CaseRun.misses (r : CaseRun) (n : Nat) : Bool :=
  Nat.blt n r.target || Nat.blt (r.image r.last) n

private theorem apart_caseRuns : (caseRuns.all fun r => caseRuns.all r.apart) = true := by
  decide +kernel

private theorem misses_expansions :
    (caseRuns.all fun r => caseExpansions.all fun e => r.misses e.1) = true := by
  decide +kernel

private theorem isValidChar_images : ∀ r ∈ caseRuns,
    r.image r.last < 0xD800 ∨ 0xDFFF < r.target ∧ r.image r.last < 0x110000 := by
  decide +kernel

private theorem isUpper_expansions : ∀ e ∈ caseExpansions, ∀ n ∈ e.2,
    n.isValidChar ∧ IsUpper n := by
  decide +kernel

/-- A run covers every step from its first code point to its last one. -/
theorem CaseRun.covers_iff {r : CaseRun} {n : Nat} :
    r.covers n = true ↔ r.first ≤ n ∧ n ≤ r.last ∧ (n - r.first) % r.step = 0 := by
  simp [CaseRun.covers, and_assoc]

/-- What a run produces is not covered by another run that lies apart from it. -/
theorem CaseRun.not_covers_image {r other : CaseRun} {n : Nat} (h : r.apart other = true)
    (hn : r.covers n = true) : other.covers (r.image n) = false := by
  obtain ⟨hfirst, hlast, hstep⟩ := covers_iff.mp hn
  simp only [apart, image, Bool.or_eq_true, Bool.and_eq_true, Nat.blt_eq, beq_iff_eq] at h
  rw [← Bool.not_eq_true, covers_iff]
  rintro ⟨hfirst', hlast', hstep'⟩
  simp only [image] at hfirst' hlast' hstep'
  rcases h with (hbelow | habove) | ⟨⟨htwo, hruns⟩, hodd⟩
  · omega
  · omega
  · rw [htwo] at hstep'
    rcases hruns with hr | hr
    · rw [hr] at hstep
      omega
    · omega

/-- A character that comes out of a run is in upper case. -/
theorem isUpper_image {r : CaseRun} {n : Nat} (hr : r ∈ caseRuns) (hn : r.covers n = true) :
    (r.image n).isValidChar ∧ IsUpper (r.image n) := by
  obtain ⟨hfirst, hlast, -⟩ := CaseRun.covers_iff.mp hn
  refine ⟨?_, fun e he => ?_, fun other hother => ?_⟩
  · have hvalid := isValidChar_images r hr
    simp only [CaseRun.image, Nat.isValidChar] at hvalid ⊢
    omega
  · have hmisses : r.misses e.1 = true :=
      List.all_eq_true.mp (List.all_eq_true.mp misses_expansions r hr) e he
    simp only [CaseRun.misses, CaseRun.image, Bool.or_eq_true, Nat.blt_eq] at hmisses
    simp only [CaseRun.image]
    omega
  · have hapart : r.apart other = true :=
      List.all_eq_true.mp (List.all_eq_true.mp apart_caseRuns r hr) other hother
    exact CaseRun.not_covers_image hapart hn

/-- Each character of an upper case is its own upper case. -/
theorem upperChar_of_mem_upperChar {c d : Char} (h : d ∈ upperChar c) : upperChar d = [d] := by
  apply upperChar_of_isUpper
  rcases upperChar_cases c with ⟨e, he, heq⟩ | ⟨r, hr, hcovers, heq⟩ | ⟨hupper, heq⟩
  · rw [heq] at h
    obtain ⟨n, hn, rfl⟩ := List.mem_map.mp h
    obtain ⟨hvalid, hupper⟩ := isUpper_expansions e he n hn
    rwa [toNat_ofNat hvalid]
  · rw [heq, List.mem_singleton] at h
    obtain ⟨hvalid, hupper⟩ := isUpper_image hr hcovers
    rwa [h, toNat_ofNat hvalid]
  · rw [heq, List.mem_singleton] at h
    rwa [h]

/-- Upper-casing a second time changes nothing. -/
@[simp] theorem upper_upper (s : String) : upper (upper s) = upper s := by
  unfold upper
  rw [String.toList_ofList, List.flatMap_assoc]
  congr 1
  refine List.flatMap_congr fun c _ => ?_
  calc (upperChar c).flatMap upperChar
      = (upperChar c).flatMap fun d => [d] :=
        List.flatMap_congr fun d hd => upperChar_of_mem_upperChar hd
    _ = upperChar c := List.flatMap_singleton' _

/-! ## Where capital letters come from -/

/-- A capital letter of the Latin alphabet other than F, I and S. Those three come also from
ligatures, from the dotless i and from the long s. -/
def IsPlainCapital (n : Nat) : Prop :=
  0x41 ≤ n ∧ n ≤ 0x5A ∧ n ≠ 0x46 ∧ n ≠ 0x49 ∧ n ≠ 0x53

instance (n : Nat) : Decidable (IsPlainCapital n) := inferInstanceAs (Decidable (_ ∧ _))

/-- The characters are plain capitals. -/
def ArePlainCapitals (capitals : List Char) : Prop := ∀ d ∈ capitals, IsPlainCapital d.toNat

instance (capitals : List Char) : Decidable (ArePlainCapitals capitals) :=
  List.decidableBAll _ _

private theorem exists_not_plainCapital : ∀ e ∈ caseExpansions, ∃ n ∈ e.2,
    n.isValidChar ∧ ¬ IsPlainCapital n := by
  decide +kernel

/-- The run of the small letters a to z is the only one that leads to plain capitals. -/
private theorem target_of_plainCapital : ∀ r ∈ caseRuns,
    (r.first = 0x61 ∧ r.target = 0x41) ∨ 0x5A < r.target ∨
      (r.first = r.last ∧ ¬ IsPlainCapital r.target) := by
  decide +kernel

/-- What becomes plain capitals becomes one of them, and lies at most 32 places behind it. -/
theorem exists_upperChar_eq {c : Char} (h : ArePlainCapitals (upperChar c)) :
    ∃ d, upperChar c = [d] ∧ c.toNat ≤ d.toNat + 32 := by
  rcases upperChar_cases c with ⟨e, he, heq⟩ | ⟨r, hr, hcovers, heq⟩ | ⟨-, heq⟩
  · obtain ⟨n, hn, hvalid, hplain⟩ := exists_not_plainCapital e he
    have hmem : Char.ofNat n ∈ upperChar c := by
      rw [heq]
      exact List.mem_map_of_mem hn
    have hn' := h _ hmem
    rw [toNat_ofNat hvalid] at hn'
    exact absurd hn' hplain
  · refine ⟨_, heq, ?_⟩
    obtain ⟨hvalid, -⟩ := isUpper_image hr hcovers
    have hplain := h (Char.ofNat (r.image c.toNat)) (by simp [heq])
    obtain ⟨hfirst, hlast, -⟩ := CaseRun.covers_iff.mp hcovers
    rw [toNat_ofNat hvalid] at hplain ⊢
    rcases target_of_plainCapital r hr with ⟨hstart, htarget⟩ | hbeyond | ⟨hone, hnot⟩
    · simp only [CaseRun.image]
      omega
    · have hletter := hplain.2.1
      simp only [CaseRun.image] at hletter
      omega
    · have himage : r.image c.toNat = r.target := by
        simp only [CaseRun.image]
        omega
      exact absurd (himage ▸ hplain) hnot
  · exact ⟨c, heq, Nat.le_add_right _ _⟩

/-- A plain capital stands 32 places before its small letter. -/
theorem toNat_toLower_of_plainCapital {d : Char} (h : IsPlainCapital d.toNat) :
    d.toLower.toNat = d.toNat + 32 := by
  obtain ⟨hlow, hhigh, -⟩ := h
  have hletter : d.val ≥ 'A'.val ∧ d.val ≤ 'Z'.val :=
    ⟨UInt32.le_iff_toNat_le.mpr hlow, UInt32.le_iff_toNat_le.mpr hhigh⟩
  have hlower : d.toLower = ⟨d.val + ('a'.val - 'A'.val), _⟩ := dif_pos hletter
  rw [hlower]
  change (d.val.toNat + 32) % 2 ^ 32 = d.toNat + 32
  rw [Char.toNat_val]
  omega

/-- Characters that become plain capitals are not beyond their small letters. -/
theorem not_map_toLower_lt_of_flatMap_eq {cs capitals : List Char}
    (hplain : ArePlainCapitals capitals) (h : cs.flatMap upperChar = capitals) :
    ¬ capitals.map Char.toLower < cs := by
  induction cs generalizing capitals with
  | nil => exact List.not_lt_nil _
  | cons c cs ih =>
    subst h
    rw [List.flatMap_cons] at hplain ⊢
    obtain ⟨d, heq, hle⟩ :=
      exists_upperChar_eq fun d hd => hplain d (List.mem_append_left _ hd)
    have hd : IsPlainCapital d.toNat := hplain d (by simp [heq])
    have hrest : ¬ (cs.flatMap upperChar).map Char.toLower < cs :=
      ih (fun d hd => hplain d (List.mem_append_right _ hd)) rfl
    rw [heq, List.singleton_append, List.map_cons, List.cons_lt_cons_iff]
    rintro (hfirst | ⟨-, hlt⟩)
    · have hfirst' : d.toLower.toNat < c.toNat := hfirst
      rw [toNat_toLower_of_plainCapital hd] at hfirst'
      omega
    · exact hrest hlt

/-- A text whose upper case is a text of plain capitals is at most the text of their small
letters. -/
theorem le_of_upper_eq {s capitals : String}
    (hplain : ArePlainCapitals capitals.toList) (h : upper s = capitals) :
    s ≤ String.ofList (capitals.toList.map Char.toLower) := by
  refine String.not_lt.mp fun hlt => ?_
  rw [String.lt_iff, String.toList_ofList] at hlt
  refine not_map_toLower_lt_of_flatMap_eq hplain ?_ hlt
  rw [← h, upper, String.toList_ofList]

end ArchiveDesk.Text
