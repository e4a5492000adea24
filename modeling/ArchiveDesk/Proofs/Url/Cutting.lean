import Mathlib.Data.List.DropRight
import ArchiveDesk.Url.Parser

/-!
# Fronts and tails of references

A reference to an address is a front that ends in a slash, and a tail of letters, digits and
slashes. The front is cleaned, loses its scheme and is cut at its signs in the same way whatever
the tail is.
-/

namespace ArchiveDesk.Url

/-- Whether a character is dropped at the ends of a text. -/
def isOuter (c : Char) : Bool := c.toNat ≤ 0x20

/-- Whether a character is dropped everywhere in a text. -/
def isBreak (c : Char) : Bool := c == '\t' || c == '\n' || c == '\r'

/-- The cleaning drops outer characters at both ends, then breaks everywhere. -/
theorem cleaned_eq (cs : List Char) :
    cleaned cs = ((cs.dropWhile isOuter).rdropWhile isOuter).filter (!isBreak ·) := rfl

/-! ## Letters and digits -/

/-- A letter or digit is none of the other characters. -/
theorem ne_of_isAlphanum {c d : Char} (hc : c.isAlphanum = true) (hd : d.isAlphanum = false) :
    c ≠ d := by
  rintro rfl
  rw [hc] at hd
  exact Bool.noConfusion hd

/-- Letters and digits are printable ASCII characters. -/
theorem isAlphanum_bounds {c : Char} (hc : c.isAlphanum = true) :
    0x20 < c.toNat ∧ c.toNat < 0x7F := by
  change (decide (c.val ≥ 'A'.val ∧ c.val ≤ 'Z'.val) ||
    (decide (c.val ≥ 'a'.val) && decide (c.val ≤ 'z'.val)) ||
      (decide (c.val ≥ '0'.val) && decide (c.val ≤ '9'.val))) = true at hc
  simp only [Bool.or_eq_true, Bool.and_eq_true, decide_eq_true_eq, ge_iff_le,
    UInt32.le_iff_toNat_le] at hc
  change (((65 ≤ c.toNat ∧ c.toNat ≤ 90) ∨ (97 ≤ c.toNat ∧ c.toNat ≤ 122)) ∨
    (48 ≤ c.toNat ∧ c.toNat ≤ 57)) at hc
  omega

private theorem isOuter_of_isAlphanum {c : Char} (hc : c.isAlphanum = true) :
    isOuter c = false := by
  simpa [isOuter] using (isAlphanum_bounds hc).1

/-- A letter or digit is no slash. -/
theorem isAnySlash_of_isAlphanum {c : Char} (hc : c.isAlphanum = true) : isAnySlash c = false := by
  simp only [isAnySlash, Bool.or_eq_false_iff, beq_eq_false_iff_ne]
  exact ⟨ne_of_isAlphanum hc rfl, ne_of_isAlphanum hc rfl⟩

/-! ## Tails -/

/-- A text of letters, digits and slashes that does not begin with a slash. -/
structure IsTail (t : List Char) : Prop where
  first : ∃ c cs, t = c :: cs ∧ c.isAlphanum = true
  plain : ∀ c ∈ t, c.isAlphanum = true ∨ c = '/'

instance (t : List Char) : Decidable (IsTail t) :=
  decidable_of_iff
    (t.head?.any Char.isAlphanum = true ∧ t.all (fun c => c.isAlphanum || c == '/') = true) <| by
      simp only [List.all_eq_true, Bool.or_eq_true, beq_iff_eq]
      constructor
      · rintro ⟨hfirst, hplain⟩
        obtain ⟨c, hc, halnum⟩ := (Option.any_eq_true _ _).mp hfirst
        obtain ⟨cs, rfl⟩ := List.head?_eq_some_iff.mp hc
        exact ⟨⟨c, cs, rfl, halnum⟩, hplain⟩
      · rintro ⟨⟨c, cs, rfl, halnum⟩, hplain⟩
        exact ⟨halnum, hplain⟩

/-- A tail goes on with letters, digits and slashes. -/
theorem IsTail.append {t cs : List Char} (ht : IsTail t)
    (hcs : ∀ c ∈ cs, c.isAlphanum = true ∨ c = '/') : IsTail (t ++ cs) := by
  obtain ⟨c, rest, rfl, hc⟩ := ht.first
  exact ⟨⟨c, rest ++ cs, rfl, hc⟩, fun d hd => (List.mem_append.mp hd).elim (ht.plain d) (hcs d)⟩

/-- A tail holds no sign but slashes. -/
theorem IsTail.not_mem {t : List Char} (ht : IsTail t) {c : Char} (hc : c.isAlphanum = false)
    (hslash : c ≠ '/') : c ∉ t := fun hmem =>
  (ht.plain c hmem).elim (fun h => ne_of_isAlphanum h hc rfl) hslash

/-- No character of a tail is dropped at the ends. -/
theorem IsTail.isOuter_eq_false {t : List Char} (ht : IsTail t) : ∀ c ∈ t, isOuter c = false := by
  intro c hc
  rcases ht.plain c hc with h | rfl
  · exact isOuter_of_isAlphanum h
  · rfl

/-- No character of a tail is dropped as a break. -/
theorem IsTail.isBreak_eq_false {t : List Char} (ht : IsTail t) : ∀ c ∈ t, isBreak c = false := by
  intro c hc
  simp only [isBreak, Bool.or_eq_false_iff, beq_eq_false_iff_ne]
  refine ⟨⟨?_, ?_⟩, ?_⟩ <;> rintro rfl <;> exact ht.not_mem rfl (by decide) hc

/-- What a text begins with, up to a kind of character that no letter or digit is, does not
depend on the tail. -/
theorem IsTail.takeWhile_append {t : List Char} (ht : IsTail t) {p : Char → Bool}
    (hp : ∀ c, c.isAlphanum = true → p c = false) (front : List Char) :
    (front ++ t).takeWhile p = front.takeWhile p := by
  obtain ⟨c, cs, rfl, hc⟩ := ht.first
  rw [List.takeWhile_append]
  split
  · rename_i hlength
    rw [List.takeWhile_cons_of_neg (by simp [hp c hc]), List.append_nil,
      (List.takeWhile_prefix p).eq_of_length hlength]
  · rfl

/-- What is dropped before a letter or digit is dropped in the front. -/
theorem IsTail.dropWhile_append {t : List Char} (ht : IsTail t) {p : Char → Bool}
    (hp : ∀ c, c.isAlphanum = true → p c = false) (front : List Char) :
    (front ++ t).dropWhile p = front.dropWhile p ++ t := by
  obtain ⟨c, cs, rfl, hc⟩ := ht.first
  rw [List.dropWhile_append]
  split
  · rename_i hempty
    rw [List.isEmpty_iff.mp hempty, List.dropWhile_cons_of_neg (by simp [hp c hc]),
      List.nil_append]
  · rfl

/-! ## Fronts -/

/-- A text after which a new segment begins: it is empty or ends in a slash. -/
def IsFront (front : List Char) : Prop := ∀ c ∈ front.getLast?, c = '/'

instance (front : List Char) : Decidable (IsFront front) :=
  decidable_of_iff (front.getLast?.all (· == '/') = true) <| by
    cases hlast : front.getLast? <;> simp [IsFront, hlast]

/-- A text with a slash at its end is a front. -/
theorem IsFront.concat (cs : List Char) : IsFront (cs ++ ['/']) := by
  simp [IsFront]

/-- A front is empty or ends in a slash. -/
theorem IsFront.eq_nil_or_concat {front : List Char} (hf : IsFront front) :
    front = [] ∨ ∃ cs, front = cs ++ ['/'] := by
  rcases List.eq_nil_or_concat' front with hnil | ⟨cs, c, rfl⟩
  · exact .inl hnil
  · obtain rfl := hf c (by simp)
    exact .inr ⟨cs, rfl⟩

/-- The end of a front is a front. -/
theorem IsFront.suffix {front rest : List Char} (hf : IsFront front) (h : rest <:+ front) :
    IsFront rest := by
  obtain ⟨before, rfl⟩ := h
  intro c hc
  exact hf c (by simp [List.getLast?_append, Option.mem_def.mp hc])

/-- The rest of a front is a front. -/
theorem IsFront.of_cons {c : Char} {rest : List Char} (hf : IsFront (c :: rest)) : IsFront rest :=
  hf.suffix (List.suffix_cons c rest)

/-- A front from which no slashes are dropped is a front. -/
theorem IsFront.filter {front : List Char} (hf : IsFront front) {keep : Char → Bool}
    (hslash : keep '/' = true) : IsFront (front.filter keep) := by
  rcases hf.eq_nil_or_concat with rfl | ⟨cs, rfl⟩
  · exact hf
  · simpa [hslash] using IsFront.concat (cs.filter keep)

/-- A front that is not empty holds a slash. -/
theorem IsFront.slash_mem {front : List Char} (hf : IsFront front) (hne : front ≠ []) :
    '/' ∈ front := by
  rcases hf.eq_nil_or_concat with rfl | ⟨cs, rfl⟩
  · exact absurd rfl hne
  · simp

/-- A text that ends in a front which is not empty is a front. -/
theorem IsFront.append {front : List Char} (hf : IsFront front) (hne : front ≠ [])
    (before : List Char) : IsFront (before ++ front) := by
  rcases hf.eq_nil_or_concat with rfl | ⟨cs, rfl⟩
  · exact absurd rfl hne
  · rw [← List.append_assoc]
    exact IsFront.concat _

/-- What stands before the first slash is not all of a front. -/
theorem IsFront.length_takeWhile_lt {front : List Char} (hf : IsFront front) (hne : front ≠ [])
    {p : Char → Bool} (hp : p '/' = false) : (front.takeWhile p).length < front.length := by
  refine Nat.lt_of_le_of_ne (List.takeWhile_prefix p).length_le fun hlength => ?_
  have hall := (List.takeWhile_prefix p).eq_of_length hlength
  have htrue := List.mem_takeWhile_imp (hall ▸ hf.slash_mem hne)
  simp [hp] at htrue

/-- What a front begins with, up to a kind of character that a slash is, does not depend on what
follows the front. -/
theorem IsFront.takeWhile_append {front : List Char} (hf : IsFront front) (hne : front ≠ [])
    {p : Char → Bool} (hp : p '/' = false) (t : List Char) :
    (front ++ t).takeWhile p = front.takeWhile p := by
  rw [List.takeWhile_append, if_neg (Nat.ne_of_lt (hf.length_takeWhile_lt hne hp))]

/-- The first slash of a front is left with what follows it. -/
theorem IsFront.dropWhile_ne_nil {front : List Char} (hf : IsFront front) (hne : front ≠ [])
    {p : Char → Bool} (hp : p '/' = false) : front.dropWhile p ≠ [] := by
  rw [Ne, List.dropWhile_eq_nil_iff]
  intro hall
  simpa [hp] using hall '/' (hf.slash_mem hne)

/-- What is dropped before the first slash is dropped in the front. -/
theorem IsFront.dropWhile_append {front : List Char} (hf : IsFront front) (hne : front ≠ [])
    {p : Char → Bool} (hp : p '/' = false) (t : List Char) :
    (front ++ t).dropWhile p = front.dropWhile p ++ t := by
  rw [List.dropWhile_append, if_neg (by simpa using hf.dropWhile_ne_nil hne hp)]

/-! ## Cleaning -/

/-- Only the front of a reference is cleaned. -/
theorem cleaned_append {t : List Char} (ht : IsTail t) (front : List Char) :
    cleaned (front ++ t) = (front.dropWhile isOuter).filter (!isBreak ·) ++ t := by
  have hdrop := ht.dropWhile_append (fun _ => isOuter_of_isAlphanum) front
  have hkept : t.filter (!isBreak ·) = t :=
    List.filter_eq_self.mpr fun c hc => by simp [ht.isBreak_eq_false c hc]
  have hlast : (front.dropWhile isOuter ++ t).rdropWhile isOuter =
      front.dropWhile isOuter ++ t := by
    rw [List.rdropWhile_eq_self_iff]
    intro hne
    have hmem : (front.dropWhile isOuter ++ t).getLast hne ∈ t := by
      obtain ⟨c, cs, rfl, -⟩ := ht.first
      rw [List.getLast_append_of_ne_nil _ (List.cons_ne_nil c cs)]
      exact List.getLast_mem _
    simp [ht.isOuter_eq_false _ hmem]
  rw [cleaned_eq, hdrop, hlast, List.filter_append, hkept]

/-- Behind a front only the end of a text is trimmed. -/
theorem IsFront.cleaned_append {front : List Char} (hf : IsFront front) (hne : front ≠ [])
    (hfirst : ∀ c ∈ front.head?, isOuter c = false) (hbreak : ∀ c ∈ front, isBreak c = false)
    (cs : List Char) :
    cleaned (front ++ cs) = front ++ (cs.rdropWhile isOuter).filter (!isBreak ·) := by
  have hlast : (front ++ cs).rdropWhile isOuter = front ++ cs.rdropWhile isOuter := by
    induction cs using List.reverseRecOn with
    | nil =>
      obtain ⟨before, rfl⟩ := hf.eq_nil_or_concat.resolve_left hne
      rw [List.rdropWhile_nil, List.append_nil, List.rdropWhile_concat_neg _ _ _ (by decide)]
    | append_singleton cs c ih =>
      rw [← List.append_assoc, List.rdropWhile_concat, List.rdropWhile_concat]
      split_ifs
      · exact ih
      · exact List.append_assoc _ _ _
  have hdrop : (front ++ cs).dropWhile isOuter = front ++ cs := by
    obtain ⟨c, rest, rfl⟩ := List.exists_cons_of_ne_nil hne
    exact List.dropWhile_cons_of_neg (by simpa using hfirst c rfl)
  have hkept : front.filter (!isBreak ·) = front :=
    List.filter_eq_self.mpr fun c hc => by simp [hbreak c hc]
  rw [cleaned_eq, hdrop, hlast, List.filter_append, hkept]

/-! ## Schemes -/

/-- To drop as many as are taken is to drop those that are taken. -/
theorem drop_length_takeWhile (p : Char → Bool) (cs : List Char) :
    cs.drop (cs.takeWhile p).length = cs.dropWhile p := by
  conv_lhs => arg 2; rw [← List.takeWhile_append_dropWhile (p := p) (l := cs)]
  exact List.drop_left

/-- Whether a character may stand in a scheme. -/
def isSchemeChar (c : Char) : Bool := c.isAlphanum || c == '+' || c == '-' || c == '.'

/-- A scheme is a run of its characters that begins with a letter and ends before a colon. -/
theorem cutScheme?_eq (cs : List Char) :
    cutScheme? cs =
      match (cs.takeWhile isSchemeChar).head?, cs.dropWhile isSchemeChar with
      | some first, ':' :: rest =>
        if first.isAlpha then some ((cs.takeWhile isSchemeChar).map Char.toLower, rest) else none
      | _, _ => none := by
  rw [← drop_length_takeWhile]
  rfl

/-- No scheme leads a text whose first slash comes before its first colon. -/
theorem cutScheme?_eq_none {cs : List Char} (h : ':' ∉ cs.takeWhile (· != '/')) :
    cutScheme? cs = none := by
  rw [cutScheme?_eq]
  split
  · rename_i first rest _ hrest
    refine absurd ?_ h
    have hscheme : ∀ c ∈ cs.takeWhile isSchemeChar, (c != '/') = true := by
      intro c hc
      have hkind : isSchemeChar c = true := List.mem_takeWhile_imp hc
      rw [bne_iff_ne]
      rintro rfl
      exact absurd hkind (by decide)
    rw [← List.takeWhile_append_dropWhile (p := isSchemeChar) (l := cs), hrest,
      List.takeWhile_append_of_pos hscheme]
    simp
  · rfl

/-- The scheme of a reference stands in its front. -/
theorem cutScheme?_append {front t : List Char} (hf : IsFront front) (ht : IsTail t) :
    cutScheme? (front ++ t) = (cutScheme? front).map fun x => (x.1, x.2 ++ t) := by
  by_cases hne : front = []
  · subst hne
    refine cutScheme?_eq_none fun hmem => ?_
    exact ht.not_mem rfl (by decide) ((List.takeWhile_prefix _).subset hmem)
  · rw [cutScheme?_eq, cutScheme?_eq, hf.takeWhile_append hne rfl, hf.dropWhile_append hne rfl]
    -- The slash that ends the front comes after the scheme.
    obtain ⟨c, cs, hcons⟩ := List.exists_cons_of_ne_nil
      (hf.dropWhile_ne_nil (p := isSchemeChar) hne rfl)
    rw [hcons, List.cons_append]
    by_cases hc : c = ':'
    · subst hc
      cases (front.takeWhile isSchemeChar).head? with
      | none => rfl
      | some first => by_cases hfirst : first.isAlpha = true <;> simp [hfirst]
    · cases (front.takeWhile isSchemeChar).head? <;> simp [hc]

/-- What follows a scheme that stands in a front is a front again. -/
theorem IsFront.of_cutScheme? {front scheme rest : List Char} (hf : IsFront front)
    (h : cutScheme? front = some (scheme, rest)) : IsFront rest := by
  refine hf.suffix ?_
  rw [cutScheme?_eq] at h
  split at h
  · rename_i first rest' _ hrest
    by_cases hfirst : first.isAlpha = true
    · rw [if_pos hfirst, Option.some.injEq, Prod.mk.injEq] at h
      obtain ⟨-, rfl⟩ := h
      exact (List.suffix_cons ':' rest').trans (hrest ▸ List.dropWhile_suffix _)
    · simp [hfirst] at h
  · exact absurd h (by simp)

/-! ## Queries and fragments -/

private theorem bne_of_not_mem {sign : Char} {cs : List Char} (h : sign ∉ cs) :
    ∀ c ∈ cs, (c != sign) = true := by
  intro c hc
  rw [bne_iff_ne]
  rintro rfl
  exact h hc

/-- A text without the sign is not cut. -/
theorem cutAt_of_not_mem {sign : Char} {cs : List Char} (h : sign ∉ cs) :
    cutAt sign cs = (cs, none) := by
  have hnil : cs.dropWhile (· != sign) = [] := List.dropWhile_eq_nil_iff.mpr (bne_of_not_mem h)
  simp [cutAt, hnil]

/-- A text is cut after a front that does not hold the sign. -/
theorem cutAt_append_of_not_mem {sign : Char} {front : List Char} (h : sign ∉ front)
    (cs : List Char) :
    cutAt sign (front ++ cs) = (front ++ (cutAt sign cs).1, (cutAt sign cs).2) := by
  have hfront := bne_of_not_mem h
  rw [cutAt, cutAt, List.dropWhile_append_of_pos hfront, List.takeWhile_append_of_pos hfront]
  cases cs.dropWhile (· != sign) <;> rfl

/-- A text is cut in a front that holds the sign, whatever comes after it. -/
theorem cutAt_append_of_mem {sign : Char} {front : List Char} (h : sign ∈ front) :
    ∃ main rest, ∀ t, cutAt sign (front ++ t) = (main, some (rest ++ t)) := by
  obtain ⟨before, after, rfl, hbefore⟩ := List.eq_append_cons_of_mem h
  refine ⟨before, after, fun t => ?_⟩
  rw [List.append_assoc, cutAt_append_of_not_mem hbefore]
  simp [cutAt]

/-- Something follows the cut if and only if the text holds the sign. -/
theorem cutAt_snd_eq_none_iff {sign : Char} {cs : List Char} :
    (cutAt sign cs).2 = none ↔ sign ∉ cs := by
  constructor
  · intro hnone hmem
    obtain ⟨main, rest, hcut⟩ := cutAt_append_of_mem hmem
    have hcs := hcut []
    rw [List.append_nil] at hcs
    simp [hcs] at hnone
  · intro h
    rw [cutAt_of_not_mem h]

/-- A front without signs is in front of what is not query or fragment. -/
theorem Cut.of_append {front : List Char} (hquery : '?' ∉ front) (hfragment : '#' ∉ front)
    (cs : List Char) :
    Cut.of (front ++ cs) = { Cut.of cs with main := front ++ (Cut.of cs).main } := by
  simp [Cut.of, cutAt_append_of_not_mem hfragment, cutAt_append_of_not_mem hquery]

/-- A text without the two signs has neither a query nor a fragment. -/
theorem Cut.of_of_not_mem {cs : List Char} (hquery : '?' ∉ cs) (hfragment : '#' ∉ cs) :
    Cut.of cs = ⟨cs, none, none⟩ := by
  simp [Cut.of, cutAt_of_not_mem hfragment, cutAt_of_not_mem hquery]

/-- A tail has neither a query nor a fragment. -/
theorem IsTail.cutOf {t : List Char} (ht : IsTail t) : Cut.of t = ⟨t, none, none⟩ :=
  Cut.of_of_not_mem (ht.not_mem rfl (by decide)) (ht.not_mem rfl (by decide))

/-- A text without signs is all main part, and only such a text is. -/
theorem Cut.of_eq_iff {cs : List Char} :
    (Cut.of cs).query = none ∧ (Cut.of cs).fragment = none ↔ '?' ∉ cs ∧ '#' ∉ cs := by
  constructor
  · rintro ⟨hquery, hfragment⟩
    have hno : '#' ∉ cs := cutAt_snd_eq_none_iff.mp hfragment
    rw [Cut.of, cutAt_of_not_mem hno] at hquery
    exact ⟨cutAt_snd_eq_none_iff.mp hquery, hno⟩
  · rintro ⟨hquery, hfragment⟩
    simp [Cut.of_of_not_mem hquery hfragment]

/-- The tail is part of what is neither query nor fragment, or it comes after that. -/
theorem Cut.of_append_tail (front : List Char) :
    (∀ t, IsTail t → Cut.of (front ++ t) = ⟨front ++ t, none, none⟩) ∨
      ∃ main, ∀ t, (Cut.of (front ++ t)).main = main ∧ (Cut.of (front ++ t)).continues = true := by
  by_cases hfragment : '#' ∈ front
  · obtain ⟨main, rest, hcut⟩ := cutAt_append_of_mem hfragment
    exact .inr ⟨(cutAt '?' main).1, fun t => by simp [Cut.of, Cut.continues, hcut]⟩
  by_cases hquery : '?' ∈ front
  · obtain ⟨main, rest, hcut⟩ := cutAt_append_of_mem hquery
    refine .inr ⟨main, fun t => ?_⟩
    simp [Cut.of, Cut.continues, cutAt_append_of_not_mem hfragment, hcut]
  · left
    intro t ht
    rw [Cut.of_append hquery hfragment, ht.cutOf]

end ArchiveDesk.Url
