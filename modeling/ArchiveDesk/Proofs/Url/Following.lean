import ArchiveDesk.Proofs.Url.Cutting

/-!
# Following the segments of a reference

The segments of a front are walked first; what the tail then adds to the path does not depend
on where the walk has led.
-/

namespace ArchiveDesk.Url

variable {k : SchemeClass}

/-! ## Segments that are kept -/

/-- A segment that is added to the path: it is no dot and no double dot. -/
structure IsName (segment : List Char) : Prop where
  not_dot : isDot segment = false
  not_doubleDot : isDoubleDot segment = false

instance (segment : List Char) : Decidable (IsName segment) :=
  decidable_of_iff (isDot segment = false ∧ isDoubleDot segment = false)
    ⟨fun ⟨hdot, hdoubleDot⟩ => ⟨hdot, hdoubleDot⟩, fun h => ⟨h.not_dot, h.not_doubleDot⟩⟩

private theorem eq_of_toLower_eq {c d : Char} (hd : d.toNat < 0x41) (h : c.toLower = d) :
    c = d := by
  unfold Char.toLower at h
  split at h
  · rename_i hupper
    subst h
    obtain ⟨hlow, hhigh⟩ := hupper
    change 0x41 ≤ c.toNat at hlow
    change c.toNat ≤ 0x5A at hhigh
    change (c.val + 0x20).toNat < 0x41 at hd
    simp only [UInt32.toNat_add, UInt32.reduceToNat, Char.toNat_val] at hd
    omega
  · exact h

/-- A segment without dots and percent signs is a name. -/
theorem isName_of_not_mem {segment : List Char} (hdot : '.' ∉ segment) (hpercent : '%' ∉ segment) :
    IsName segment := by
  have hlower : ∀ d ∈ ['.', '%'], d ∉ segment.map Char.toLower := by
    intro d hd hmem
    obtain ⟨c, hc, hlow⟩ := List.mem_map.mp hmem
    have hlt : d.toNat < 0x41 := by
      rcases List.mem_pair.mp hd with rfl | rfl <;> decide
    obtain rfl := eq_of_toLower_eq hlt hlow
    rcases List.mem_pair.mp hd with rfl | rfl
    · exact hdot hc
    · exact hpercent hc
  have hne {text : List Char} (h : '.' ∈ text ∨ '%' ∈ text) : segment.map Char.toLower ≠ text := by
    rintro rfl
    exact h.elim (hlower _ (by simp)) (hlower _ (by simp))
  constructor
  · simp only [isDot, Bool.or_eq_false_iff, beq_eq_false_iff_ne]
    refine ⟨?_, hne (by simp)⟩
    rintro rfl
    exact hdot (by simp)
  · simp only [isDoubleDot, Bool.or_eq_false_iff, beq_eq_false_iff_ne]
    exact ⟨⟨⟨hne (by simp), hne (by simp)⟩, hne (by simp)⟩, hne (by simp)⟩

/-- A text without a colon or bar names no drive. -/
theorem isDrive_of_not_mem {segment : List Char} (hcolon : ':' ∉ segment) (hbar : '|' ∉ segment) :
    isDrive segment = false := by
  unfold isDrive
  split
  · rename_i letter mark
    have hmark : mark ≠ ':' ∧ mark ≠ '|' := by
      constructor <;> rintro rfl <;> simp at hcolon hbar
    simp [hmark]
  · rfl

/-- A segment that names no drive is kept as it is encoded. -/
theorem keptSegment_of_not_isDrive {segment : List Char} (h : isDrive segment = false)
    (path : List (List Char)) : keptSegment k path segment = encode .path segment := by
  unfold keptSegment
  split
  · rw [if_neg (by simp [h])]
  · rfl

/-- Under any scheme but that of files every segment is kept as it is encoded. -/
theorem keptSegment_of_ne_file (hk : k ≠ .file) (path : List (List Char)) (segment : List Char) :
    keptSegment k path segment = encode .path segment := by
  unfold keptSegment
  split
  · exact absurd rfl hk
  · rfl

/-! ## Walking -/

/-- Where a segment leads that is not the last one. -/
def pass (k : SchemeClass) (path : List (List Char)) (segment : List Char) : List (List Char) :=
  if isDoubleDot segment then goUp path
  else if isDot segment then path
  else path ++ [keptSegment k path segment]

/-- Where segments lead that others come after. -/
def walk (k : SchemeClass) (path segments : List (List Char)) : List (List Char) :=
  segments.foldl (pass k) path

/-- Segments that others come after are walked, and the others are followed. -/
theorem follow_append (path segments : List (List Char)) {rest : List (List Char)}
    (hrest : rest ≠ []) :
    follow k path (segments ++ rest) = follow k (walk k path segments) rest := by
  induction segments generalizing path with
  | nil => rfl
  | cons segment segments ih =>
    obtain ⟨next, later, hcons⟩ := List.exists_cons_of_ne_nil
      (List.append_ne_nil_of_right_ne_nil segments hrest)
    rw [List.cons_append, walk, List.foldl_cons, ← walk, ← ih, hcons]
    simp only [follow, pass]
    split_ifs <;> rfl

/-- The last segment leaves a segment behind, whatever it is. -/
theorem follow_concat (path earlier : List (List Char)) (last : List Char) :
    follow k path (earlier ++ [last]) =
      if isDoubleDot last then goUp (walk k path earlier) ++ [[]]
      else if isDot last then walk k path earlier ++ [[]]
      else walk k path earlier ++ [keptSegment k (walk k path earlier) last] := by
  rw [follow_append _ _ (List.cons_ne_nil last [])]
  rfl

/-- Segments lead to an entry of the directory that they are followed from if the last one is
its name and the others lead back to the directory. -/
theorem follow_eq_concat_iff (hk : k ≠ .file) {directory earlier : List (List Char)}
    {last segment : List Char} (hne : segment ≠ []) :
    follow k directory (earlier ++ [last]) = directory ++ [segment] ↔
      walk k directory earlier = directory ∧ IsName last ∧ encode .path last = segment := by
  have hname : IsName last ↔ isDot last = false ∧ isDoubleDot last = false :=
    ⟨fun h => ⟨h.not_dot, h.not_doubleDot⟩, fun h => ⟨h.1, h.2⟩⟩
  rw [follow_concat, keptSegment_of_ne_file hk, hname]
  split_ifs with hdoubleDot hdot <;> simp [*]

/-- Names are added to the path. -/
theorem walk_names {segments : List (List Char)}
    (h : ∀ segment ∈ segments, IsName segment ∧ isDrive segment = false)
    (path : List (List Char)) : walk k path segments = path ++ segments.map (encode .path) := by
  induction segments generalizing path with
  | nil => simp [walk]
  | cons segment segments ih =>
    obtain ⟨hname, hdrive⟩ := h segment (by simp)
    have hpass : pass k path segment = path ++ [encode .path segment] := by
      simp [pass, hname.not_dot, hname.not_doubleDot, keptSegment_of_not_isDrive hdrive]
    rw [walk, List.foldl_cons, ← walk, hpass, ih fun s hs => h s (by simp [hs])]
    simp

/-- Names are added to the path as they are encoded. -/
theorem follow_names {segments : List (List Char)}
    (h : ∀ segment ∈ segments, IsName segment ∧ isDrive segment = false)
    (path : List (List Char)) : follow k path segments = path ++ segments.map (encode .path) := by
  rcases List.eq_nil_or_concat' segments with rfl | ⟨front, last, rfl⟩
  · simp [follow]
  · obtain ⟨hname, hdrive⟩ := h last (by simp)
    rw [follow_concat, walk_names fun s hs => h s (by simp [hs]),
      keptSegment_of_not_isDrive hdrive]
    simp [hname.not_dot, hname.not_doubleDot]

/-! ## Tails -/

/-- Only slashes cut a tail, since it has no backslashes. -/
theorem IsTail.isSlash_iff {t : List Char} (ht : IsTail t) {c : Char} (hc : c ∈ t) :
    k.isSlash c = true ↔ c = '/' := by
  have hbackslash : c ≠ '\\' := by
    rintro rfl
    exact ht.not_mem rfl (by decide) hc
  simp [SchemeClass.isSlash, hbackslash]

/-- The segments of a tail are names that are kept as they are. -/
theorem IsTail.segment {t segment : List Char} (ht : IsTail t)
    (hmem : segment ∈ Text.pieces k.isSlash t) :
    (IsName segment ∧ isDrive segment = false) ∧ encode .path segment = segment := by
  have halnum : ∀ c ∈ segment, c.isAlphanum = true := by
    intro c hc
    obtain ⟨hct, hslash⟩ := Text.mem_of_mem_pieces hmem hc
    refine (ht.plain c hct).resolve_right ?_
    rintro rfl
    simp [SchemeClass.isSlash] at hslash
  have hnot {d : Char} (hd : d.isAlphanum = false) : d ∉ segment := fun h =>
    ne_of_isAlphanum (halnum d h) hd rfl
  refine ⟨⟨isName_of_not_mem (hnot rfl) (hnot rfl), isDrive_of_not_mem (hnot rfl) (hnot rfl)⟩,
    encode_eq_self fun c hc => ?_⟩
  have hbounds := isAlphanum_bounds (halnum c hc)
  have hne {d : Char} (hd : d.isAlphanum = false) : c ≠ d := ne_of_isAlphanum (halnum c hc) hd
  simp only [EncodeSet.path, EncodeSet.fragment, EncodeSet.control, Bool.or_eq_false_iff,
    beq_eq_false_iff_ne, decide_eq_false_iff_not]
  and_intros <;> first | omega | exact hne rfl

/-- A tail is not changed by the encoding. -/
theorem IsTail.encode_control {t : List Char} (ht : IsTail t) : encode .control t = t := by
  refine encode_eq_self fun c hc => ?_
  rcases ht.plain c hc with halnum | rfl
  · have hbounds := isAlphanum_bounds halnum
    simp only [EncodeSet.control, Bool.or_eq_false_iff, decide_eq_false_iff_not]
    omega
  · rfl

/-- Whether a drive leads a text is decided in its front. -/
theorem startsWithDrive_append {front t : List Char} (hf : IsFront front) (ht : IsTail t) :
    startsWithDrive (front ++ t) = startsWithDrive front := by
  by_cases hne : front = []
  · subst hne
    have hdrive : isDrive (t.takeWhile (!isAnySlash ·)) = false := by
      have hnot {d : Char} (hd : d.isAlphanum = false) (hslash : d ≠ '/') :
          d ∉ t.takeWhile (!isAnySlash ·) := fun hmem =>
        ht.not_mem hd hslash ((List.takeWhile_prefix _).subset hmem)
      exact isDrive_of_not_mem (hnot rfl (by decide)) (hnot rfl (by decide))
    exact hdrive
  · rw [startsWithDrive, hf.takeWhile_append (p := fun c => !isAnySlash c) hne rfl]
    rfl

/-- Empty segments are dropped in front of the first that is not empty. -/
theorem withoutEmptyFront_append (front : List (List Char)) {segment : List Char}
    (hne : segment ≠ []) (rest : List (List Char)) :
    withoutEmptyFront (front ++ segment :: rest) =
      front.dropWhile (·.isEmpty) ++ segment :: rest := by
  obtain ⟨c, cs, rfl⟩ := List.exists_cons_of_ne_nil hne
  induction front with
  | nil => cases rest <;> rfl
  | cons s front ih =>
    obtain ⟨next, later, hcons⟩ := List.exists_cons_of_ne_nil
      (List.append_ne_nil_of_right_ne_nil front (List.cons_ne_nil (c :: cs) rest))
    cases s with
    | nil =>
      rw [List.cons_append, hcons]
      simpa [withoutEmptyFront, hcons] using ih
    | cons d ds =>
      rw [List.cons_append, hcons, withoutEmptyFront, List.dropWhile_cons_of_neg (by simp),
        List.cons_append, hcons] <;> simp

/-- The segments of a front are closed by its last slash. -/
theorem IsFront.pieces_append {front : List Char} (hf : IsFront front) (cs : List Char) :
    Text.pieces k.isSlash (front ++ cs) =
      (Text.pieces k.isSlash front).dropLast ++ Text.pieces k.isSlash cs := by
  have hslash : k.isSlash '/' = true := by simp [SchemeClass.isSlash]
  rcases hf.eq_nil_or_concat with rfl | ⟨before, rfl⟩
  · rfl
  · rw [List.append_assoc, List.singleton_append, Text.pieces_append hslash,
      Text.pieces_append hslash]
    simp [Text.pieces]

/-- The path that a front leaves for the tail to be added to. -/
def trail (k : SchemeClass) (path : List (List Char)) (front : List Char) : List (List Char) :=
  let reached := walk k path (Text.pieces k.isSlash front).dropLast
  if k = .file then reached.dropWhile (·.isEmpty) else reached

/-- The segments of a tail are added to the path that the front leads to. -/
theorem followText_append {front t : List Char} (hf : IsFront front) (ht : IsTail t)
    (path : List (List Char)) :
    followText k path (front ++ t) = trail k path front ++ Text.pieces k.isSlash t := by
  have hkept : (Text.pieces k.isSlash t).map (encode .path) = Text.pieces k.isSlash t :=
    (List.map_congr_left fun segment hs => (ht.segment hs).2).trans (List.map_id _)
  have hfollow : follow k path (Text.pieces k.isSlash (front ++ t)) =
      walk k path (Text.pieces k.isSlash front).dropLast ++ Text.pieces k.isSlash t := by
    rw [hf.pieces_append, follow_append _ _ (Text.pieces_ne_nil _ _),
      follow_names (fun segment hs => (ht.segment hs).1), hkept]
  rw [followText, hfollow, trail]
  split_ifs
  · obtain ⟨c, cs, rfl, hc⟩ := ht.first
    have hcut : k.isSlash c = false := by
      rw [← Bool.not_eq_true, ht.isSlash_iff (by simp)]
      exact ne_of_isAlphanum hc rfl
    obtain ⟨p, ps, hcons⟩ := Text.exists_pieces_cons hcut cs
    rw [hcons, withoutEmptyFront_append _ (List.cons_ne_nil c p)]
  · rfl

/-- The path that a front leaves has the tail after it, with a slash between them. -/
theorem chars_followText_append {front t : List Char} (hf : IsFront front) (ht : IsTail t)
    (path : List (List Char)) :
    (Path.segments (followText k path (front ++ t))).chars =
      (Path.segments (trail k path front)).chars ++ '/' :: t := by
  rw [followText_append hf ht, Path.chars, Path.chars, List.flatMap_append, Text.flatMap_pieces]
  exact fun c hc hcut => (ht.isSlash_iff hc).mp hcut

end ArchiveDesk.Url
