import ArchiveDesk.Proofs.Url.Kept

/-!
# References of names

A name is made of letters, digits, hyphens and underscores. A reference to a path of names adds
them to the directory of its base, and nothing else of the base is changed but for its query and
its fragment.
-/

namespace ArchiveDesk.Url

/-- Whether a character is a letter, a digit, a hyphen or an underscore. -/
def isNameChar (c : Char) : Bool := c.isAlphanum || c == '-' || c == '_'

/-- Characters of names are printable ASCII characters. -/
theorem isNameChar_bounds {c : Char} (hc : isNameChar c = true) :
    0x20 < c.toNat ∧ c.toNat < 0x7F := by
  simp only [isNameChar, Bool.or_eq_true, beq_iff_eq] at hc
  rcases hc with (halnum | rfl) | rfl
  · exact isAlphanum_bounds halnum
  · decide
  · decide

/-- A character of a name is none of the other characters. -/
theorem ne_of_isNameChar {c d : Char} (hc : isNameChar c = true) (hd : isNameChar d = false) :
    c ≠ d := by
  rintro rfl
  rw [hc] at hd
  exact Bool.noConfusion hd

/-- A character of a name is not encoded in a path. -/
theorem path_of_isNameChar {c : Char} (hc : isNameChar c = true) : EncodeSet.path c = false := by
  have hbounds := isNameChar_bounds hc
  have hne {d : Char} (hd : isNameChar d = false) : c ≠ d := ne_of_isNameChar hc hd
  simp only [EncodeSet.path, EncodeSet.fragment, EncodeSet.control, Bool.or_eq_false_iff,
    beq_eq_false_iff_ne, decide_eq_false_iff_not]
  and_intros <;> first | omega | exact hne rfl

/-- A segment of characters of names is kept. -/
theorem isKept_of_isNameChar {segment : List Char} (h : ∀ c ∈ segment, isNameChar c = true) :
    IsKept segment where
  no_slash c hc := by
    have hne {d : Char} (hd : isNameChar d = false) : c ≠ d := ne_of_isNameChar (h c hc) hd
    simp only [isAnySlash, Bool.or_eq_false_iff, beq_eq_false_iff_ne]
    exact ⟨hne rfl, hne rfl⟩
  isName := by
    have hnot {d : Char} (hd : isNameChar d = false) : d ∉ segment := fun hmem =>
      ne_of_isNameChar (h d hmem) hd rfl
    exact isName_of_not_mem (hnot rfl) (hnot rfl)
  encoded := encode_eq_self fun c hc => path_of_isNameChar (h c hc)

/-! ## Paths of names -/

/-- A text that leads on from a directory by names alone. -/
structure IsNamePath (cs : List Char) : Prop where
  first : ∃ c rest, cs = c :: rest ∧ isNameChar c = true
  chars : ∀ c ∈ cs, isNameChar c = true ∨ c = '/'

instance (cs : List Char) : Decidable (IsNamePath cs) :=
  decidable_of_iff
    (cs.head?.any isNameChar = true ∧ cs.all (fun c => isNameChar c || c == '/') = true) <| by
      simp only [List.all_eq_true, Bool.or_eq_true, beq_iff_eq]
      constructor
      · rintro ⟨hfirst, hchars⟩
        obtain ⟨c, hc, hname⟩ := (Option.any_eq_true _ _).mp hfirst
        obtain ⟨rest, rfl⟩ := List.head?_eq_some_iff.mp hc
        exact ⟨⟨c, rest, rfl, hname⟩, hchars⟩
      · rintro ⟨⟨c, rest, rfl, hname⟩, hchars⟩
        exact ⟨hname, hchars⟩

variable {cs : List Char}

/-- A path of names goes on with characters of names and slashes. -/
theorem IsNamePath.append (h : IsNamePath cs) {more : List Char}
    (hmore : ∀ c ∈ more, isNameChar c = true ∨ c = '/') : IsNamePath (cs ++ more) := by
  obtain ⟨c, rest, rfl, hc⟩ := h.first
  exact ⟨⟨c, rest ++ more, rfl, hc⟩,
    fun d hd => (List.mem_append.mp hd).elim (h.chars d) (hmore d)⟩

/-- The segments of a path of names are kept. -/
theorem IsNamePath.isKept (h : IsNamePath cs) :
    ∀ segment ∈ Text.pieces (· == '/') cs, IsKept segment := by
  intro segment hs
  refine isKept_of_isNameChar fun c hc => ?_
  obtain ⟨hmem, hslash⟩ := Text.mem_of_mem_pieces hs hc
  exact (h.chars c hmem).resolve_right (by simpa using hslash)

/-- A path of names is no more than the names of directories. -/
theorem IsNamePath.isPlain (h : IsNamePath cs) : IsPlain cs := by
  refine ⟨fun c hc => ?_, fun segment hs => (h.isKept segment hs).isName⟩
  rcases h.chars c hc with hname | rfl
  · have hne {d : Char} (hd : isNameChar d = false) : c ≠ d := ne_of_isNameChar hname hd
    refine ⟨(isNameChar_bounds hname).1, ?_⟩
    simp only [List.mem_cons, List.not_mem_nil, or_false, not_or]
    and_intros <;> exact hne rfl
  · decide

/-! ## Reading plain references -/

/-- A plain text is not changed by the cleaning. -/
theorem IsPlain.cleaned_eq (h : IsPlain cs) : cleaned cs = cs := by
  have hlast : cs.rdropWhile isOuter = cs := by
    rw [List.rdropWhile_eq_self_iff]
    intro hne
    simp [h.isOuter_eq_false _ (List.getLast_mem hne)]
  rw [Url.cleaned_eq, h.dropWhile_isOuter, hlast, h.filter_isBreak]

/-- A plain reference is followed piece by piece. -/
theorem IsPlain.join_eq {base : Url} (hbase : base.isFlat = false)
    (hfile : base.schemeClass ≠ .file) (h : IsPlain cs) {c : Char} {rest : List Char}
    (hcons : cs = c :: rest) (hc : c ≠ '/') :
    base.join (String.ofList cs) = .ok (base.withPath
      (follow base.schemeClass base.parentSegments (Text.pieces (· == '/') cs))
      ⟨cs, none, none⟩) := by
  have hcut : Cut.of cs = ⟨cs, none, none⟩ :=
    Cut.of_of_not_mem (h.not_mem (by simp)) (h.not_mem (by simp))
  have hscheme : cutScheme? cs = none :=
    cutScheme?_eq_none fun hcolon => h.not_mem (by simp) ((List.takeWhile_prefix _).subset hcolon)
  have hbackslash : c ≠ '\\' := by
    rintro rfl
    exact h.not_mem (by simp) (hcons ▸ List.mem_cons_self)
  have hread := join_of_relative hbase
    ((congrArg cleaned String.toList_ofList).trans h.cleaned_eq) hscheme
    (by rw [hcut, hcons]) (by simp [isAnySlash, hc, hbackslash]) fun hk => absurd hk hfile
  rwa [hcut, followText, if_neg hfile, h.pieces] at hread

/-! ## Addresses beneath a URL -/

/-- A URL and its directory differ in the path alone. -/
theorem asDirectory_withPath (base : Url) (path : List (List Char)) (cut : Cut) :
    base.asDirectory.withPath path cut = base.withPath path cut := by
  unfold asDirectory
  split
  · rfl
  · split_ifs <;> rfl

/-- The URL whose path is that of the base, completed by a slash, and a text. -/
def beneath (base : Url) (cs : List Char) : Url :=
  { base.setPath (completed base.path.chars ++ cs) with query := none, fragment := none }

section

variable {base : Url} {list : List (List Char)} (hpath : base.path = .segments list)
  (hkept : ∀ segment ∈ list, IsKept segment)

include hpath hkept

/-- The path of a directory is made of segments that are kept. -/
theorem isKept_asDirectory : ∀ segment ∈ base.asDirectory.pathSegments, IsKept segment := by
  simp only [asDirectory, pathSegments, hpath]
  split_ifs
  · simpa [hpath] using hkept
  · exact isKept_concat hkept isKept_nil

/-- The reference of a path of names leads beneath its base, and is added to the text of the
base's path. -/
theorem IsNamePath.join_eq {port : ℕ} (hk : base.schemeClass = .network port)
    (h : IsNamePath cs) :
    base.asDirectory.join (String.ofList cs) = .ok (base.beneath cs) ∧
      (base.beneath cs).path.chars = completed base.path.chars ++ cs := by
  have hflat : base.isFlat = false := by simp [isFlat, hpath]
  obtain ⟨directory, hdirectory, hparent⟩ := exists_asDirectory hflat
  have hkeptDirectory : ∀ segment ∈ directory, IsKept segment := by
    have hsegments := isKept_asDirectory hpath hkept
    rw [pathSegments, hdirectory] at hsegments
    exact fun segment hs => hsegments segment (List.mem_append_left _ hs)
  have hkeptPath : ∀ segment ∈ directory ++ Text.pieces (· == '/') cs, IsKept segment := by
    intro segment hs
    rcases List.mem_append.mp hs with hmem | hmem
    · exact hkeptDirectory segment hmem
    · exact h.isKept segment hmem
  have hchars : completed base.path.chars ++ cs =
      (Path.segments (directory ++ Text.pieces (· == '/') cs)).chars := by
    have hpieces : (Text.pieces (· == '/') cs).flatMap ('/' :: ·) = '/' :: cs :=
      Text.flatMap_pieces fun c _ hslash => by simpa using hslash
    rw [← chars_asDirectory hpath hkept, hdirectory]
    simp only [Path.chars, List.flatMap_append, hpieces]
    simp
  have hread : pathAfterAuthority (.network port) (completed base.path.chars ++ cs) =
      directory ++ Text.pieces (· == '/') cs := by
    rw [hchars]
    refine pathAfterAuthority_chars ?_ hkeptPath
    simp [Text.pieces_ne_nil]
  have hfile : base.asDirectory.schemeClass ≠ .file := by simp [hk]
  obtain ⟨c, rest, hcons, hc⟩ := h.first
  constructor
  · rw [h.isPlain.join_eq (isFlat_asDirectory hflat) hfile hcons (ne_of_isNameChar hc (by decide)),
      hparent, follow_of_isKept hfile h.isKept, asDirectory_withPath, beneath, setPath, hk, hread]
    rfl
  · simp only [beneath, setPath, hk, hread]
    exact hchars.symm

end

end ArchiveDesk.Url
