import ArchiveDesk.Proofs.Url.Below

/-!
# Relative references

A reference without a scheme and without a leading slash is followed from the directory of its
base.
-/

namespace ArchiveDesk.Url

/-! ## Directories -/

/-- The directory of a URL has the same scheme. -/
@[simp] theorem asDirectory_schemeClass (base : Url) :
    base.asDirectory.schemeClass = base.schemeClass := by
  unfold asDirectory
  split
  · rfl
  · split_ifs <;> rfl

/-- A directory is the path before its last slash. -/
theorem exists_asDirectory {base : Url} (hbase : base.isFlat = false) :
    ∃ directory, base.asDirectory.path = .segments (directory ++ [[]]) ∧
      base.asDirectory.parentSegments = directory := by
  have hdirectory {u : Url} {directory : List (List Char)}
      (hpath : u.path = .segments (directory ++ [[]])) : u.parentSegments = directory := by
    simp [parentSegments, pathSegments, hpath, isPlainDrive, isDrive]
  cases hpath : base.path with
  | flat text => simp [isFlat, hpath] at hbase
  | segments list =>
    by_cases hlast : list.getLast? = some []
    · obtain ⟨directory, rfl⟩ := List.getLast?_eq_some_iff.mp hlast
      have hself : base.asDirectory = base := by simp [asDirectory, hpath]
      rw [hself]
      exact ⟨directory, hpath, hdirectory hpath⟩
    · have hclosed : base.asDirectory.path = .segments (list ++ [[]]) := by
        simp [asDirectory, hpath, hlast]
      exact ⟨list, hclosed, hdirectory hclosed⟩

/-- The directory of a URL with segments has segments. -/
theorem isFlat_asDirectory {base : Url} (hbase : base.isFlat = false) :
    base.asDirectory.isFlat = false := by
  obtain ⟨directory, hpath, -⟩ := exists_asDirectory hbase
  simp [isFlat, hpath]

/-- A reference that is not absolute is followed from the directory of the base. -/
theorem join_of_relative {base : Url} (hbase : base.isFlat = false) {reference : String}
    {cs : List Char} (hcleaned : cleaned reference.toList = cs) (hscheme : cutScheme? cs = none)
    {c : Char} {rest : List Char} (hmain : (Cut.of cs).main = c :: rest)
    (hc : isAnySlash c = false)
    (hdrive : base.schemeClass = .file → startsWithDrive (Cut.of cs).main = false) :
    base.join reference = .ok (base.withPath
      (followText base.schemeClass base.parentSegments (Cut.of cs).main) (Cut.of cs)) := by
  rw [join, read]
  simp only [hcleaned, hscheme, hbase, Bool.false_eq_true, if_false]
  split_ifs with hfile
  · rw [readFile_of_not_isAnySlash hmain hc]
    simp [hdrive hfile, hfile]
  · rw [readRelative_of_not_isAnySlash hmain hc]

/-! ## Paths of files -/

/-- A path of a file: its first segment is not empty, unless it is the only one. -/
def IsFilePath (path : List (List Char)) : Prop := ∀ next rest, path ≠ [] :: next :: rest

/-- Without the empty segments in front a path is one of a file. -/
theorem isFilePath_withoutEmptyFront (path : List (List Char)) :
    IsFilePath (withoutEmptyFront path) := by
  fun_induction withoutEmptyFront path with
  | case1 => simp [IsFilePath]
  | case2 segment => simp [IsFilePath]
  | case3 rest _ ih => exact ih
  | case4 path _ _ hfront =>
    rintro next rest rfl
    exact hfront _ rfl

/-- Following a text in the scheme of files leads to the path of a file. -/
theorem isFilePath_followText (path : List (List Char)) (cs : List Char) :
    IsFilePath (followText .file path cs) := by
  rw [followText, if_pos rfl]
  exact isFilePath_withoutEmptyFront _

/-- A file on a host has the path of a file. -/
theorem isFilePath_of_readFileHost {cut : Cut} {u : Url} (h : readFileHost cut = .ok u) :
    IsFilePath u.pathSegments := by
  unfold readFileHost at h
  simp only [pure, Except.pure] at h
  split_ifs at h
  · cases h
    exact isFilePath_followText _ _
  · cases h
    exact isFilePath_followText _ _
  · cases hdomain : Host.parseDomain (cut.main.takeWhile (!isAnySlash ·)) with
    | error fault => simp [hdomain, bind, Except.bind] at h
    | ok host =>
      simp only [hdomain, bind, Except.bind] at h
      split_ifs at h <;> cases h <;> exact isFilePath_followText _ _

/-- A file has the path of a file. -/
theorem isFilePath_of_readFile {cut : Cut} {u : Url} (h : readFile none cut = .ok u) :
    IsFilePath u.pathSegments := by
  cases hmain : cut.main with
  | nil =>
    obtain rfl : fileUrl .empty [[]] cut = u := by simpa [readFile, hmain] using h
    simp [IsFilePath, pathSegments, fileUrl]
  | cons c rest =>
    by_cases hc : isAnySlash c = true
    · by_cases hrest : rest.head?.any isAnySlash = true
      · cases rest with
        | nil => simp at hrest
        | cons d rest =>
          rw [readFile_of_slashes hmain hc (by simpa using hrest)] at h
          exact isFilePath_of_readFileHost h
      · rw [readFile_of_slash hmain hc (by simpa using hrest)] at h
        cases h
        unfold readFile.absolute
        split_ifs <;> exact isFilePath_followText _ _
    · rw [readFile_of_not_isAnySlash hmain (by simpa using hc)] at h
      cases h
      exact isFilePath_followText _ _

/-- A URL with an authority keeps its scheme. -/
theorem scheme_of_readAuthority {scheme : List Char} {cut : Cut} {u : Url}
    (h : readAuthority scheme cut = .ok u) : u.scheme = scheme := by
  unfold readAuthority at h
  simp only [bind, Except.bind, pure, Except.pure] at h
  split at h
  · contradiction
  · cases h
    rfl

/-- A URL of a scheme that is not special keeps its scheme. -/
theorem scheme_of_readOther {scheme : List Char} {cut : Cut} {u : Url}
    (h : readOther scheme cut = .ok u) : u.scheme = scheme := by
  unfold readOther at h
  split at h
  · exact scheme_of_readAuthority h
  · cases h
    rfl
  · cases h
    rfl

/-- A file on a host has the scheme of files. -/
theorem scheme_of_readFileHost {cut : Cut} {u : Url} (h : readFileHost cut = .ok u) :
    u.scheme = "file".toList := by
  have hplace : (readFileHost cut).map place = .ok u.place := congrArg (Except.map place) h
  rw [map_place_readFileHost] at hplace
  dsimp only at hplace
  split_ifs at hplace
  · exact (congrArg Place.scheme (Except.ok.inj hplace)).symm
  · exact (congrArg Place.scheme (Except.ok.inj hplace)).symm
  · cases hdomain : Host.parseDomain (cut.main.takeWhile (!isAnySlash ·)) with
    | error fault =>
      rw [hdomain] at hplace
      contradiction
    | ok host =>
      rw [hdomain] at hplace
      exact (congrArg Place.scheme (Except.ok.inj hplace)).symm

/-- A file has the scheme of files. -/
theorem scheme_of_readFile {cut : Cut} {u : Url} (h : readFile none cut = .ok u) :
    u.scheme = "file".toList := by
  cases hmain : cut.main with
  | nil =>
    obtain rfl : fileUrl .empty [[]] cut = u := by simpa [readFile, hmain] using h
    rfl
  | cons c rest =>
    by_cases hc : isAnySlash c = true
    · by_cases hrest : rest.head?.any isAnySlash = true
      · cases rest with
        | nil => simp at hrest
        | cons d rest =>
          rw [readFile_of_slashes hmain hc (by simpa using hrest)] at h
          exact scheme_of_readFileHost h
      · rw [readFile_of_slash hmain hc (by simpa using hrest)] at h
        cases h
        unfold readFile.absolute
        split_ifs <;> rfl
    · rw [readFile_of_not_isAnySlash hmain (by simpa using hc)] at h
      cases h
      rfl

/-- The URL of a file has the path of a file. -/
theorem isFilePath_of_parse {text : String} {u : Url} (h : parse text = .ok u)
    (hfile : u.schemeClass = .file) : IsFilePath u.pathSegments := by
  rw [parse, read] at h
  cases hscheme : cutScheme? (cleaned text.toList) with
  | none => simp [hscheme] at h
  | some x =>
    obtain ⟨scheme, rest⟩ := x
    simp only [hscheme, readAfterScheme, Option.filter_none] at h
    cases hk : SchemeClass.of scheme with
    | file => exact isFilePath_of_readFile (by simpa [hk] using h)
    | network port =>
      rw [schemeClass, scheme_of_readAuthority (by simpa [hk] using h), hk] at hfile
      contradiction
    | other =>
      rw [schemeClass, scheme_of_readOther (by simpa [hk] using h), hk] at hfile
      contradiction

/-- The directory of a file has the path of a file. -/
theorem IsFilePath.asDirectory {base : Url} (h : IsFilePath base.pathSegments) :
    IsFilePath base.asDirectory.pathSegments := by
  cases hpath : base.path with
  | flat text => simpa [Url.asDirectory, hpath] using h
  | segments list =>
    rw [pathSegments, hpath] at h
    by_cases hlast : list.getLast? = some []
    · simpa [Url.asDirectory, pathSegments, hpath, hlast] using h
    · intro next rest heq
      simp only [Url.asDirectory, pathSegments, hpath, if_neg hlast] at heq
      cases list with
      | nil => simp at heq
      | cons first later =>
        cases later with
        | nil => simp_all
        | cons second later =>
          obtain ⟨rfl, -⟩ := List.cons.inj heq
          exact h second later rfl

/-! ## Plain fronts -/

/-- A text that is no more than the names of directories: it has no sign that a reference is cut
at, and no segment stands for a place that is there already. -/
structure IsPlain (cs : List Char) : Prop where
  signs : ∀ c ∈ cs, ' ' < c ∧ c ∉ [':', '\\', '?', '#', '|']
  names : ∀ segment ∈ Text.pieces (· == '/') cs, IsName segment

instance (cs : List Char) : Decidable (IsPlain cs) :=
  decidable_of_iff
    (cs.all (fun c => decide (' ' < c ∧ c ∉ [':', '\\', '?', '#', '|'])) = true ∧
      (Text.pieces (· == '/') cs).all (fun segment => decide (IsName segment)) = true) <| by
      simp only [List.all_eq_true, decide_eq_true_eq]
      exact ⟨fun ⟨hsigns, hnames⟩ => ⟨hsigns, hnames⟩, fun h => ⟨h.signs, h.names⟩⟩

private theorem slash_prefix_chars (segments : List (List Char)) (t : List Char) :
    ['/'] <+: (Path.segments segments).chars ++ '/' :: t := by
  cases segments <;> simp [Path.chars]

/-- A plain text has none of the signs that a reference is cut at. -/
theorem IsPlain.not_mem {cs : List Char} (h : IsPlain cs) {sign : Char}
    (hsign : sign ∈ [':', '\\', '?', '#', '|']) : sign ∉ cs := fun hmem =>
  (h.signs sign hmem).2 hsign

/-- A plain text is cut at slashes only. -/
theorem IsPlain.pieces {k : SchemeClass} {cs : List Char} (h : IsPlain cs) :
    Text.pieces k.isSlash cs = Text.pieces (· == '/') cs := by
  refine Text.pieces_congr fun c hc => ?_
  have hbackslash : c ≠ '\\' := by
    rintro rfl
    exact h.not_mem (by simp) hc
  simp [SchemeClass.isSlash, hbackslash]

/-- The segments of a plain front are kept. -/
theorem IsPlain.walk {k : SchemeClass} {front : List Char} (h : IsPlain front)
    (path : List (List Char)) :
    Url.walk k path (Text.pieces k.isSlash front).dropLast =
      path ++ (Text.pieces (· == '/') front).dropLast.map (encode .path) := by
  rw [h.pieces]
  refine walk_names (fun segment hs => ?_) path
  have hmem := List.dropLast_subset _ hs
  have hnot {sign : Char} (hsign : sign ∈ [':', '\\', '?', '#', '|']) : sign ∉ segment :=
    fun hin => h.not_mem hsign (Text.mem_of_mem_pieces hmem hin).1
  exact ⟨h.names segment hmem, isDrive_of_not_mem (hnot (by simp)) (hnot (by simp))⟩

/-- A plain front leads below the directory that it is followed from. -/
theorem IsPlain.prefix_trail {k : SchemeClass} {directory : List (List Char)} {front : List Char}
    (h : IsPlain front) (hfile : k = .file → directory.head? ≠ some []) (t : List Char) :
    (Path.segments (directory ++ [[]])).chars <+:
      (Path.segments (trail k directory front)).chars ++ '/' :: t := by
  have hbelow (more : List (List Char)) : (Path.segments (directory ++ [[]])).chars <+:
      (Path.segments (directory ++ more)).chars ++ '/' :: t := by
    simp only [Path.chars, List.flatMap_append, List.append_assoc]
    exact (List.prefix_append_right_inj _).mpr (slash_prefix_chars more t)
  rw [trail, h.walk]
  split_ifs with hk
  · cases directory with
    | nil => exact slash_prefix_chars _ t
    | cons first directory =>
      have hne : first ≠ [] := by simpa using hfile hk
      have hkept (more : List (List Char)) :
          (first :: directory ++ more).dropWhile (·.isEmpty) = first :: directory ++ more :=
        List.dropWhile_cons_of_neg (by simpa using hne)
      rw [hkept]
      exact hbelow _
  · exact hbelow _

/-- No character of a plain text is dropped at the ends. -/
theorem IsPlain.isOuter_eq_false {cs : List Char} (h : IsPlain cs) :
    ∀ c ∈ cs, isOuter c = false := by
  intro c hc
  have hspace : ' '.toNat < c.toNat := (h.signs c hc).1
  simpa [isOuter] using hspace

/-- No character of a plain text is dropped as a break. -/
theorem IsPlain.isBreak_eq_false {cs : List Char} (h : IsPlain cs) :
    ∀ c ∈ cs, isBreak c = false := by
  intro c hc
  have hne {d : Char} (hd : isOuter d = true) : c ≠ d := by
    rintro rfl
    rw [h.isOuter_eq_false c hc] at hd
    exact Bool.noConfusion hd
  have htab : c ≠ '\t' := hne rfl
  have hfeed : c ≠ '\n' := hne rfl
  have hreturn : c ≠ '\r' := hne rfl
  simp [isBreak, htab, hfeed, hreturn]

/-- Nothing is dropped at the beginning of a plain text. -/
theorem IsPlain.dropWhile_isOuter {cs : List Char} (h : IsPlain cs) :
    cs.dropWhile isOuter = cs := by
  cases cs with
  | nil => rfl
  | cons c rest =>
    exact List.dropWhile_cons_of_neg (by simp [h.isOuter_eq_false c List.mem_cons_self])

/-- A plain text holds no breaks. -/
theorem IsPlain.filter_isBreak {cs : List Char} (h : IsPlain cs) :
    cs.filter (!isBreak ·) = cs :=
  List.filter_eq_self.mpr fun c hc => by simp [h.isBreak_eq_false c hc]

/-- A tail after a plain front is not changed by the cleaning. -/
theorem IsPlain.cleaned_append {front t : List Char} (h : IsPlain front) (ht : IsTail t) :
    cleaned (front ++ t) = front ++ t := by
  rw [Url.cleaned_append ht, h.dropWhile_isOuter, h.filter_isBreak]

/-- A tail after a plain front has neither a query nor a fragment. -/
theorem IsPlain.cutOf_append {front t : List Char} (h : IsPlain front) (ht : IsTail t) :
    Cut.of (front ++ t) = ⟨front ++ t, none, none⟩ := by
  rw [Cut.of_append (h.not_mem (by simp)) (h.not_mem (by simp)), ht.cutOf]

/-- No drive leads a tail after a plain front. -/
theorem IsPlain.startsWithDrive_append {front t : List Char} (h : IsPlain front)
    (hf : IsFront front) (ht : IsTail t) : startsWithDrive (front ++ t) = false := by
  have hnot {sign : Char} (hsign : sign ∈ [':', '\\', '?', '#', '|']) :
      sign ∉ front.takeWhile (!isAnySlash ·) := fun hmem =>
    h.not_mem hsign ((List.takeWhile_prefix _).subset hmem)
  rw [Url.startsWithDrive_append hf ht]
  exact isDrive_of_not_mem (hnot (by simp)) (hnot (by simp))

/-- A tail after a plain front begins with no slash. -/
theorem IsPlain.exists_append_eq_cons {front t : List Char} (h : IsPlain front)
    (hfirst : front.head? ≠ some '/') (ht : IsTail t) :
    ∃ c rest, front ++ t = c :: rest ∧ isAnySlash c = false := by
  cases front with
  | nil =>
    obtain ⟨c, cs, rfl, hc⟩ := ht.first
    exact ⟨c, cs, rfl, isAnySlash_of_isAlphanum hc⟩
  | cons c front =>
    have hslash : c ≠ '/' := by simpa using hfirst
    have hbackslash : c ≠ '\\' := by
      rintro rfl
      exact h.not_mem (by simp) List.mem_cons_self
    exact ⟨c, front ++ t, rfl, by simp [isAnySlash, hslash, hbackslash]⟩

/-- A tail after a plain front is followed from the parent of any URL with segments. -/
theorem IsPlain.join {base : Url} (hbase : base.isFlat = false) {front t : List Char}
    (h : IsPlain front) (hf : IsFront front) (hfirst : front.head? ≠ some '/') (ht : IsTail t) :
    base.join (String.ofList (front ++ t)) = .ok (base.withPath
      (followText base.schemeClass base.parentSegments (front ++ t)) ⟨front ++ t, none, none⟩) := by
  have hscheme : cutScheme? (front ++ t) = none := by
    refine cutScheme?_eq_none fun hcolon => ?_
    rcases List.mem_append.mp ((List.takeWhile_prefix _).subset hcolon) with hfront | htail
    · exact h.not_mem (by simp) hfront
    · exact ht.not_mem rfl (by decide) htail
  obtain ⟨c, rest, hcons, hc⟩ := h.exists_append_eq_cons hfirst ht
  have hread := join_of_relative hbase
    ((congrArg cleaned String.toList_ofList).trans (h.cleaned_append ht)) hscheme
    (by rw [h.cutOf_append ht, hcons]) hc
    fun _ => by rw [h.cutOf_append ht, h.startsWithDrive_append hf ht]
  rwa [h.cutOf_append ht] at hread

/-- Below a plain front everything is below the base. -/
theorem IsPlain.leadsBelow {base : Url} (hbase : base.isFlat = false)
    (hpath : base.schemeClass = .file → IsFilePath base.pathSegments) {front t : List Char}
    (hplain : IsPlain front) (hf : IsFront front) (hfirst : front.head? ≠ some '/')
    (ht : IsTail t) :
    LeadsBelow (base.asDirectory.join (String.ofList (front ++ t))) base.asDirectory.place := by
  obtain ⟨directory, hdirectory, hparent⟩ := exists_asDirectory hbase
  refine ⟨_, hplain.join (isFlat_asDirectory hbase) hf hfirst ht, ⟨rfl, rfl, rfl, ?_⟩⟩
  rw [place_withPath, chars_followText_append hf ht, place, hdirectory, hparent,
    asDirectory_schemeClass]
  refine hplain.prefix_trail (fun hk hhead => ?_) t
  have hfile := (hpath hk).asDirectory
  rw [pathSegments, hdirectory] at hfile
  obtain ⟨more, rfl⟩ := List.head?_eq_some_iff.mp hhead
  obtain ⟨next, later, hnext⟩ := List.exists_cons_of_ne_nil
    (List.append_ne_nil_of_right_ne_nil more (List.cons_ne_nil [] []))
  exact hfile next later (by rw [List.cons_append, hnext])

end ArchiveDesk.Url
