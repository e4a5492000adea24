import ArchiveDesk.Proofs.Settings.Endpoints
import ArchiveDesk.Proofs.Url.Percent

/-!
# The addresses of lifecycles

The id of an entity is what the operator has typed, and the end of a reference. A slash, a
question mark or dots in it mean what they mean in references, so that only some ids name an
entry of the directory of lifecycles, and only by what is left of them.
-/

namespace ArchiveDesk.Settings

open Url (SchemeClass IsName)

/-! ## What an address says -/

/-- The URL is that of one entry of a directory, without a query and a fragment. -/
structure IsEntry (u : Url) (directory : List (List Char)) (segment : List Char) : Prop where
  path : u.path = .segments (directory ++ [segment])
  ne_nil : segment ≠ []
  query : u.query = none
  fragment : u.fragment = none

/-- Where the lifecycles of a kind are: below the path of the server and the initial stem. -/
def lifecycleDirectory (base : Url) (kind : Lifecycle.Kind) : List (List Char) :=
  base.asDirectory.parentSegments ++
    ["ihm-demo".toList, "v1".toList, "api".toList, (kind.segment ++ "lifecycles").toList]

/-! ## What an id says -/

/-- An id as it is read at the end of a reference: without controls and spaces at its end, and
without tabs and line breaks. -/
def readId (id : String) : List Char :=
  (id.toList.rdropWhile Url.isOuter).filter (!Url.isBreak ·)

/-- The text names an entry of the directory: it has no query and no fragment, its last piece is
a name, and the pieces before it lead back to the directory. -/
structure NamesEntry (k : SchemeClass) (directory : List (List Char)) (cs name : List Char) :
    Prop where
  no_query : '?' ∉ cs
  no_fragment : '#' ∉ cs
  pieces : ∃ earlier, Text.pieces k.isSlash cs = earlier ++ [name] ∧
    Url.walk k directory earlier = directory
  isName : IsName name
  ne_nil : name ≠ []

/-- The id has none of the signs that references are made of. -/
structure IsPlainId (id : String) : Prop where
  ne_empty : id ≠ ""
  signs : ∀ c ∈ id.toList, c ∉ ['/', '\\', '?', '#', '%', '\t', '\n', '\r']
  last : ∀ c ∈ id.toList.getLast?, ' ' < c
  isName : IsName id.toList

instance (id : String) : Decidable (IsPlainId id) :=
  decidable_of_iff
    (id ≠ "" ∧
      id.toList.all (fun c => decide (c ∉ ['/', '\\', '?', '#', '%', '\t', '\n', '\r'])) = true ∧
      id.toList.getLast?.all (fun c => decide (' ' < c)) = true ∧ IsName id.toList) <| by
      simp only [List.all_eq_true, Option.all_eq_true, decide_eq_true_eq]
      exact ⟨fun ⟨hne, hsigns, hlast, hname⟩ => ⟨hne, hsigns, hlast, hname⟩,
        fun h => ⟨h.ne_empty, h.signs, h.last, h.isName⟩⟩

/-- A plain id is read as it is. -/
theorem IsPlainId.readId_eq {id : String} (h : IsPlainId id) : readId id = id.toList := by
  have hlast : id.toList.rdropWhile Url.isOuter = id.toList := by
    rw [List.rdropWhile_eq_self_iff]
    intro hne
    have hspace : ' '.toNat < _ := h.last _ (List.getLast?_eq_some_getLast hne)
    simpa [Url.isOuter] using hspace
  rw [readId, hlast, List.filter_eq_self]
  intro c hc
  have hsigns := h.signs c hc
  simp only [List.mem_cons, not_or] at hsigns
  simp [Url.isBreak, hsigns]

/-- A plain id has none of the signs that references are made of. -/
theorem IsPlainId.not_mem {id : String} (h : IsPlainId id) {sign : Char}
    (hsign : sign ∈ ['/', '\\', '?', '#', '%', '\t', '\n', '\r']) : sign ∉ id.toList :=
  fun hmem => h.signs sign hmem hsign

/-- A plain id names an entry of every directory. -/
theorem IsPlainId.namesEntry {id : String} (h : IsPlainId id) (k : SchemeClass)
    (directory : List (List Char)) : NamesEntry k directory (readId id) id.toList := by
  have hslash : ∀ c ∈ id.toList, k.isSlash c = false := by
    intro c hc
    have hne : c ≠ '/' ∧ c ≠ '\\' := by
      constructor <;> rintro rfl <;> exact h.not_mem (by simp) hc
    simp [SchemeClass.isSlash, hne]
  rw [h.readId_eq]
  exact
    { no_query := h.not_mem (by simp)
      no_fragment := h.not_mem (by simp)
      pieces := ⟨[], Text.pieces_eq_singleton hslash, rfl⟩
      isName := h.isName
      ne_nil := by simpa using h.ne_empty }

/-! ## From the id to the address -/

/-- The reference without the id. -/
def lifecycleFront (kind : Lifecycle.Kind) : List Char :=
  "ihm-demo/v1/api/".toList ++ (kind.segment ++ "lifecycles/").toList

/-- The reference without the id ends in a slash. -/
theorem isFront_lifecycleFront (kind : Lifecycle.Kind) : Url.IsFront (lifecycleFront kind) := by
  cases kind <;> decide

/-- The reference without the id is no more than the names of directories. -/
theorem isPlain_lifecycleFront (kind : Lifecycle.Kind) : Url.IsPlain (lifecycleFront kind) := by
  cases kind <;> decide

/-- The cleaning of a reference changes nothing before the id. -/
theorem cleaned_lifecycleFront (kind : Lifecycle.Kind) (id : String) :
    Url.cleaned (lifecycleFront kind ++ id.toList) = lifecycleFront kind ++ readId id := by
  have hplain := isPlain_lifecycleFront kind
  refine (isFront_lifecycleFront kind).cleaned_append ?_
    (fun c hc => hplain.isOuter_eq_false c (List.mem_of_mem_head? hc)) hplain.isBreak_eq_false _
  cases kind <;> decide

/-- Under the initial stem the reference of a lifecycle ends in the id as it was typed. -/
theorem relativePath_lifecycle {s : Settings} (hinitial : s.apiPrefix = initial.apiPrefix)
    (kind : Lifecycle.Kind) (id : String) :
    s.relativePath (kind.segment ++ "lifecycles/" ++ id) =
      String.ofList (lifecycleFront kind ++ id.toList) := by
  have hfront : s.front = "ihm-demo/v1/api/".toList := by
    rw [front, stem, hinitial]
    decide
  have hdrop : ((kind.segment ++ "lifecycles/").toList ++ id.toList).dropWhile isSlash =
      (kind.segment ++ "lifecycles/").toList ++ id.toList := by
    cases kind <;> rfl
  rw [relativePath_eq, String.toList_append, hdrop, hfront, ← List.append_assoc]
  rfl

/-- The path goes down four directories before it comes to the id. -/
theorem followText_lifecycleFront {k : SchemeClass} (hk : k ≠ .file) (path : List (List Char))
    (kind : Lifecycle.Kind) (cs : List Char) :
    Url.followText k path (lifecycleFront kind ++ cs) =
      Url.follow k (path ++
        ["ihm-demo".toList, "v1".toList, "api".toList, (kind.segment ++ "lifecycles").toList])
        (Text.pieces k.isSlash cs) := by
  have hsegments : (Text.pieces (· == '/') (lifecycleFront kind)).dropLast.map (Url.encode .path) =
      ["ihm-demo".toList, "v1".toList, "api".toList, (kind.segment ++ "lifecycles").toList] := by
    cases kind <;> decide
  rw [Url.followText, if_neg hk, (isFront_lifecycleFront kind).pieces_append,
    Url.follow_append _ _ (Text.pieces_ne_nil _ _), (isPlain_lifecycleFront kind).walk, hsegments]

/-- The address of a lifecycle on a server of the network. -/
def lifecycleAddress (base : Url) (kind : Lifecycle.Kind) (id : String) : Url :=
  let cut := Url.Cut.of (readId id)
  base.asDirectory.withPath
    (Url.follow base.schemeClass (lifecycleDirectory base kind)
      (Text.pieces base.schemeClass.isSlash cut.main)) cut

/-- Under the initial stem a lifecycle has this address on any server that is no file system. -/
theorem lifecycleUrl_eq {s : Settings} {base : Url} (hbase : s.baseUrl = .ok base)
    (hfile : base.schemeClass ≠ .file) (hinitial : s.apiPrefix = initial.apiPrefix)
    (kind : Lifecycle.Kind) (id : String) :
    s.lifecycleUrl kind id = .ok (lifecycleAddress base kind id) := by
  have hplain := isPlain_lifecycleFront kind
  obtain ⟨rest, hfirst⟩ : ∃ rest, lifecycleFront kind = 'i' :: rest := by
    cases kind <;> exact ⟨_, rfl⟩
  have hscheme : Url.cutScheme? (lifecycleFront kind ++ readId id) = none := by
    refine Url.cutScheme?_eq_none fun hcolon => ?_
    rw [(isFront_lifecycleFront kind).takeWhile_append (by simp [hfirst]) rfl] at hcolon
    exact hplain.not_mem (by simp) ((List.takeWhile_prefix _).subset hcolon)
  have hcut := Url.Cut.of_append (hplain.not_mem (by simp)) (hplain.not_mem (by simp)) (readId id)
  have hjoin := Url.join_of_relative (Url.isFlat_asDirectory (isFlat_baseUrl hbase))
    ((congrArg Url.cleaned String.toList_ofList).trans (cleaned_lifecycleFront kind id)) hscheme
    (by rw [hcut, hfirst]; rfl) (by decide) fun h => absurd h (by simpa using hfile)
  rw [lifecycleUrl, endpoint_eq_ok_iff hbase, relativePath_lifecycle hinitial, hjoin, hcut]
  simp only [Url.asDirectory_schemeClass]
  rw [followText_lifecycleFront hfile]
  rfl

/-- The address of an id is that of an entry if and only if the id names one. -/
theorem isEntry_lifecycleAddress_iff {base : Url} (hfile : base.schemeClass ≠ .file)
    (kind : Lifecycle.Kind) (id : String) (segment : List Char) :
    IsEntry (lifecycleAddress base kind id) (lifecycleDirectory base kind) segment ↔
      ∃ name, NamesEntry base.schemeClass (lifecycleDirectory base kind) (readId id) name ∧
        Url.encode .path name = segment := by
  have hquery : (lifecycleAddress base kind id).query = none ↔
      (Url.Cut.of (readId id)).query = none := by
    simp [lifecycleAddress, Url.withPath, Url.Cut.keptQuery]
  have hfragment : (lifecycleAddress base kind id).fragment = none ↔
      (Url.Cut.of (readId id)).fragment = none := by
    simp [lifecycleAddress, Url.withPath, Url.Cut.keptFragment]
  have hpath (hnoQuery : '?' ∉ readId id) (hnoFragment : '#' ∉ readId id) :
      (lifecycleAddress base kind id).path = .segments
        (Url.follow base.schemeClass (lifecycleDirectory base kind)
          (Text.pieces base.schemeClass.isSlash (readId id))) := by
    rw [lifecycleAddress, Url.Cut.of_of_not_mem hnoQuery hnoFragment]
    rfl
  constructor
  · intro hentry
    obtain ⟨hnoQuery, hnoFragment⟩ := Url.Cut.of_eq_iff.mp
      ⟨hquery.mp hentry.query, hfragment.mp hentry.fragment⟩
    obtain ⟨earlier, name, hpieces⟩ :=
      (List.eq_nil_or_concat' (Text.pieces base.schemeClass.isSlash (readId id))).resolve_left
        (Text.pieces_ne_nil _ _)
    have hfollow := Url.Path.segments.inj ((hpath hnoQuery hnoFragment).symm.trans hentry.path)
    rw [hpieces, Url.follow_eq_concat_iff hfile hentry.ne_nil] at hfollow
    obtain ⟨hwalk, hname, hsegment⟩ := hfollow
    have hne : name ≠ [] := by
      rintro rfl
      exact hentry.ne_nil hsegment.symm
    exact ⟨name, ⟨hnoQuery, hnoFragment, ⟨earlier, hpieces, hwalk⟩, hname, hne⟩, hsegment⟩
  · rintro ⟨name, hnames, hsegment⟩
    obtain ⟨earlier, hpieces, hwalk⟩ := hnames.pieces
    have hne : segment ≠ [] := by
      rw [← hsegment, Ne, Url.encode_eq_nil_iff]
      exact hnames.ne_nil
    obtain ⟨hnone, hnone'⟩ := Url.Cut.of_eq_iff.mpr ⟨hnames.no_query, hnames.no_fragment⟩
    refine ⟨?_, hne, hquery.mpr hnone, hfragment.mpr hnone'⟩
    rw [hpath hnames.no_query hnames.no_fragment, hpieces,
      (Url.follow_eq_concat_iff hfile hne).mpr ⟨hwalk, hnames.isName, hsegment⟩]

/-- On a server of the network with the initial stem every id has an address. It is that of an
entry in the directory of lifecycles if and only if the id names one, and two ids that do have
one path if and only if their names are encoded alike. An id without the signs of references is
its own name, so that different ones of these have different paths. -/
theorem lifecycleUrl_entries {s : Settings} {base : Url} (hbase : s.baseUrl = .ok base)
    (hscheme : base.scheme = "http".toList ∨ base.scheme = "https".toList)
    (hinitial : s.apiPrefix = initial.apiPrefix) (kind : Lifecycle.Kind) :
    ∃ address : String → Url,
      (∀ id, s.lifecycleUrl kind id = .ok (address id)) ∧
      (∀ id segment, IsEntry (address id) (lifecycleDirectory base kind) segment ↔
        ∃ name, NamesEntry base.schemeClass (lifecycleDirectory base kind) (readId id) name ∧
          Url.encode .path name = segment) ∧
      (∀ id id' name name',
        NamesEntry base.schemeClass (lifecycleDirectory base kind) (readId id) name →
        NamesEntry base.schemeClass (lifecycleDirectory base kind) (readId id') name' →
        ((address id).path.chars = (address id').path.chars ↔
          Url.encode .path name = Url.encode .path name')) ∧
      (∀ id, IsPlainId id →
        NamesEntry base.schemeClass (lifecycleDirectory base kind) (readId id) id.toList) ∧
      (∀ id id', IsPlainId id → IsPlainId id' →
        (address id).path.chars = (address id').path.chars → id = id') := by
  have hfile : base.schemeClass ≠ .file := by
    rw [Url.schemeClass]
    rcases hscheme with hhttp | hhttps
    · rw [hhttp]
      decide
    · rw [hhttps]
      decide
  have hentry {id : String} {name : List Char}
      (h : NamesEntry base.schemeClass (lifecycleDirectory base kind) (readId id) name) :
      (lifecycleAddress base kind id).path =
        .segments (lifecycleDirectory base kind ++ [Url.encode .path name]) :=
    ((isEntry_lifecycleAddress_iff hfile kind id _).mpr ⟨name, h, rfl⟩).path
  have hsame {id id' : String} {name name' : List Char}
      (h : NamesEntry base.schemeClass (lifecycleDirectory base kind) (readId id) name)
      (h' : NamesEntry base.schemeClass (lifecycleDirectory base kind) (readId id') name') :
      (lifecycleAddress base kind id).path.chars = (lifecycleAddress base kind id').path.chars ↔
        Url.encode .path name = Url.encode .path name' := by
    rw [hentry h, hentry h']
    simp [Url.Path.chars]
  refine ⟨lifecycleAddress base kind, lifecycleUrl_eq hbase hfile hinitial kind,
    isEntry_lifecycleAddress_iff hfile kind, fun _ _ _ _ => hsame, fun _ h => h.namesEntry _ _,
    fun id id' hplain hplain' hpath => ?_⟩
  have hencoded := (hsame (hplain.namesEntry _ _) (hplain'.namesEntry _ _)).mp hpath
  exact String.toList_inj.mp ((Url.encode_inj (hplain.not_mem (by simp))
    (hplain'.not_mem (by simp))).mp hencoded)

/-- A space in an id is encoded, and another sign in its place gives another path. -/
theorem lifecycleUrl_entries_space :
    ∃ (base : Url) (address : String → Url), initial.baseUrl = .ok base ∧
      (∀ id, initial.lifecycleUrl .unit id = .ok (address id)) ∧
      IsEntry (address "a b") (lifecycleDirectory base .unit) "a%20b".toList ∧
      (address "a b").path.chars ≠ (address "a+b").path.chars := by
  have hhttp : initial.baseUrl.toOption.map (·.scheme) = some "http".toList := by decide +kernel
  obtain ⟨base, hparsed, hscheme⟩ := Option.map_eq_some_iff.mp hhttp
  have hbase := Url.eq_ok_of_toOption hparsed
  obtain ⟨address, hread, hentry, -, hplain, hdifferent⟩ :=
    lifecycleUrl_entries hbase (.inl hscheme) rfl .unit
  refine ⟨base, address, hbase, hread, ?_, fun hpath => ?_⟩
  · exact (hentry "a b" _).mpr ⟨_, hplain "a b" (by decide), by decide +kernel⟩
  · exact absurd (hdifferent "a b" "a+b" (by decide) (by decide) hpath) (by decide)

/-- An id as the operator can send it: not empty, and without blanks around it. -/
structure IsSent (id : String) : Prop where
  ne_empty : id ≠ ""
  trimmed : Text.trim id = id

/-- A question mark in an id begins a query, and an encoded character is not encoded again: two
ids have the path of one. -/
theorem exists_lifecycleUrls_confused :
    (∃ id u, IsSent id ∧ initial.lifecycleUrl .unit id = .ok u ∧ u.query ≠ none) ∧
      ∃ id id' u u', IsSent id ∧ IsSent id' ∧ id ≠ id' ∧
        initial.lifecycleUrl .unit id = .ok u ∧ initial.lifecycleUrl .unit id' = .ok u' ∧
        u.path.chars = u'.path.chars := by
  have hquery : (initial.lifecycleUrl .unit "a?b").toOption.map (·.query) = some (some ['b']) := by
    decide +kernel
  have hspace : (initial.lifecycleUrl .unit "a b").toOption.map (·.path.chars) =
      some "/ihm-demo/v1/api/unitlifecycles/a%20b".toList := by decide +kernel
  have hencoded : (initial.lifecycleUrl .unit "a%20b").toOption.map (·.path.chars) =
      some "/ihm-demo/v1/api/unitlifecycles/a%20b".toList := by decide +kernel
  obtain ⟨u, hu, hbegun⟩ := Option.map_eq_some_iff.mp hquery
  obtain ⟨v, hv, hpath⟩ := Option.map_eq_some_iff.mp hspace
  obtain ⟨w, hw, hpath'⟩ := Option.map_eq_some_iff.mp hencoded
  refine ⟨⟨"a?b", u, ⟨by decide, by decide⟩, Url.eq_ok_of_toOption hu, by simp [hbegun]⟩,
    "a b", "a%20b", v, w, ⟨by decide, by decide⟩, ⟨by decide, by decide⟩, by decide,
    Url.eq_ok_of_toOption hv, Url.eq_ok_of_toOption hw, hpath.trans hpath'.symm⟩

end ArchiveDesk.Settings
