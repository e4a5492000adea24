import ArchiveDesk.Proofs.Url.Relative
import ArchiveDesk.Settings

/-!
# Whether the addresses stay on the server

Settings are validated by the URL of the server alone, while the stem of the addresses becomes
part of a reference, which may name another scheme or host or climb out of the server's path.
Two addresses tell whether it does, and a plain stem never does.
-/

namespace ArchiveDesk.Settings

/-- Every address is read and lies below the place: those of the format referential, and those
of lifecycles whose ids are letters and digits. -/
structure StaysBelow (s : Settings) (root : Url.Place) : Prop where
  format : ∃ addresses, s.formatEndpoints = .ok addresses ∧ addresses.check.place.Below root ∧
    addresses.upload.place.Below root ∧ addresses.delete.place.Below root
  lifecycles : ∀ kind id, (∀ c ∈ id.toList, c.isAlphanum = true) →
    Url.LeadsBelow (s.lifecycleUrl kind id) root

/-- The stem of the addresses without the slashes around it. -/
def stem (s : Settings) : List Char := Text.stripChars isSlash s.apiPrefix.toList

/-- What stands before the path of an address. -/
def front (s : Settings) : List Char := if s.stem = [] then [] else s.stem ++ ['/']

/-- The reference of an endpoint is the front of the settings, then its path without the slashes
before it. -/
theorem relativePath_eq (s : Settings) (path : String) :
    s.relativePath path = String.ofList (s.front ++ path.toList.dropWhile isSlash) := by
  unfold relativePath front stem
  by_cases hstem : Text.stripChars isSlash s.apiPrefix.toList = []
  · simp [hstem]
  · rw [if_neg hstem, if_neg (by simpa using hstem)]
    rw [String.ofList_append, String.ofList_append]

private theorem dropWhile_isSlash {t : List Char} (ht : Url.IsTail t) :
    t.dropWhile isSlash = t := by
  obtain ⟨c, cs, rfl, hc⟩ := ht.first
  have hslash : c ≠ '/' := Url.ne_of_isAlphanum hc rfl
  exact List.dropWhile_cons_of_neg (by simpa [isSlash] using hslash)

/-- What stands before the path of an address is empty or ends in a slash. -/
theorem isFront_front (s : Settings) : Url.IsFront s.front := by
  unfold front
  split_ifs
  · simp [Url.IsFront]
  · exact Url.IsFront.concat _

/-- The front never begins with a slash. -/
theorem head?_front_ne (s : Settings) : s.front.head? ≠ some '/' := by
  have hfirst : ∀ c, (s.apiPrefix.toList.dropWhile isSlash).head? = some c → isSlash c = false := by
    intro c hc
    have hnot := List.head?_dropWhile_not isSlash s.apiPrefix.toList
    rwa [hc] at hnot
  unfold front
  split_ifs with hstem
  · simp
  · obtain ⟨c, rest, hcons⟩ := List.exists_cons_of_ne_nil hstem
    have hbegin : s.stem <+: s.apiPrefix.toList.dropWhile isSlash := by
      rw [stem, Text.stripChars, ← List.rdropWhile]
      exact List.rdropWhile_prefix _ _
    obtain ⟨more, hmore⟩ := hbegin
    rw [hcons]
    rintro hslash
    obtain rfl : c = '/' := by simpa using hslash
    exact absurd (hfirst '/' (by rw [← hmore, hcons]; rfl)) (by decide)

section

variable {s : Settings} {base : Url} (hbase : s.baseUrl = .ok base)

include hbase

/-- The URL of the server has a path of segments. -/
theorem isFlat_baseUrl : base.isFlat = false := by
  unfold baseUrl at hbase
  split at hbase
  · contradiction
  · split_ifs at hbase with hflat
    cases hbase
    simpa using hflat

/-- The URL of the server is what its text is read as. -/
theorem parse_of_baseUrl : Url.parse s.serverUrl = .ok base := by
  unfold baseUrl at hbase
  split at hbase
  · contradiction
  · rename_i u hparse
    split_ifs at hbase
    cases hbase
    exact hparse

/-- A server of the file scheme has the path of a file. -/
theorem isFilePath_baseUrl (hfile : base.schemeClass = .file) :
    Url.IsFilePath base.pathSegments :=
  Url.isFilePath_of_parse (parse_of_baseUrl hbase) hfile

/-- An endpoint is its reference, joined to the directory of the server's URL. -/
theorem endpoint_eq_ok_iff {path : String} {u : Url} :
    s.endpoint path = .ok u ↔ base.asDirectory.join (s.relativePath path) = .ok u := by
  unfold endpoint
  rw [hbase]
  simp only [bind, Except.bind, pure, Except.pure]
  cases base.asDirectory.join (s.relativePath path) <;> simp

/-- An endpoint whose path is a tail leads where the tail leads after the front. -/
theorem leadsBelow_endpoint_iff {path : String} (hpath : Url.IsTail path.toList)
    {root : Url.Place} :
    Url.LeadsBelow (s.endpoint path) root ↔
      Url.LeadsBelow (base.asDirectory.join (String.ofList (s.front ++ path.toList))) root := by
  simp only [Url.LeadsBelow, endpoint_eq_ok_iff hbase, relativePath_eq, dropWhile_isSlash hpath]

end

/-- There are addresses of the format referential if there is each of the three. -/
theorem formatEndpoints_eq_ok_iff {s : Settings} {addresses : FormatEndpoints} :
    s.formatEndpoints = .ok addresses ↔ s.endpoint "format/check" = .ok addresses.check ∧
      s.endpoint "format/upload" = .ok addresses.upload ∧
      s.endpoint "format/delete" = .ok addresses.delete := by
  obtain ⟨check, upload, delete⟩ := addresses
  unfold formatEndpoints
  cases s.endpoint "format/check" <;> cases s.endpoint "format/upload" <;>
    cases s.endpoint "format/delete" <;> simp [bind, Except.bind, pure, Except.pure]

/-! ## The paths of addresses as tails -/

/-- The path of a lifecycle is a tail if its id is made of letters and digits. -/
theorem isTail_lifecycle (kind : Lifecycle.Kind) {id : String}
    (hid : ∀ c ∈ id.toList, c.isAlphanum = true) :
    Url.IsTail (kind.segment ++ "lifecycles/" ++ id).toList := by
  rw [String.toList_append]
  refine Url.IsTail.append ?_ fun c hc => .inl (hid c hc)
  cases kind <;> decide

/-- A unit with an empty id has the address of all units' lifecycles. -/
theorem lifecycleUrl_unit (s : Settings) :
    s.lifecycleUrl .unit "" = s.endpoint "unitlifecycles/" := by
  have hpath : Lifecycle.Kind.unit.segment ++ "lifecycles/" ++ "" = "unitlifecycles/" := by decide
  rw [lifecycleUrl, hpath]

/-- Read as an authority, the path of the check names a host. -/
theorem namesHost_check : Url.NamesHost "format/check".toList (.name "format".toList) := by
  have hdomain : (Url.Host.parseDomain "format".toList).toOption =
      some (.name "format".toList) := by decide +kernel
  have hnames : Url.NamesHost ("format".toList ++ '/' :: "check".toList) (.name "format".toList) :=
    Url.namesHost_of_domain (List.all_eq_true.mp (by decide)) (by decide)
      (Url.eq_ok_of_toOption hdomain) (by decide) (by decide)
  exact hnames

/-- Read as an authority, the path of all units' lifecycles names another host. -/
theorem namesHost_units :
    Url.NamesHost "unitlifecycles/".toList (.name "unitlifecycles".toList) := by
  have hdomain : (Url.Host.parseDomain "unitlifecycles".toList).toOption =
      some (.name "unitlifecycles".toList) := by decide +kernel
  have hnames : Url.NamesHost ("unitlifecycles".toList ++ '/' :: [])
      (.name "unitlifecycles".toList) :=
    Url.namesHost_of_domain (List.all_eq_true.mp (by decide)) (by decide)
      (Url.eq_ok_of_toOption hdomain) (by decide) (by decide)
  exact hnames

/-! ## The addresses that decide -/

/-- All addresses stay below a place if every tail leads there after the front. -/
theorem staysBelow_of_tails {s : Settings} {base : Url} (hbase : s.baseUrl = .ok base)
    {root : Url.Place}
    (h : ∀ t, Url.IsTail t →
      Url.LeadsBelow (base.asDirectory.join (String.ofList (s.front ++ t))) root) :
    s.StaysBelow root := by
  have hendpoint {path : String} (hpath : Url.IsTail path.toList) :
      Url.LeadsBelow (s.endpoint path) root :=
    (leadsBelow_endpoint_iff hbase hpath).mpr (h _ hpath)
  have hcheckPath : Url.IsTail "format/check".toList := by decide
  have huploadPath : Url.IsTail "format/upload".toList := by decide
  have hdeletePath : Url.IsTail "format/delete".toList := by decide
  obtain ⟨check, hcheck, hbelowCheck⟩ := hendpoint hcheckPath
  obtain ⟨upload, hupload, hbelowUpload⟩ := hendpoint huploadPath
  obtain ⟨delete, hdelete, hbelowDelete⟩ := hendpoint hdeletePath
  refine ⟨⟨⟨check, upload, delete⟩, ?_, hbelowCheck, hbelowUpload, hbelowDelete⟩, ?_⟩
  · exact formatEndpoints_eq_ok_iff.mpr ⟨hcheck, hupload, hdelete⟩
  · intro kind id hid
    exact hendpoint (isTail_lifecycle kind hid)

/-- The slash after a plain stem does not make it less plain. -/
theorem isPlain_front {s : Settings} (h : Url.IsPlain s.stem) : Url.IsPlain s.front := by
  unfold front
  split_ifs with hstem
  · exact hstem ▸ h
  · constructor
    · intro c hc
      rcases List.mem_append.mp hc with hmem | hmem
      · exact h.signs c hmem
      · obtain rfl := List.mem_singleton.mp hmem
        decide
    · intro segment hs
      rw [Text.pieces_append rfl, List.mem_append] at hs
      rcases hs with hmem | hmem
      · exact h.names segment hmem
      · obtain rfl := List.mem_singleton.mp hmem
        exact ⟨rfl, rfl⟩

/-- Validated settings have a server. All their addresses lie below it if and only if two of them
do: that of the check, and that of all units' lifecycles. A plain stem is enough for this. -/
theorem staysBelow_iff {s : Settings} (h : s.validate = .ok ()) :
    ∃ base, s.baseUrl = .ok base ∧
      (s.StaysBelow base.asDirectory.place ↔
        Url.LeadsBelow (s.endpoint "format/check") base.asDirectory.place ∧
          Url.LeadsBelow (s.lifecycleUrl .unit "") base.asDirectory.place) ∧
      (Url.IsPlain s.stem → s.StaysBelow base.asDirectory.place) := by
  obtain ⟨base, hbase⟩ : ∃ base, s.baseUrl = .ok base := by
    unfold validate at h
    cases hbase : s.baseUrl with
    | error failure => simp [hbase, Except.map] at h
    | ok base => exact ⟨base, rfl⟩
  have hflat := isFlat_baseUrl hbase
  refine ⟨base, hbase, ⟨fun hstays => ?_, fun ⟨hcheck, hunits⟩ => ?_⟩, fun hplain => ?_⟩
  · obtain ⟨addresses, hread, hcheck, -, -⟩ := hstays.format
    exact ⟨⟨_, (formatEndpoints_eq_ok_iff.mp hread).1, hcheck⟩,
      hstays.lifecycles .unit "" (by simp)⟩
  · refine staysBelow_of_tails hbase ?_
    have hcheckPath : Url.IsTail "format/check".toList := by decide
    have hunitsPath : Url.IsTail "unitlifecycles/".toList := by decide
    rw [lifecycleUrl_unit, leadsBelow_endpoint_iff hbase hunitsPath] at hunits
    rw [leadsBelow_endpoint_iff hbase hcheckPath] at hcheck
    have halike := Url.Alike.join s.isFront_front (Url.isFlat_asDirectory hflat)
    exact (halike.leadsBelow_iff hcheckPath hunitsPath (by decide) namesHost_check
      namesHost_units (by decide)).mpr ⟨hcheck, hunits⟩
  · refine staysBelow_of_tails hbase fun t ht => ?_
    exact (isPlain_front hplain).leadsBelow hflat (isFilePath_baseUrl hbase) s.isFront_front
      s.head?_front_ne ht

/-- A path on the server is kept above all addresses, as the initial stem is plain. -/
theorem staysBelow_initial_vitam :
    ∃ base, { initial with serverUrl := "https://archive.example/vitam" }.baseUrl = .ok base ∧
      base.asDirectory.place.path = "/vitam/".toList ∧
      { initial with serverUrl := "https://archive.example/vitam" }.StaysBelow
        base.asDirectory.place := by
  set s : Settings := { initial with serverUrl := "https://archive.example/vitam" } with hs
  have hvalid : s.validate = .ok () := Url.eq_ok_of_toOption (by decide +kernel)
  obtain ⟨base, hbase, -, hplain⟩ := staysBelow_iff hvalid
  have hpath : s.baseUrl.toOption.map (·.asDirectory.place.path) = some "/vitam/".toList := by
    decide +kernel
  rw [hbase] at hpath
  exact ⟨base, hbase, Option.some.inj hpath, hplain (by decide)⟩

/-- A stem with a colon can be read as a scheme: the addresses are not on the server then. -/
theorem exists_not_staysBelow :
    ∃ s : Settings, s.validate = .ok () ∧
      ∀ base, s.baseUrl = .ok base → ¬ s.StaysBelow base.asDirectory.place := by
  let s : Settings := { initial with apiPrefix := "/v1:api" }
  have hvalid : s.validate = .ok () := Url.eq_ok_of_toOption (by decide +kernel)
  have hserver : s.baseUrl.toOption.map (·.asDirectory.place.scheme) = some "http".toList := by
    decide +kernel
  have hcheck : (s.endpoint "format/check").toOption.map (·.place.scheme) = some "v1".toList := by
    decide +kernel
  refine ⟨s, hvalid, fun base hbase hstays => ?_⟩
  obtain ⟨addresses, hread, hbelow, -⟩ := hstays.format
  rw [hbase] at hserver
  rw [(formatEndpoints_eq_ok_iff.mp hread).1] at hcheck
  have hscheme : "v1".toList = "http".toList :=
    (Option.some.inj hcheck).symm.trans (hbelow.scheme.trans (Option.some.inj hserver))
  exact absurd hscheme (by decide)

end ArchiveDesk.Settings
