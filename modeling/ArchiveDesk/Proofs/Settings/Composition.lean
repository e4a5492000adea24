import ArchiveDesk.Proofs.Settings.Endpoints
import ArchiveDesk.Proofs.Url.Names

/-!
# What the addresses are made of

On a server of the network, with a stem of names, each address is put together from the path of
the server, the names of the stem and a path of its own. Slashes around the stem and at the end of
the server's path add nothing to it.
-/

namespace ArchiveDesk.Settings

open Url (isNameChar IsNamePath)

/-! ## Stems of names -/

/-- A name: a text of characters of names that is not empty. -/
structure IsStemName (name : List Char) : Prop where
  ne_nil : name ≠ []
  chars : ∀ c ∈ name, isNameChar c = true

instance (name : List Char) : Decidable (IsStemName name) :=
  decidable_of_iff (name ≠ [] ∧ name.all isNameChar = true) <| by
    rw [List.all_eq_true]
    exact ⟨fun ⟨hne, hchars⟩ => ⟨hne, hchars⟩, fun h => ⟨h.ne_nil, h.chars⟩⟩

/-- The stem of the settings is made of these names, with slashes between them and any number of
slashes around them. -/
structure HasStem (s : Settings) (names : List (List Char)) : Prop where
  text : ∃ before after, s.apiPrefix.toList =
    List.replicate before '/' ++ ['/'].intercalate names ++ List.replicate after '/'
  names : ∀ name ∈ names, IsStemName name

/-- Names, each with a slash after it. -/
def closed (names : List (List Char)) : List Char := names.flatMap (· ++ ['/'])

/-- Joined names with a slash at the end are the names with a slash after each. -/
theorem intercalate_append_slash {names : List (List Char)} (hne : names ≠ []) :
    ['/'].intercalate names ++ ['/'] = closed names := by
  induction names with
  | nil => contradiction
  | cons name names ih =>
    cases names with
    | nil => simp [closed]
    | cons next names =>
      rw [List.intercalate_cons_cons, List.append_assoc, ih (List.cons_ne_nil _ _)]
      simp [closed]

/-- Names with slashes after them hold nothing but characters of names and slashes. -/
theorem isNameChar_or_slash {names : List (List Char)} (h : ∀ name ∈ names, IsStemName name) :
    ∀ c ∈ closed names, isNameChar c = true ∨ c = '/' := by
  intro c hc
  obtain ⟨name, hname, hmem⟩ := List.mem_flatMap.mp hc
  rcases List.mem_append.mp hmem with hin | hslash
  · exact .inl ((h name hname).chars c hin)
  · exact .inr (List.mem_singleton.mp hslash)

/-- Names with slashes between them begin and end with characters of names. -/
theorem exists_intercalate_ends {names : List (List Char)}
    (h : ∀ name ∈ names, IsStemName name) (hne : names ≠ []) :
    ∃ c d, (['/'].intercalate names).head? = some c ∧ isNameChar c = true ∧
      (['/'].intercalate names).getLast? = some d ∧ isNameChar d = true := by
  induction names with
  | nil => contradiction
  | cons name names ih =>
    obtain ⟨hname, hchars⟩ := h name List.mem_cons_self
    have hfirst := hchars _ (List.head_mem hname)
    cases names with
    | nil =>
      refine ⟨name.head hname, name.getLast hname, ?_, hfirst, ?_,
        hchars _ (List.getLast_mem hname)⟩
      · simp [List.head?_eq_some_head hname]
      · simp [List.getLast?_eq_some_getLast hname]
    | cons next names =>
      obtain ⟨c, d, -, -, hlast, hd⟩ :=
        ih (fun name hmem => h name (List.mem_cons_of_mem _ hmem)) (List.cons_ne_nil _ _)
      refine ⟨name.head hname, d, ?_, hfirst, ?_, hd⟩
      · rw [List.intercalate_cons_cons, List.append_assoc, List.head?_append_of_ne_nil _ hname,
          List.head?_eq_some_head hname]
      · rw [List.intercalate_cons_cons, List.getLast?_append, hlast]
        rfl

variable {s s' : Settings} {names : List (List Char)}

/-- Without the slashes around it the stem is its names with slashes between them. -/
theorem HasStem.stem_eq (h : s.HasStem names) : s.stem = ['/'].intercalate names := by
  obtain ⟨before, after, htext⟩ := h.text
  have hslashes (n : ℕ) : ∀ c ∈ List.replicate n '/', isSlash c = true := by
    intro c hc
    rw [List.eq_of_mem_replicate hc]
    rfl
  have hname {c : Char} (hc : isNameChar c = true) : isSlash c = false := by
    simpa [isSlash] using Url.ne_of_isNameChar hc (d := '/') (by decide)
  rw [stem, htext]
  by_cases hne : names = []
  · subst hne
    refine Text.stripChars_append (hslashes before) (hslashes after) ?_ ?_ <;> simp
  · obtain ⟨c, d, hfirst, hc, hlast, hd⟩ := exists_intercalate_ends h.names hne
    refine Text.stripChars_append (hslashes before) (hslashes after) ?_ ?_
    · rw [hfirst]
      rintro _ ⟨⟩
      exact hname hc
    · rw [hlast]
      rintro _ ⟨⟩
      exact hname hd

/-- What stands before the path of an address is the names of the stem. -/
theorem HasStem.front_eq (h : s.HasStem names) : s.front = closed names := by
  rw [front, h.stem_eq]
  by_cases hne : names = []
  · subst hne
    rfl
  · obtain ⟨c, d, hfirst, -⟩ := exists_intercalate_ends h.names hne
    have hsome : ['/'].intercalate names ≠ [] := by
      intro hnil
      simp [hnil] at hfirst
    rw [if_neg hsome, intercalate_append_slash hne]

/-! ## The addresses -/

/-- The URL is that of a path of its own below the names of a stem on the server. -/
structure Composed (u base : Url) (names : List (List Char)) (path : String) : Prop where
  scheme : u.scheme = base.scheme
  username : u.username = base.username
  password : u.password = base.password
  host : u.host = base.host
  port : u.port = base.port
  query : u.query = none
  fragment : u.fragment = none
  path : u.path.chars = Url.completed base.path.chars ++ closed names ++ path.toList

/-- The URLs have one server and one directory: at most a slash at the end of the path, the query
and the fragment are different. -/
structure SameDirectory (base base' : Url) : Prop where
  scheme : base.scheme = base'.scheme
  username : base.username = base'.username
  password : base.password = base'.password
  host : base.host = base'.host
  port : base.port = base'.port
  path : Url.completed base.path.chars = Url.completed base'.path.chars

instance (base base' : Url) : Decidable (SameDirectory base base') :=
  decidable_of_iff
    (base.scheme = base'.scheme ∧ base.username = base'.username ∧
      base.password = base'.password ∧ base.host = base'.host ∧ base.port = base'.port ∧
      Url.completed base.path.chars = Url.completed base'.path.chars)
    ⟨fun ⟨hscheme, husername, hpassword, hhost, hport, hpath⟩ =>
      ⟨hscheme, husername, hpassword, hhost, hport, hpath⟩,
      fun h => ⟨h.scheme, h.username, h.password, h.host, h.port, h.path⟩⟩

/-- What is beneath a URL depends on its directory alone. -/
theorem SameDirectory.beneath_eq {base base' : Url} (h : SameDirectory base' base)
    (cs : List Char) : base'.beneath cs = base.beneath cs := by
  simp only [Url.beneath, Url.setPath, Url.schemeClass, h.scheme, h.username, h.password, h.host,
    h.port, h.path]

/-- A path of names after the stem is a path of names again. -/
theorem HasStem.isNamePath (h : s.HasStem names) {path : List Char} (hpath : IsNamePath path) :
    IsNamePath (closed names ++ path) := by
  cases names with
  | nil => exact hpath
  | cons name names =>
    obtain ⟨hname, hchars⟩ := h.names name List.mem_cons_self
    obtain ⟨c, rest, rfl⟩ := List.exists_cons_of_ne_nil hname
    refine IsNamePath.append ⟨⟨c, _, rfl, hchars c List.mem_cons_self⟩, ?_⟩ hpath.chars
    exact isNameChar_or_slash h.names

/-- The path of a lifecycle is a path of names if its id is made of their characters. -/
theorem isNamePath_lifecycle (kind : Lifecycle.Kind) {id : String}
    (hid : ∀ c ∈ id.toList, isNameChar c = true) :
    IsNamePath (kind.segment ++ "lifecycles/" ++ id).toList := by
  rw [String.toList_append]
  refine IsNamePath.append ?_ fun c hc => .inl (hid c hc)
  cases kind <;> decide

/-- Whether a URL is one of the web. -/
def IsWeb (u : Url) : Prop := u.scheme = "http".toList ∨ u.scheme = "https".toList

/-- The scheme of a web URL is one of the network. -/
theorem IsWeb.exists_network {u : Url} (h : IsWeb u) : ∃ port, u.schemeClass = .network port := by
  rw [Url.schemeClass]
  rcases h with hhttp | hhttps
  · exact ⟨80, by rw [hhttp]; decide⟩
  · exact ⟨443, by rw [hhttps]; decide⟩

section

variable {base : Url} (hbase : s.baseUrl = .ok base) (hweb : IsWeb base)

include hbase hweb

/-- The address of a path of names. -/
theorem endpoint_eq (h : s.HasStem names) {path : String} (hpath : IsNamePath path.toList) :
    s.endpoint path = .ok (base.beneath (closed names ++ path.toList)) ∧
      Composed (base.beneath (closed names ++ path.toList)) base names path := by
  obtain ⟨port, hk⟩ := hweb.exists_network
  obtain ⟨list, hlist, hkept⟩ := Url.isKept_of_parse (parse_of_baseUrl hbase) hk
  obtain ⟨hjoin, hchars⟩ := (h.isNamePath hpath).join_eq hlist hkept hk
  have hfront : path.toList.dropWhile isSlash = path.toList := by
    obtain ⟨c, rest, hcons, hc⟩ := hpath.first
    have hslash : c ≠ '/' := Url.ne_of_isNameChar hc (by decide)
    rw [hcons]
    exact List.dropWhile_cons_of_neg (by simpa [isSlash] using hslash)
  constructor
  · rw [endpoint_eq_ok_iff hbase, relativePath_eq, h.front_eq, hfront, hjoin]
  · rw [← List.append_assoc] at hchars
    exact ⟨rfl, rfl, rfl, rfl, rfl, rfl, rfl, hchars⟩

/-- The three addresses of the format referential follow the server's path and the names of the
stem. -/
theorem formatEndpoints_eq (h : s.HasStem names) :
    s.formatEndpoints = .ok
      { check := base.beneath (closed names ++ "format/check".toList)
        upload := base.beneath (closed names ++ "format/upload".toList)
        delete := base.beneath (closed names ++ "format/delete".toList) } :=
  formatEndpoints_eq_ok_iff.mpr ⟨(endpoint_eq hbase hweb h (by decide)).1,
    (endpoint_eq hbase hweb h (by decide)).1, (endpoint_eq hbase hweb h (by decide)).1⟩

end

/-- Settings that are valid have a server. -/
theorem exists_baseUrl_of_validate (h : s.validate = .ok ()) : ∃ base, s.baseUrl = .ok base := by
  unfold validate at h
  cases hbase : s.baseUrl with
  | error failure => simp [hbase, Except.map] at h
  | ok base => exact ⟨base, rfl⟩

/-- **What the addresses are made of.** Validated settings have a server. If it is one of the web
and the stem is made of names, each address is on that server, with its user and its port and
without a query and a fragment. Its path is that of the server, completed by a slash, then the
names of the stem, then the path of the address. So neither slashes around the stem nor one at the
end of the server's path make a difference. -/
theorem addresses_composed {s : Settings} (hvalid : s.validate = .ok ()) :
    ∃ base, s.baseUrl = .ok base ∧ (IsWeb base → ∀ names, s.HasStem names →
      (∃ addresses, s.formatEndpoints = .ok addresses ∧
        Composed addresses.check base names "format/check" ∧
        Composed addresses.upload base names "format/upload" ∧
        Composed addresses.delete base names "format/delete") ∧
      (∀ kind id, (∀ c ∈ id.toList, isNameChar c = true) →
        ∃ u, s.lifecycleUrl kind id = .ok u ∧
          Composed u base names (kind.segment ++ "lifecycles/" ++ id)) ∧
      ∀ (s' : Settings) (base' : Url), s'.baseUrl = .ok base' → SameDirectory base' base →
        s'.HasStem names → s'.formatEndpoints = s.formatEndpoints ∧
          ∀ kind id, (∀ c ∈ id.toList, isNameChar c = true) →
            s'.lifecycleUrl kind id = s.lifecycleUrl kind id) := by
  obtain ⟨base, hbase⟩ := exists_baseUrl_of_validate hvalid
  refine ⟨base, hbase, fun hweb names hstem => ⟨?_, ?_, ?_⟩⟩
  · exact ⟨_, formatEndpoints_eq hbase hweb hstem, (endpoint_eq hbase hweb hstem (by decide)).2,
      (endpoint_eq hbase hweb hstem (by decide)).2, (endpoint_eq hbase hweb hstem (by decide)).2⟩
  · intro kind id hid
    obtain ⟨hread, hcomposed⟩ := endpoint_eq hbase hweb hstem (isNamePath_lifecycle kind hid)
    exact ⟨_, hread, hcomposed⟩
  · intro s' base' hbase' hsame hstem'
    have hweb' : IsWeb base' := by rwa [IsWeb, hsame.scheme]
    have hbeneath := hsame.beneath_eq
    constructor
    · rw [formatEndpoints_eq hbase hweb hstem, formatEndpoints_eq hbase' hweb' hstem']
      simp only [hbeneath]
    · intro kind id hid
      have hpath := isNamePath_lifecycle kind hid
      rw [lifecycleUrl, lifecycleUrl, (endpoint_eq hbase hweb hstem hpath).1,
        (endpoint_eq hbase' hweb' hstem' hpath).1, hbeneath]

/-- The user, the port and the path of a server are kept. Without a query and with other slashes
all its addresses are the same. -/
theorem addresses_composed_vitam :
    ∃ base addresses,
      { initial with
        serverUrl := "https://ab:cd@archive.example:8443/vitam?x=1"
        apiPrefix := "//ihm-demo/v_1" }.baseUrl = .ok base ∧
      { initial with
        serverUrl := "https://ab:cd@archive.example:8443/vitam?x=1"
        apiPrefix := "//ihm-demo/v_1" }.formatEndpoints = .ok addresses ∧
      base.username = "ab".toList ∧ base.port = some 8443 ∧
      Composed addresses.check base ["ihm-demo".toList, "v_1".toList] "format/check" ∧
      { initial with
        serverUrl := "https://ab:cd@archive.example:8443/vitam/"
        apiPrefix := "ihm-demo/v_1/" }.formatEndpoints = .ok addresses := by
  set s : Settings :=
    { initial with
      serverUrl := "https://ab:cd@archive.example:8443/vitam?x=1"
      apiPrefix := "//ihm-demo/v_1" } with hs
  set s' : Settings :=
    { initial with
      serverUrl := "https://ab:cd@archive.example:8443/vitam/"
      apiPrefix := "ihm-demo/v_1/" } with hs'
  have hvalid : s.validate = .ok () := Url.eq_ok_of_toOption (by decide +kernel)
  have hserver : s.baseUrl.toOption.map (fun u => (u.scheme, u.username, u.port)) =
      some ("https".toList, "ab".toList, some 8443) := by decide +kernel
  have hdirectory : ∃ base' ∈ s'.baseUrl.toOption, ∀ base ∈ s.baseUrl.toOption,
      SameDirectory base' base := by decide +kernel
  have hnames : ∀ name ∈ ["ihm-demo".toList, "v_1".toList], IsStemName name := by
    simp only [List.forall_mem_cons, List.not_mem_nil, false_implies, implies_true, and_true]
    exact ⟨by decide, by decide⟩
  have hstem : s.HasStem ["ihm-demo".toList, "v_1".toList] := ⟨⟨2, 0, by decide⟩, hnames⟩
  have hstem' : s'.HasStem ["ihm-demo".toList, "v_1".toList] := ⟨⟨0, 1, by decide⟩, hnames⟩
  obtain ⟨base, hbase, hcomposed⟩ := addresses_composed hvalid
  rw [hbase] at hserver hdirectory
  obtain ⟨hscheme, husername, hport⟩ :
      base.scheme = "https".toList ∧ base.username = "ab".toList ∧ base.port = some 8443 := by
    simpa [Except.toOption] using hserver
  obtain ⟨base', hbase', hsame⟩ := hdirectory
  obtain ⟨⟨addresses, hread, hcheck, -⟩, -, hslashes⟩ := hcomposed (.inr hscheme) _ hstem
  obtain ⟨hequal, -⟩ :=
    hslashes s' base' (Url.eq_ok_of_toOption hbase') (hsame base rfl) hstem'
  exact ⟨base, addresses, hbase, hread, husername, hport, hcheck, hequal.trans hread⟩

end ArchiveDesk.Settings
