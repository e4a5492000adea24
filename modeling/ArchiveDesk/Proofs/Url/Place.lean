import ArchiveDesk.Proofs.Url.Following

/-!
# Where a URL leads

A URL without its user, query and fragment is a place.
-/

namespace ArchiveDesk.Url

/-- A server, and a path on it as it is written. -/
structure Place where
  scheme : List Char
  host : Option Host
  port : Option Nat
  path : List Char
  deriving DecidableEq, Repr

/-- Where a URL leads. -/
def place (u : Url) : Place where
  scheme := u.scheme
  host := u.host
  port := u.port
  path := u.path.chars

/-- A place is below another one if it is on the same server and its path begins with the
other's. -/
structure Place.Below (p root : Place) : Prop where
  scheme : p.scheme = root.scheme
  host : p.host = root.host
  port : p.port = root.port
  path : root.path <+: p.path

instance (p root : Place) : Decidable (p.Below root) :=
  decidable_of_iff
    (p.scheme = root.scheme ∧ p.host = root.host ∧ p.port = root.port ∧ root.path <+: p.path)
    ⟨fun ⟨hscheme, hhost, hport, hpath⟩ => ⟨hscheme, hhost, hport, hpath⟩,
      fun h => ⟨h.scheme, h.host, h.port, h.path⟩⟩

/-- The place whose path goes on with a text. -/
def Place.extend (p : Place) (t : List Char) : Place := { p with path := p.path ++ t }

/-! ## The places of the URLs that are read -/

/-- Another path leads to another place on the same server. -/
@[simp] theorem place_withPath (u : Url) (path : List (List Char)) (cut : Cut) :
    (u.withPath path cut).place = { u.place with path := (Path.segments path).chars } := rfl

/-- The place on a file system. -/
def filePlace (host : Host) (path : List (List Char)) : Place :=
  ⟨"file".toList, some host, none, (Path.segments path).chars⟩

/-- The place of a file is that of its host and its path. -/
@[simp] theorem place_fileUrl (host : Host) (path : List (List Char)) (cut : Cut) :
    (fileUrl host path cut).place = filePlace host path := rfl

/-- The place on the server of an authority. -/
def Authority.place (a : Authority) (scheme : List Char) (path : List (List Char)) : Place :=
  ⟨scheme, some a.host, a.port, (Path.segments path).chars⟩

/-- The place of an authority is found from its two parts: the host, and the path after it. -/
theorem map_place_readAuthority (scheme : List Char) (cut : Cut) :
    (readAuthority scheme cut).map place =
      let k := SchemeClass.of scheme
      let pathText := cut.main.dropWhile (!k.isSlash ·)
      (Authority.read k (cut.main.takeWhile (!k.isSlash ·))
        (!pathText.isEmpty || cut.continues)).map fun x =>
          x.1.place scheme (pathAfterAuthority k (x.2 ++ pathText)) := by
  simp only [← drop_length_takeWhile]
  unfold readAuthority
  simp only []
  cases Authority.read _ _ _ <;> rfl

/-- The host of a file, which is empty if it is `localhost` or a drive leads the path. -/
def keptFileHost (host : Host) (rest : List Char) : Host :=
  if host = .name "localhost".toList || startsWithDrive rest then .empty else host

/-- The place of a file with a host is found from its two parts. -/
theorem map_place_readFileHost (cut : Cut) :
    (readFileHost cut).map place =
      let hostText := cut.main.takeWhile (!isAnySlash ·)
      let rest := cut.main.drop (hostText.length + 1)
      if isDrive hostText then .ok (filePlace .empty (followText .file [] cut.main))
      else if hostText.isEmpty then .ok (filePlace .empty (followText .file [] rest))
      else (Host.parseDomain hostText).map fun host =>
        filePlace (keptFileHost host rest) (followText .file [] rest) := by
  unfold readFileHost
  simp only []
  split_ifs
  · rfl
  · rfl
  · cases Host.parseDomain _ with
    | error fault => rfl
    | ok host =>
      simp only [bind, Except.bind, Except.map, keptFileHost]
      split_ifs <;> rfl

/-! ## References that differ in query and fragment -/

/-- The cuts have the same main part, and something follows it in both or in neither. -/
structure Cut.Like (c c' : Cut) : Prop where
  main : c.main = c'.main
  continues : c.continues = c'.continues

/-- Cuts stay alike with another main part. -/
theorem Cut.Like.withMain {c c' : Cut} (h : c.Like c') (main : List Char) :
    Cut.Like { c with main } { c' with main } := ⟨rfl, h.continues⟩

section Congruence

variable {c c' : Cut}

/-- References that differ in query and fragment name the same place of an authority. -/
theorem Cut.Like.readAuthority (h : c.Like c') (scheme : List Char) :
    (Url.readAuthority scheme c).map place = (Url.readAuthority scheme c').map place := by
  rw [map_place_readAuthority, map_place_readAuthority, h.main, h.continues]

/-- References that differ in query and fragment lead to the same place from a URL. -/
theorem Cut.Like.readRelative (h : c.Like c') (base : Url) :
    (Url.readRelative base c).map place = (Url.readRelative base c').map place := by
  unfold Url.readRelative
  rw [h.main]
  split
  · rfl
  · exact (h.withMain _).readAuthority _
  · split_ifs
    · exact (h.withMain _).readAuthority _
    · rfl
    · rfl

/-- References that differ in query and fragment name the same host of files. -/
theorem Cut.Like.readFileHost (h : c.Like c') :
    (Url.readFileHost c).map place = (Url.readFileHost c').map place := by
  rw [map_place_readFileHost, map_place_readFileHost, h.main]

private theorem place_readFile_absolute (c c' : Cut) (base : Option Url) (rest : List Char) :
    (readFile.absolute base c rest).place = (readFile.absolute base c' rest).place := by
  unfold readFile.absolute
  split_ifs
  · rfl
  · split
    · split_ifs <;> rfl
    · rfl

/-- References that differ in query and fragment lead to the same file. -/
theorem Cut.Like.readFile (h : c.Like c') (base : Option Url) :
    (Url.readFile base c).map place = (Url.readFile base c').map place := by
  unfold Url.readFile
  rw [h.main]
  split
  · cases base <;> rfl
  · split_ifs
    · split
      · split_ifs
        · exact (h.withMain _).readFileHost
        · exact congrArg Except.ok (place_readFile_absolute c c' _ _)
      · exact congrArg Except.ok (place_readFile_absolute c c' _ _)
    · cases base <;> rfl
    · cases base <;> rfl

/-- References that differ in query and fragment lead to the same place of another scheme. -/
theorem Cut.Like.readOther (h : c.Like c') (scheme : List Char) :
    (Url.readOther scheme c).map place = (Url.readOther scheme c').map place := by
  unfold Url.readOther
  rw [h.main]
  split
  · exact (h.withMain _).readAuthority _
  · rfl
  · rfl

end Congruence

/-! ## How a reference begins -/

/-- A reference that begins with no slash is followed from the parent. -/
theorem readRelative_of_not_isAnySlash {c : Char} {rest : List Char} {cut : Cut}
    (hmain : cut.main = c :: rest) (hc : isAnySlash c = false) (base : Url) :
    readRelative base cut =
      .ok (base.withPath (followText base.schemeClass base.parentSegments cut.main) cut) := by
  have hslash : c ≠ '/' := by
    rintro rfl
    exact absurd hc (by decide)
  simp [readRelative, hmain, hslash, hc]

/-- A reference that begins with one slash is followed from the root. -/
theorem readRelative_of_slash {c : Char} {rest : List Char} {cut : Cut}
    (hmain : cut.main = c :: rest) (hc : isAnySlash c = true)
    (hrest : rest.head?.any isAnySlash = false) (base : Url) :
    readRelative base cut = .ok (base.withPath (followText base.schemeClass [] rest) cut) := by
  unfold readRelative
  rw [hmain]
  split
  · contradiction
  · rename_i heq
    obtain ⟨-, rfl⟩ := List.cons.inj heq
    simp [isAnySlash] at hrest
  · rename_i heq
    obtain ⟨rfl, rfl⟩ := List.cons.inj heq
    simp [hc, hrest]

/-- A reference that begins with two slashes names an authority. -/
theorem readRelative_of_slashes {c d : Char} {rest : List Char} {cut : Cut}
    (hmain : cut.main = c :: d :: rest) (hc : isAnySlash c = true) (hd : isAnySlash d = true)
    (base : Url) :
    readRelative base cut = readAuthority base.scheme
      { cut with main := if c = '/' ∧ d = '/' then rest else rest.dropWhile isAnySlash } := by
  unfold readRelative
  rw [hmain]
  split
  · contradiction
  · rename_i heq
    obtain ⟨rfl, rfl, rfl⟩ : c = '/' ∧ d = '/' ∧ rest = _ := by simpa using heq
    simp
  · rename_i hboth heq
    obtain ⟨rfl, rfl⟩ := List.cons.inj heq
    have hneither : ¬ (c = '/' ∧ d = '/') := by
      rintro ⟨rfl, rfl⟩
      exact hboth rest rfl rfl
    simp [hc, hd, hneither]

/-- A reference to a file that begins with no slash is followed from the parent, unless a drive
leads it. -/
theorem readFile_of_not_isAnySlash {c : Char} {rest : List Char} {cut : Cut}
    (hmain : cut.main = c :: rest) (hc : isAnySlash c = false) (base : Option Url) :
    readFile base cut = .ok (
      match base with
      | some base =>
        if startsWithDrive cut.main then fileUrl .empty (followText .file [] cut.main) cut
        else base.withPath (followText .file base.parentSegments cut.main) cut
      | none => fileUrl .empty (followText .file [] cut.main) cut) := by
  unfold readFile
  cases base with
  | none => simp [hmain, hc]
  | some base => by_cases hdrive : startsWithDrive (c :: rest) = true <;> simp [hmain, hc, hdrive]

/-- A reference to a file that begins with one slash is absolute. -/
theorem readFile_of_slash {c : Char} {rest : List Char} {cut : Cut} (hmain : cut.main = c :: rest)
    (hc : isAnySlash c = true) (hrest : rest.head?.any isAnySlash = false) (base : Option Url) :
    readFile base cut = .ok (readFile.absolute base cut rest) := by
  unfold readFile
  cases rest with
  | nil => simp [hmain, hc]
  | cons d rest =>
    have hd : isAnySlash d = false := by simpa using hrest
    simp [hmain, hc, hd]

/-- A reference to a file that begins with two slashes names a host. -/
theorem readFile_of_slashes {c d : Char} {rest : List Char} {cut : Cut}
    (hmain : cut.main = c :: d :: rest) (hc : isAnySlash c = true) (hd : isAnySlash d = true)
    (base : Option Url) : readFile base cut = readFileHost { cut with main := rest } := by
  simp [readFile, hmain, hc, hd]

end ArchiveDesk.Url
