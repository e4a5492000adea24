import ArchiveDesk.Proofs.Url.Place

/-!
# References with a common front lead to like places

All references that consist of one front and some tail are read alike. Either the tail has no
part in where they lead, or it is what their paths end in. There is one exception: a front that
ends where an authority begins, so that the tail names the host.
-/

namespace ArchiveDesk.Url

/-- What the readings for all tails have in common. -/
inductive Alike (reading : List Char → Except UrlFault Url) : Prop
  /-- They all fail with one fault or lead to one place. -/
  | still (result : Except UrlFault Place)
      (h : ∀ t, IsTail t → (reading t).map place = result)
  /-- The tail ends the path. -/
  | extended (p : Place) (h : ∀ t, IsTail t → (reading t).map place = .ok (p.extend t))
  /-- The tail begins with an authority. -/
  | authority (scheme : List Char)
      (h : ∀ t, IsTail t → (reading t).map place = (readAuthority scheme ⟨t, none, none⟩).map place)
  /-- The tail begins with the host of a file. -/
  | fileHost (h : ∀ t, IsTail t → (reading t).map place = (readFileHost ⟨t, none, none⟩).map place)

namespace Alike

variable {reading other : List Char → Except UrlFault Url} {k : SchemeClass} {front : List Char}

/-- A reading that leads to the same places as another one has the same in common. -/
theorem congr (h : Alike other)
    (heq : ∀ t, IsTail t → (reading t).map place = (other t).map place) : Alike reading := by
  cases h with
  | still result h => exact .still result fun t ht => (heq t ht).trans (h t ht)
  | extended p h => exact .extended p fun t ht => (heq t ht).trans (h t ht)
  | authority scheme h => exact .authority scheme fun t ht => (heq t ht).trans (h t ht)
  | fileHost h => exact .fileHost fun t ht => (heq t ht).trans (h t ht)

/-- Paths that are followed from one place are extended by the tail. -/
theorem of_followText (hf : IsFront front) (p : Place) (path : List (List Char))
    (h : ∀ t, IsTail t → (reading t).map place =
      .ok { p with path := (Path.segments (followText k path (front ++ t))).chars }) :
    Alike reading := by
  refine .extended { p with path := (Path.segments (trail k path front)).chars ++ ['/'] }
    fun t ht => ?_
  rw [h t ht, chars_followText_append hf ht]
  simp [Place.extend]

/-- A reading that leads to a path of files has in common what the front leaves for the tails. -/
theorem of_filePlace (hf : IsFront front) (host : Host) (path : List (List Char))
    (h : ∀ t, IsTail t → (reading t).map place =
      .ok (filePlace host (followText .file path (front ++ t)))) : Alike reading :=
  of_followText hf (filePlace host []) path h

/-- It is enough to know what is read if the tail is not cut off. -/
theorem of_cut {reader : Cut → Except UrlFault Url}
    (hlike : ∀ c c', Cut.Like c c' → (reader c).map place = (reader c').map place)
    (h : Alike fun t => reader ⟨front ++ t, none, none⟩) :
    Alike fun t => reader (Cut.of (front ++ t)) := by
  rcases Cut.of_append_tail front with hcut | ⟨main, hcut⟩
  · exact h.congr fun t ht => by rw [hcut t ht]
  · refine .still ((reader ⟨main, some [], none⟩).map place) fun t _ => ?_
    exact hlike _ _ ⟨(hcut t).1, (hcut t).2⟩

/-! ## Authorities -/

/-- Authorities that begin with the same front are read alike. -/
theorem readAuthority (hf : IsFront front) (scheme : List Char) :
    Alike fun t => Url.readAuthority scheme ⟨front ++ t, none, none⟩ := by
  by_cases hne : front = []
  · subst hne
    exact .authority scheme fun _ _ => rfl
  · set k := SchemeClass.of scheme with hk
    have hslash : (!k.isSlash '/') = false := by simp [SchemeClass.isSlash]
    have htake (t : List Char) :
        (front ++ t).takeWhile (!k.isSlash ·) = front.takeWhile (!k.isSlash ·) :=
      hf.takeWhile_append (p := fun c => !k.isSlash c) hne hslash t
    have hdrop (t : List Char) :
        (front ++ t).dropWhile (!k.isSlash ·) = front.dropWhile (!k.isSlash ·) ++ t :=
      hf.dropWhile_append (p := fun c => !k.isSlash c) hne hslash t
    -- The slash that ends the front is part of the path, so that the tail is too.
    have hpath : front.dropWhile (!k.isSlash ·) ≠ [] :=
      hf.dropWhile_ne_nil (p := fun c => !k.isSlash c) hne hslash
    have hplace (t : List Char) :
        (Url.readAuthority scheme ⟨front ++ t, none, none⟩).map place =
          (Authority.read k (front.takeWhile (!k.isSlash ·)) true).map fun x =>
            x.1.place scheme (pathAfterAuthority k
              (x.2 ++ front.dropWhile (!k.isSlash ·) ++ t)) := by
      have hgoesOn : (front.dropWhile (!k.isSlash ·) ++ t).isEmpty = false :=
        List.isEmpty_eq_false_iff.mpr (List.append_ne_nil_of_left_ne_nil hpath t)
      rw [map_place_readAuthority, ← hk]
      simp only [htake, hdrop, hgoesOn, Bool.not_false, Bool.true_or, List.append_assoc]
    cases hread : Authority.read k (front.takeWhile (!k.isSlash ·)) true with
    | error fault =>
      exact .still (.error fault) fun t _ => by rw [hplace, hread]; rfl
    | ok x =>
      obtain ⟨c, cs, hcons⟩ := List.exists_cons_of_ne_nil
        (List.append_ne_nil_of_right_ne_nil x.2 hpath)
      have hrest : IsFront (c :: cs) := by
        rw [← hcons]
        exact (hf.suffix (List.dropWhile_suffix _)).append hpath _
      rw [hread] at hplace
      simp only [Except.map, hcons, List.cons_append] at hplace
      by_cases hc : k.isSlash c = true
      · refine of_followText (k := k) hrest.of_cons (x.1.place scheme []) [] fun t _ => ?_
        simp only [Except.map, hplace, pathAfterAuthority, if_pos hc]
        rfl
      · refine of_followText (k := k) hrest (x.1.place scheme []) [] fun t _ => ?_
        simp only [Except.map, hplace, pathAfterAuthority, if_neg hc]
        rfl

/-! ## References relative to a URL -/

/-- Whatever the tail is, no slash leads, or one, or two. -/
theorem leading_cases (front : List Char) :
    (∀ t, IsTail t → ∃ c rest, front ++ t = c :: rest ∧ isAnySlash c = false) ∨
      (∃ c rest, front = c :: rest ∧ isAnySlash c = true ∧
        ∀ t, IsTail t → (rest ++ t).head?.any isAnySlash = false) ∨
      ∃ c d rest, front = c :: d :: rest ∧ isAnySlash c = true ∧ isAnySlash d = true := by
  have htail {t : List Char} (ht : IsTail t) : ∃ c rest, t = c :: rest ∧ isAnySlash c = false :=
    let ⟨c, rest, hcons, hc⟩ := ht.first
    ⟨c, rest, hcons, isAnySlash_of_isAlphanum hc⟩
  cases front with
  | nil => exact .inl fun t ht => htail ht
  | cons c front =>
    by_cases hc : isAnySlash c = true
    · right
      cases front with
      | nil =>
        refine .inl ⟨c, [], rfl, hc, fun t ht => ?_⟩
        obtain ⟨d, rest, rfl, hd⟩ := htail ht
        exact hd
      | cons d front =>
        by_cases hd : isAnySlash d = true
        · exact .inr ⟨c, d, front, rfl, hc, hd⟩
        · exact .inl ⟨c, d :: front, rfl, hc, fun t _ => by simpa using hd⟩
    · exact .inl fun t _ => ⟨c, front ++ t, rfl, by simpa using hc⟩

/-- Relative references that begin with the same front are read alike. -/
theorem readRelative (hf : IsFront front) (base : Url) :
    Alike fun t => Url.readRelative base ⟨front ++ t, none, none⟩ := by
  rcases leading_cases front with hrelative | ⟨c, rest, rfl, hc, hrest⟩ | ⟨c, d, rest, rfl, hc, hd⟩
  · refine of_followText (k := base.schemeClass) hf base.place base.parentSegments fun t ht => ?_
    obtain ⟨c, rest, hmain, hc⟩ := hrelative t ht
    rw [readRelative_of_not_isAnySlash hmain hc]
    rfl
  · refine of_followText (k := base.schemeClass) hf.of_cons base.place [] fun t ht => ?_
    rw [readRelative_of_slash rfl hc (hrest t ht)]
    rfl
  · have hauthority : (if c = '/' ∧ d = '/' then rest else rest.dropWhile isAnySlash) <:+
        c :: d :: rest := by
      have hsuffix : rest <:+ c :: d :: rest :=
        (List.suffix_cons d rest).trans (List.suffix_cons c _)
      split_ifs
      · exact hsuffix
      · exact (List.dropWhile_suffix _).trans hsuffix
    refine (readAuthority (hf.suffix hauthority) base.scheme).congr fun t ht => ?_
    rw [List.cons_append, List.cons_append, readRelative_of_slashes rfl hc hd]
    split_ifs
    · rfl
    · rw [ht.dropWhile_append fun _ => isAnySlash_of_isAlphanum]

/-! ## Files -/

/-- Hosts of files that begin with the same front are read alike. -/
theorem readFileHost (hf : IsFront front) :
    Alike fun t => Url.readFileHost ⟨front ++ t, none, none⟩ := by
  by_cases hne : front = []
  · subst hne
    exact .fileHost fun _ _ => rfl
  · have htake (t : List Char) :
        (front ++ t).takeWhile (!isAnySlash ·) = front.takeWhile (!isAnySlash ·) :=
      hf.takeWhile_append (p := fun c => !isAnySlash c) hne rfl t
    have hdrop (t : List Char) :
        (front ++ t).drop ((front.takeWhile (!isAnySlash ·)).length + 1) =
          front.drop ((front.takeWhile (!isAnySlash ·)).length + 1) ++ t :=
      List.drop_append_of_le_length
        (hf.length_takeWhile_lt (p := fun c => !isAnySlash c) hne rfl)
    set hostText := front.takeWhile (!isAnySlash ·) with hhostText
    have hrest : IsFront (front.drop (hostText.length + 1)) := hf.suffix (List.drop_suffix _ _)
    set rest := front.drop (hostText.length + 1)
    have hplace (t : List Char) (ht : IsTail t) :
        (Url.readFileHost ⟨front ++ t, none, none⟩).map place =
          if isDrive hostText then .ok (filePlace .empty (followText .file [] (front ++ t)))
          else if hostText.isEmpty then .ok (filePlace .empty (followText .file [] (rest ++ t)))
          else (Host.parseDomain hostText).map fun host =>
            filePlace (keptFileHost host rest) (followText .file [] (rest ++ t)) := by
      rw [map_place_readFileHost]
      simp only [htake, hdrop, keptFileHost, startsWithDrive_append hrest ht]
    by_cases hdrive : isDrive hostText = true
    · exact of_filePlace hf .empty [] fun t ht => by rw [hplace t ht, if_pos hdrive]
    by_cases hempty : hostText.isEmpty = true
    · exact of_filePlace hrest .empty [] fun t ht => by
        rw [hplace t ht, if_neg hdrive, if_pos hempty]
    cases hparse : Host.parseDomain hostText with
    | error fault =>
      refine .still (.error fault) fun t ht => ?_
      rw [hplace t ht, if_neg hdrive, if_neg hempty, hparse]
      rfl
    | ok host =>
      refine of_filePlace hrest (keptFileHost host rest) [] fun t ht => ?_
      rw [hplace t ht, if_neg hdrive, if_neg hempty, hparse]
      rfl

/-- An absolute path is on the host or the drive of the base, or on a drive of its own. -/
theorem absolute (hf : IsFront front) (base : Option Url) (cut : List Char → Cut) :
    Alike fun t => .ok (readFile.absolute base (cut t) (front ++ t)) := by
  by_cases hdrive : startsWithDrive front = true
  · refine of_filePlace hf .empty [] fun t ht => ?_
    simp [readFile.absolute, startsWithDrive_append hf ht, hdrive, Except.map]
  cases hsegments : (base.map pathSegments).getD [] with
  | nil =>
    refine of_filePlace hf .empty [] fun t ht => ?_
    simp [readFile.absolute, startsWithDrive_append hf ht, hdrive, hsegments, Except.map]
  | cons first later =>
    by_cases hfirst : isPlainDrive first = true
    · refine of_filePlace hf .empty [first] fun t ht => ?_
      simp [readFile.absolute, startsWithDrive_append hf ht, hdrive, hsegments, hfirst, Except.map]
    · refine of_filePlace hf ((base.bind (·.host)).getD .empty) [] fun t ht => ?_
      simp [readFile.absolute, startsWithDrive_append hf ht, hdrive, hsegments, hfirst, Except.map]

/-- References to files that begin with the same front are read alike. -/
theorem readFile (hf : IsFront front) (base : Option Url) :
    Alike fun t => Url.readFile base ⟨front ++ t, none, none⟩ := by
  rcases leading_cases front with hrelative | ⟨c, rest, rfl, hc, hrest⟩ | ⟨c, d, rest, rfl, hc, hd⟩
  · -- A relative path starts on its own drive, or at the base.
    cases base with
    | none =>
      refine of_filePlace hf .empty [] fun t ht => ?_
      obtain ⟨c, rest, hmain, hc⟩ := hrelative t ht
      rw [readFile_of_not_isAnySlash hmain hc]
      rfl
    | some base =>
      by_cases hdrive : startsWithDrive front = true
      · refine of_filePlace hf .empty [] fun t ht => ?_
        obtain ⟨c, rest, hmain, hc⟩ := hrelative t ht
        rw [readFile_of_not_isAnySlash hmain hc]
        simp [startsWithDrive_append hf ht, hdrive, Except.map]
      · refine of_followText (k := .file) hf base.place base.parentSegments fun t ht => ?_
        obtain ⟨c, rest, hmain, hc⟩ := hrelative t ht
        rw [readFile_of_not_isAnySlash hmain hc]
        simp [startsWithDrive_append hf ht, hdrive, Except.map]
  · refine (absolute hf.of_cons base fun t => ⟨c :: rest ++ t, none, none⟩).congr fun t ht => ?_
    rw [readFile_of_slash rfl hc (hrest t ht)]
  · refine (readFileHost hf.of_cons.of_cons).congr fun t _ => ?_
    rw [readFile_of_slashes rfl hc hd]
    rfl

/-! ## Other schemes -/

/-- References of schemes that are not special are read alike after the same front. -/
theorem readOther (hf : IsFront front) (scheme : List Char) :
    Alike fun t => Url.readOther scheme ⟨front ++ t, none, none⟩ := by
  -- Without a slash in front the text is kept as it is.
  have hflat (h : ∀ t, IsTail t → ∃ c rest, front ++ t = c :: rest ∧ c ≠ '/') :
      Alike fun t => Url.readOther scheme ⟨front ++ t, none, none⟩ := by
    refine .extended ⟨scheme, none, none, encode .control front⟩ fun t ht => ?_
    obtain ⟨c, rest, hmain, hc⟩ := h t ht
    have hread : Url.readOther scheme ⟨front ++ t, none, none⟩ = .ok
        { scheme, username := [], password := [], host := none, port := none
          path := .flat (encode .control (front ++ t)), query := none, fragment := none } := by
      simp [Url.readOther, hmain, hc, Cut.keptQuery, Cut.keptFragment]
    rw [hread, encode, List.flatMap_append, ← encode, ← encode, ht.encode_control]
    rfl
  cases front with
  | nil =>
    refine hflat fun t ht => ?_
    obtain ⟨c, cs, rfl, hc⟩ := ht.first
    exact ⟨c, cs, rfl, ne_of_isAlphanum hc rfl⟩
  | cons c front =>
    by_cases hc : c = '/'
    · subst hc
      cases front with
      | nil =>
        refine of_followText (k := .other) hf.of_cons ⟨scheme, none, none, []⟩ [] fun t ht => ?_
        obtain ⟨d, cs, rfl, hd⟩ := ht.first
        have hslash : d ≠ '/' := ne_of_isAlphanum hd rfl
        simp [Url.readOther, hslash, Except.map, place]
      | cons d front =>
        by_cases hd : d = '/'
        · subst hd
          exact readAuthority hf.of_cons.of_cons scheme
        · refine of_followText (k := .other) hf.of_cons ⟨scheme, none, none, []⟩ [] fun t _ => ?_
          simp [Url.readOther, hd, Except.map, place]
    · exact hflat fun t _ => ⟨c, front ++ t, rfl, hc⟩

/-! ## All references -/

/-- Slashes before an authority make no difference to this. -/
theorem withAuthority (hf : IsFront front) (scheme : List Char) :
    Alike fun t => Url.readAuthority scheme
      ⟨(front ++ t).dropWhile isAnySlash, none, none⟩ :=
  (readAuthority (hf.suffix (List.dropWhile_suffix isAnySlash)) scheme).congr fun t ht => by
    rw [ht.dropWhile_append fun _ => isAnySlash_of_isAlphanum]

/-- A network scheme leads to an authority, or back to a base of its own scheme. -/
theorem readAfterScheme (hf : IsFront front) (base : Option Url) (scheme : List Char) :
    Alike fun t => Url.readAfterScheme base scheme (front ++ t) := by
  unfold Url.readAfterScheme
  simp only []
  cases SchemeClass.of scheme with
  | file => exact of_cut (fun _ _ h => h.readFile _) (readFile hf _)
  | other => exact of_cut (fun _ _ h => h.readOther _) (readOther hf _)
  | network port =>
    have hlike (c c' : Cut) (h : c.Like c') :
        (Url.readAuthority scheme { c with main := c.main.dropWhile isAnySlash }).map place =
          (Url.readAuthority scheme
            { c' with main := c'.main.dropWhile isAnySlash }).map place := by
      rw [← h.main]
      exact (h.withMain _).readAuthority scheme
    cases base.filter (·.scheme == scheme) with
    | none => exact of_cut hlike (withAuthority hf scheme)
    | some base =>
      refine @of_cut front (fun cut =>
        if (cut.main.takeWhile isAnySlash).length < 2 then Url.readRelative base cut
        else Url.readAuthority scheme { cut with main := cut.main.dropWhile isAnySlash })
        (fun c c' h => ?_) ?_
      · rw [h.main]
        split_ifs
        · exact h.readRelative base
        · exact h.main ▸ hlike c c' h
      · -- How many slashes lead does not depend on the tail.
        have htake {t : List Char} (ht : IsTail t) :=
          ht.takeWhile_append (fun _ => isAnySlash_of_isAlphanum) front
        by_cases hfew : (front.takeWhile isAnySlash).length < 2
        · exact (readRelative hf base).congr fun t ht => by simp only [htake ht, if_pos hfew]
        · exact (withAuthority hf scheme).congr fun t ht => by simp only [htake ht, if_neg hfew]

/-- References with one front that are read relative to a URL with a hierarchy are alike. -/
theorem join (hf : IsFront front) {base : Url} (hbase : base.isFlat = false) :
    Alike fun t => base.join (String.ofList (front ++ t)) := by
  have hcleaned : IsFront ((front.dropWhile isOuter).filter (!isBreak ·)) :=
    (hf.suffix (List.dropWhile_suffix _)).filter rfl
  set cleanedFront := (front.dropWhile isOuter).filter (!isBreak ·) with hdef
  have hread {t : List Char} (ht : IsTail t) :
      cleaned (String.ofList (front ++ t)).toList = cleanedFront ++ t := by
    rw [String.toList_ofList, cleaned_append ht, hdef]
  cases hscheme : cutScheme? cleanedFront with
  | some x =>
    refine (readAfterScheme (hcleaned.of_cutScheme? hscheme) (some base) x.1).congr fun t ht => ?_
    rw [Url.join, read]
    simp only [hread ht, cutScheme?_append hcleaned ht, hscheme, Option.map_some]
  | none =>
    by_cases hfile : base.schemeClass = .file
    · refine (of_cut (fun _ _ h => h.readFile (some base)) (readFile hcleaned _)).congr
        fun t ht => ?_
      rw [Url.join, read]
      simp only [hread ht, cutScheme?_append hcleaned ht, hscheme, Option.map_none, hbase,
        Bool.false_eq_true, if_false, if_pos hfile]
    · refine (of_cut (fun _ _ h => h.readRelative base) (readRelative hcleaned _)).congr
        fun t ht => ?_
      rw [Url.join, read]
      simp only [hread ht, cutScheme?_append hcleaned ht, hscheme, Option.map_none, hbase,
        Bool.false_eq_true, if_false, if_neg hfile]

end Alike

end ArchiveDesk.Url
