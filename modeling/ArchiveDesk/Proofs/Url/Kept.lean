import ArchiveDesk.Proofs.Url.Percent
import ArchiveDesk.Proofs.Url.Relative

/-!
# Paths that have been read

The segments of a URL of the network hold no slash and are no dots, and nothing in them is encoded
once more. So the text of its path is read as the same path again, also where the path is first
completed by a slash.
-/

namespace ArchiveDesk.Url

/-! ## What an encoded text holds -/

/-- The signs of an encoded byte. -/
def byteSigns : List Char := '%' :: "0123456789ABCDEF".toList

private theorem upperHex_mem (n : Nat) : upperHex n ∈ "0123456789ABCDEF".toList := by
  have hdigits : ∀ m < 16, (Nat.digitChar m).toUpper ∈ "0123456789ABCDEF".toList := by
    decide +kernel
  exact hdigits (n % 16) (Nat.mod_lt n (by decide))

/-- Only characters that stand for themselves and the signs of encoded bytes are left. -/
theorem mem_encode {set : EncodeSet} {cs : List Char} {c : Char} (h : c ∈ encode set cs) :
    c ∈ cs ∧ set c = false ∨ c ∈ byteSigns := by
  obtain ⟨d, hd, hc⟩ := List.mem_flatMap.mp h
  unfold encodeChar at hc
  split_ifs at hc with hset
  · right
    obtain ⟨b, -, hb⟩ := List.mem_flatMap.mp hc
    rw [byteSigns, List.mem_cons]
    rcases List.mem_cons.mp hb with rfl | hdigit
    · exact .inl rfl
    · rcases List.mem_pair.mp hdigit with rfl | rfl
      · exact .inr (upperHex_mem _)
      · exact .inr (upperHex_mem _)
  · obtain rfl := List.mem_singleton.mp hc
    exact .inl ⟨hd, by simpa using hset⟩

/-- Nothing in an encoded text is encoded once more. -/
theorem encode_encode (cs : List Char) : encode .path (encode .path cs) = encode .path cs := by
  refine encode_eq_self fun c hc => ?_
  rcases mem_encode hc with ⟨-, hset⟩ | hsign
  · exact hset
  · have hsigns : byteSigns.all (!EncodeSet.path ·) = true := by decide
    simpa using List.all_eq_true.mp hsigns c hsign

/-! ## Dots are not encoded -/

private theorem byte_eq_of_dot {n : Nat} (h : n < 256)
    (hlower : [(upperHex (n / 16)).toLower, (upperHex n).toLower] = ['2', 'e']) :
    n = '.'.toNat := by
  have hbytes : ∀ n < 256,
      [(upperHex (n / 16)).toLower, (upperHex n).toLower] = ['2', 'e'] → n = '.'.toNat := by
    decide +kernel
  exact hbytes n h hlower

/-- Only the dot has a byte of the dot. -/
theorem eq_dot_of_utf8EncodeChar {c : Char} {bs : List UInt8}
    (h : String.utf8EncodeChar c = 0x2E :: bs) : c = '.' := by
  have hdot : String.utf8EncodeChar '.' = [0x2E] := by decide
  have hsame : String.utf8EncodeChar c ++ [] = String.utf8EncodeChar '.' ++ bs := by
    rw [List.append_nil, h, hdot, List.singleton_append]
  rcases lt_trichotomy c '.' with hlt | heq | hgt
  · exact absurd (hsame ▸ Text.utf8EncodeChar_append_lt hlt [] bs) (List.lt_irrefl _)
  · exact heq
  · exact absurd (hsame ▸ Text.utf8EncodeChar_append_lt hgt bs []) (List.lt_irrefl _)

/-- An encoded character begins with a byte that is no dot. -/
theorem exists_encodeChar {c : Char} (h : EncodeSet.path c = true) :
    ∃ x y rest, (encodeChar .path c).map Char.toLower = '%' :: x :: y :: rest ∧
      [x, y] ≠ ['2', 'e'] := by
  obtain ⟨b, bs, hbytes⟩ := List.exists_cons_of_ne_nil (String.utf8EncodeChar_ne_nil (c := c))
  refine ⟨(upperHex (b.toNat / 16)).toLower, (upperHex b.toNat).toLower,
    (bs.flatMap encodeByte).map Char.toLower, ?_, fun hlower => ?_⟩
  · rw [encodeChar, if_pos h, bytes_singleton, hbytes]
    rfl
  · obtain rfl : b = 0x2E := UInt8.toNat_inj.mp (byte_eq_of_dot b.toNat_lt hlower)
    obtain rfl := eq_dot_of_utf8EncodeChar hbytes
    exact absurd h (by decide)

/-- The texts of dots in lower case. -/
def dotTexts : List (List Char) :=
  [".", "%2e", "..", ".%2e", "%2e.", "%2e%2e"].map String.toList

/-- A segment that is no name is a text of dots in lower case. -/
theorem map_toLower_mem_dotTexts {segment : List Char} (h : ¬ IsName segment) :
    segment.map Char.toLower ∈ dotTexts := by
  by_contra hnot
  refine h ⟨?_, ?_⟩
  · rw [← Bool.not_eq_true]
    intro hdot
    refine hnot ?_
    rcases (Bool.or_eq_true _ _).mp hdot with heq | heq
    · obtain rfl := eq_of_beq heq
      decide
    · rw [eq_of_beq heq]
      decide
  · rw [← Bool.not_eq_true]
    intro hdot
    refine hnot ?_
    simp only [isDoubleDot, Bool.or_eq_true, beq_iff_eq] at hdot
    rcases hdot with ((heq | heq) | heq) | heq <;> rw [heq] <;> decide

/-- All bytes that are encoded in dots are dots. -/
theorem eq_of_mem_dotTexts {text front rest : List Char} {x y : Char} (h : text ∈ dotTexts)
    (heq : text = front ++ '%' :: x :: y :: rest) : [x, y] = ['2', 'e'] := by
  have hinfix : ['%', x, y] <:+: text := ⟨front, rest, by simp [heq]⟩
  clear heq
  simp only [dotTexts, List.map_cons, List.map_nil, List.mem_cons, List.not_mem_nil, or_false] at h
  rcases h with rfl | rfl | rfl | rfl | rfl | rfl <;>
    simp_all [List.infix_cons_iff, List.cons_prefix_cons]

/-- A name is encoded as a name. -/
theorem IsName.encode {segment : List Char} (h : IsName segment) :
    IsName (Url.encode .path segment) := by
  by_cases hset : ∀ c ∈ segment, EncodeSet.path c = false
  · rwa [encode_eq_self hset]
  · obtain ⟨c, hc, hencoded⟩ : ∃ c ∈ segment, EncodeSet.path c = true := by simpa using hset
    obtain ⟨front, rest, rfl⟩ := List.append_of_mem hc
    obtain ⟨x, y, more, hchar, hne⟩ := exists_encodeChar hencoded
    have hsplit : (Url.encode .path (front ++ c :: rest)).map Char.toLower =
        (Url.encode .path front).map Char.toLower ++
          '%' :: x :: y :: (more ++ (Url.encode .path rest).map Char.toLower) := by
      simp [Url.encode, hchar]
    -- If the result were dots, all bytes that are encoded in it would be dots.
    by_contra hnot
    exact hne (eq_of_mem_dotTexts (map_toLower_mem_dotTexts hnot) hsplit)

/-! ## Segments that are kept -/

/-- A segment of a path that has been read. -/
structure IsKept (segment : List Char) : Prop where
  no_slash : ∀ c ∈ segment, isAnySlash c = false
  isName : IsName segment
  encoded : encode .path segment = segment

/-- The empty segment is kept. -/
theorem isKept_nil : IsKept [] := ⟨by simp, by decide, rfl⟩

/-- A name without slashes is kept once it is encoded. -/
theorem IsName.isKept_encode {segment : List Char} (h : IsName segment)
    (hslash : ∀ c ∈ segment, isAnySlash c = false) : IsKept (Url.encode .path segment) where
  no_slash c hc := by
    rcases mem_encode hc with ⟨hmem, -⟩ | hsign
    · exact hslash c hmem
    · have hsigns : byteSigns.all (!isAnySlash ·) = true := by decide
      simpa using List.all_eq_true.mp hsigns c hsign
  isName := h.encode
  encoded := encode_encode segment

variable {k : SchemeClass} {path segments : List (List Char)}

/-- Going up leaves segments that are kept. -/
theorem isKept_goUp (h : ∀ segment ∈ path, IsKept segment) :
    ∀ segment ∈ goUp path, IsKept segment := by
  intro segment hs
  unfold goUp at hs
  split at hs
  · split_ifs at hs
    · exact h segment hs
    · exact h segment (List.dropLast_subset _ hs)
  · exact h segment hs

/-- One more segment that is kept may be added. -/
theorem isKept_concat (h : ∀ segment ∈ path, IsKept segment) {last : List Char}
    (hlast : IsKept last) : ∀ segment ∈ path ++ [last], IsKept segment := by
  intro segment hs
  rcases List.mem_append.mp hs with hmem | hmem
  · exact h segment hmem
  · obtain rfl := List.mem_singleton.mp hmem
    exact hlast

/-- A segment is a name if it is neither a dot nor a double dot. -/
theorem isName_iff {segment : List Char} :
    IsName segment ↔ isDoubleDot segment ≠ true ∧ isDot segment ≠ true := by
  simp only [ne_eq, Bool.not_eq_true]
  exact ⟨fun h => ⟨h.not_doubleDot, h.not_dot⟩, fun ⟨hdouble, hdot⟩ => ⟨hdot, hdouble⟩⟩

/-- Passing a segment leaves a path of kept segments. -/
theorem isKept_pass (hk : k ≠ .file) (h : ∀ segment ∈ path, IsKept segment) {segment : List Char}
    (hslash : ∀ c ∈ segment, isAnySlash c = false) : ∀ s ∈ pass k path segment, IsKept s := by
  unfold pass
  split_ifs with hdouble hdot
  · exact isKept_goUp h
  · exact h
  · rw [keptSegment_of_ne_file hk]
    exact isKept_concat h ((isName_iff.mpr ⟨hdouble, hdot⟩).isKept_encode hslash)

/-- Walking segments without slashes leaves segments that are kept. -/
theorem isKept_walk (hk : k ≠ .file) (h : ∀ segment ∈ path, IsKept segment)
    (hslash : ∀ segment ∈ segments, ∀ c ∈ segment, isAnySlash c = false) :
    ∀ s ∈ walk k path segments, IsKept s := by
  induction segments generalizing path with
  | nil => exact h
  | cons segment segments ih =>
    refine ih (isKept_pass hk h (hslash segment List.mem_cons_self)) fun s hs => ?_
    exact hslash s (List.mem_cons_of_mem _ hs)

/-- Following segments without slashes leaves segments that are kept. -/
theorem isKept_follow (hk : k ≠ .file) (h : ∀ segment ∈ path, IsKept segment)
    (hslash : ∀ segment ∈ segments, ∀ c ∈ segment, isAnySlash c = false) :
    ∀ s ∈ follow k path segments, IsKept s := by
  rcases List.eq_nil_or_concat' segments with rfl | ⟨earlier, last, rfl⟩
  · exact h
  · have hwalk := isKept_walk hk h fun s hs => hslash s (List.mem_append_left _ hs)
    rw [follow_concat]
    split_ifs with hdouble hdot
    · exact isKept_concat (isKept_goUp hwalk) isKept_nil
    · exact isKept_concat hwalk isKept_nil
    · rw [keptSegment_of_ne_file hk]
      exact isKept_concat hwalk
        ((isName_iff.mpr ⟨hdouble, hdot⟩).isKept_encode (hslash last (by simp)))

/-! ## Paths of the network -/

variable {port : Nat}

/-- For the schemes of the network both slashes count. -/
theorem isSlash_network (c : Char) : (SchemeClass.network port).isSlash c = isAnySlash c := by
  simp [SchemeClass.isSlash, SchemeClass.isSpecial, isAnySlash]

/-- The path after an authority is made of segments that are kept. -/
theorem isKept_pathAfterAuthority (cs : List Char) :
    ∀ s ∈ pathAfterAuthority (.network port) cs, IsKept s := by
  have hfollowed (cs : List Char) : ∀ s ∈ followText (.network port) [] cs, IsKept s := by
    rw [followText, if_neg (by simp)]
    refine isKept_follow (by simp) (by simp) fun segment hs c hc => ?_
    rw [← isSlash_network]
    exact (Text.mem_of_mem_pieces hs hc).2
  unfold pathAfterAuthority
  split
  · intro s hs
    obtain rfl := List.mem_singleton.mp hs
    exact isKept_nil
  · split_ifs
    · exact hfollowed _
    · exact hfollowed _

/-- All segments of a URL of the network are kept ones. -/
theorem isKept_of_parse {text : String} {u : Url} (h : parse text = .ok u)
    (hk : u.schemeClass = .network port) :
    ∃ list, u.path = .segments list ∧ ∀ segment ∈ list, IsKept segment := by
  rw [parse, read] at h
  cases hscheme : cutScheme? (cleaned text.toList) with
  | none => simp [hscheme] at h
  | some x =>
    obtain ⟨scheme, rest⟩ := x
    simp only [hscheme, readAfterScheme, Option.filter_none] at h
    cases hclass : SchemeClass.of scheme with
    | file =>
      have hfile : u.schemeClass = .file := by
        rw [schemeClass, scheme_of_readFile (by simpa [hclass] using h)]
        decide
      rw [hk] at hfile
      contradiction
    | network port =>
      simp only [hclass, readAuthority, bind, Except.bind, pure, Except.pure] at h
      split at h
      · contradiction
      · cases h
        exact ⟨_, rfl, isKept_pathAfterAuthority _⟩
    | other =>
      rw [schemeClass, scheme_of_readOther (by simpa [hclass] using h), hclass] at hk
      contradiction

/-! ## Reading a path again -/

variable {list : List (List Char)}

/-- Segments that are kept are added as they are. -/
theorem walk_of_isKept (hk : k ≠ .file) (h : ∀ segment ∈ list, IsKept segment)
    (path : List (List Char)) : walk k path list = path ++ list := by
  induction list generalizing path with
  | nil => simp [walk]
  | cons segment list ih =>
    have hsegment := h segment List.mem_cons_self
    have hpass : pass k path segment = path ++ [segment] := by
      rw [pass, keptSegment_of_ne_file hk, hsegment.encoded]
      simp [hsegment.isName.not_dot, hsegment.isName.not_doubleDot]
    rw [walk, List.foldl_cons, ← walk, hpass, ih fun s hs => h s (List.mem_cons_of_mem _ hs),
      List.append_assoc, List.singleton_append]

/-- Kept segments are followed one by one, and are kept again. -/
theorem follow_of_isKept (hk : k ≠ .file) (h : ∀ segment ∈ list, IsKept segment)
    (path : List (List Char)) : follow k path list = path ++ list := by
  rcases List.eq_nil_or_concat' list with rfl | ⟨front, last, rfl⟩
  · simp [follow]
  · have hlast := h last (by simp)
    rw [follow_concat, walk_of_isKept hk fun s hs => h s (List.mem_append_left _ hs),
      keptSegment_of_ne_file hk, hlast.encoded]
    simp [hlast.isName.not_dot, hlast.isName.not_doubleDot]

/-- The text of a path is read as that path. -/
theorem pathAfterAuthority_chars (hne : list ≠ []) (h : ∀ segment ∈ list, IsKept segment) :
    pathAfterAuthority (.network port) (Path.segments list).chars = list := by
  have hpieces : Text.pieces (SchemeClass.network port).isSlash (Path.segments list).chars =
      [] :: list :=
    Text.pieces_flatMap (by simp [SchemeClass.isSlash]) fun segment hs c hc =>
      (isSlash_network c).trans ((h segment hs).no_slash c hc)
  obtain ⟨segment, rest, rfl⟩ := List.exists_cons_of_ne_nil hne
  have hchars : (Path.segments (segment :: rest)).chars =
      '/' :: (segment ++ (Path.segments rest).chars) := rfl
  have hslash : (SchemeClass.network port).isSlash '/' = true := by simp [SchemeClass.isSlash]
  rw [hchars, Text.pieces, if_pos hslash, List.cons.injEq] at hpieces
  -- The slash in front of the path is not part of the text that is followed.
  have hfollowed : followText (.network port) [] (segment ++ (Path.segments rest).chars) =
      segment :: rest := by
    rw [followText, if_neg (by simp), hpieces.2, follow_of_isKept (by simp) h, List.nil_append]
  rw [hchars, pathAfterAuthority, if_pos hslash, hfollowed]

/-- The URL with the path that a text is read as. -/
def setPath (u : Url) (cs : List Char) : Url :=
  { u with path := .segments (pathAfterAuthority u.schemeClass cs) }

/-- The text of a path, completed by a slash unless it ends in one. -/
def completed (cs : List Char) : List Char := if cs.getLast? = some '/' then cs else cs ++ ['/']

/-- A path ends in a slash if and only if its last segment is empty. -/
theorem getLast?_chars_iff (h : ∀ segment ∈ list, IsKept segment) :
    (Path.segments list).chars.getLast? = some '/' ↔ list.getLast? = some [] := by
  rcases List.eq_nil_or_concat' list with rfl | ⟨front, last, rfl⟩
  · simp [Path.chars]
  · have hchars : (Path.segments (front ++ [last])).chars =
        (Path.segments front).chars ++ '/' :: last := by simp [Path.chars]
    rw [hchars, List.getLast?_append_of_ne_nil _ (List.cons_ne_nil _ _), List.getLast?_concat]
    cases last with
    | nil => simp
    | cons c cs =>
      have hlast := (h (c :: cs) (by simp)).no_slash _ (List.getLast_mem (List.cons_ne_nil c cs))
      rw [List.getLast?_cons_cons, List.getLast?_eq_some_getLast (List.cons_ne_nil c cs)]
      simp only [Option.some.injEq, reduceCtorEq, iff_false]
      intro heq
      rw [heq] at hlast
      exact absurd hlast (by decide)

/-- The text of a directory. -/
theorem chars_asDirectory {u : Url} (hpath : u.path = .segments list)
    (h : ∀ segment ∈ list, IsKept segment) :
    u.asDirectory.path.chars = completed u.path.chars := by
  simp only [completed, asDirectory, hpath, getLast?_chars_iff h]
  split_ifs
  · rw [hpath]
  · simp [Path.chars]

end ArchiveDesk.Url
