import ArchiveDesk.Proofs.Url.Alike

/-!
# References that lead below a place

Two tails decide for all of them whether a front leads below a place. They must begin
differently, so that the place is not reached by the tail itself, and they must name different
hosts, so that it is not reached because the tail happens to name the host of the place.
-/

namespace ArchiveDesk.Url

/-- There is a result, and it leads below the place. -/
def LeadsBelow {ε : Type} (result : Except ε Url) (root : Place) : Prop :=
  ∃ u, result = .ok u ∧ u.place.Below root

/-- Whether a result leads below a place depends on its own place alone. -/
theorem leadsBelow_iff_map {ε : Type} {result : Except ε Url} {root : Place} :
    LeadsBelow result root ↔ ∃ p, result.map place = .ok p ∧ p.Below root := by
  cases result with
  | error fault => simp [LeadsBelow, Except.map]
  | ok u => simp [LeadsBelow, Except.map]

/-- A result that is found as an option is a result. -/
theorem eq_ok_of_toOption {ε α : Type} {result : Except ε α} {a : α}
    (h : result.toOption = some a) : result = .ok a := by
  cases result with
  | error fault => simp [Except.toOption] at h
  | ok b => simpa [Except.toOption] using h

/-! ## Tails that name hosts -/

/-- The tail names this host where an authority is read. -/
structure NamesHost (t : List Char) (host : Host) : Prop where
  authority : ∀ scheme p, (readAuthority scheme ⟨t, none, none⟩).map place = .ok p →
    p.host = some host
  file : ∀ p, (readFileHost ⟨t, none, none⟩).map place = .ok p → p.host = some host

/-- Letters and digits hold no colon that precedes a port. -/
theorem hostPart_of_isAlphanum {cs : List Char} (h : ∀ c ∈ cs, c.isAlphanum = true)
    (inBrackets : Bool) : hostPart inBrackets cs = cs := by
  induction cs generalizing inBrackets with
  | nil => rfl
  | cons c cs ih =>
    have hcolon : c ≠ ':' := ne_of_isAlphanum (h c (by simp)) rfl
    simp [hostPart, hcolon, ih fun d hd => h d (by simp [hd])]

/-- Letters and digits are a name of a host of their own. -/
theorem parseName_of_isAlphanum {first : List Char} (h : ∀ c ∈ first, c.isAlphanum = true)
    (hne : first ≠ []) : Host.parseName first = .ok (.name first) := by
  obtain ⟨c, cs, rfl⟩ := List.exists_cons_of_ne_nil hne
  have hkept : encode .control (c :: cs) = c :: cs :=
    IsTail.encode_control ⟨⟨c, cs, rfl, h c (by simp)⟩, fun d hd => .inl (h d hd)⟩
  have hallowed : (c :: cs).any Host.isForbidden = false := by
    rw [List.any_eq_false]
    intro d hd
    have hne {sign : Char} (hsign : sign.isAlphanum = false) : d ≠ sign :=
      ne_of_isAlphanum (h d hd) hsign
    simp only [Host.isForbidden, List.contains_cons, List.contains_nil, Bool.or_eq_true,
      beq_iff_eq, Bool.false_eq_true, or_false, not_or]
    and_intros <;> exact hne rfl
  unfold Host.parseName
  split
  · contradiction
  · rename_i heq
    obtain ⟨rfl, -⟩ := List.cons.inj heq
    exact absurd (h '[' (by simp)) (by decide)
  · rw [if_neg (by simp [hallowed]), hkept]

/-- An authority of letters and digits is a host, if it is a domain name. -/
theorem Authority.read_of_domain {first : List Char} (halnum : ∀ c ∈ first, c.isAlphanum = true)
    (hne : first ≠ []) (hdomain : Host.parseDomain first = .ok (.name first)) (k : SchemeClass)
    (goesOn : Bool) :
    Authority.read k first goesOn = .ok (⟨[], [], .name first, none⟩, []) := by
  have hhostText : (first.reverse.takeWhile (· != '@')).reverse = first := by
    rw [List.takeWhile_eq_self_iff.mpr, List.reverse_reverse]
    intro c hc
    exact bne_iff_ne.mpr (ne_of_isAlphanum (halnum c (List.mem_reverse.mp hc)) rfl)
  have hread : readHostAndPort k first = .ok (.name first, none, []) := by
    unfold readHostAndPort
    simp [hostPart_of_isAlphanum halnum, hne, hdomain, parseName_of_isAlphanum halnum hne,
      pure, Except.pure, bind, Except.bind]
  unfold Authority.read
  simp [hhostText, hread, cutAt, encode, pure, Except.pure, bind, Except.bind]

/-- The first segment of a tail is the host that it names, if it is a domain name other than
`localhost`. -/
theorem namesHost_of_domain {first rest : List Char} (halnum : ∀ c ∈ first, c.isAlphanum = true)
    (hne : first ≠ []) (hdomain : Host.parseDomain first = .ok (.name first))
    (hlocal : first ≠ "localhost".toList) (hrest : startsWithDrive rest = false) :
    NamesHost (first ++ '/' :: rest) (.name first) := by
  constructor
  · intro scheme p hp
    set k := SchemeClass.of scheme with hk
    have hfront : ∀ c ∈ first, (!k.isSlash c) = true := by
      intro c hc
      have hslash : c ≠ '/' ∧ c ≠ '\\' :=
        ⟨ne_of_isAlphanum (halnum c hc) rfl, ne_of_isAlphanum (halnum c hc) rfl⟩
      simp [SchemeClass.isSlash, hslash]
    have hhostText : (first ++ '/' :: rest).takeWhile (!k.isSlash ·) = first := by
      rw [List.takeWhile_append_of_pos hfront]
      simp [SchemeClass.isSlash]
    rw [map_place_readAuthority, ← hk] at hp
    simp only [hhostText, Authority.read_of_domain halnum hne hdomain, Except.map,
      Except.ok.injEq] at hp
    exact hp ▸ rfl
  · intro p hp
    have hfront : ∀ c ∈ first, (!isAnySlash c) = true := by
      intro c hc
      simp [isAnySlash_of_isAlphanum (halnum c hc)]
    have hhostText : (first ++ '/' :: rest).takeWhile (!isAnySlash ·) = first := by
      rw [List.takeWhile_append_of_pos hfront]
      simp [isAnySlash]
    have hdrop : (first ++ '/' :: rest).drop (first.length + 1) = rest := by
      rw [← List.drop_drop, List.drop_left]
      rfl
    have hnot {sign : Char} (hsign : sign.isAlphanum = false) : sign ∉ first := fun hmem =>
      ne_of_isAlphanum (halnum sign hmem) hsign rfl
    have hdrive : isDrive first = false := isDrive_of_not_mem (hnot rfl) (hnot rfl)
    have hkept : keptFileHost (.name first) rest = .name first := by
      simpa [keptFileHost, hrest] using hlocal
    rw [map_place_readFileHost] at hp
    simp only [hhostText, hdrop, hdrive, hdomain, hkept, Bool.false_eq_true, if_false,
      List.isEmpty_eq_false_iff.mpr hne, Except.map, Except.ok.injEq] at hp
    exact hp ▸ rfl

/-! ## Two tails decide -/

/-- What begins two texts that differ after a front begins the front. -/
theorem prefix_of_prefix_append {root front r r' : List Char} {c d : Char}
    (h : root <+: front ++ c :: r) (h' : root <+: front ++ d :: r') (hne : c ≠ d) :
    root <+: front := by
  rcases List.prefix_or_prefix_of_prefix h (List.prefix_append front _) with hroot | ⟨more, rfl⟩
  · exact hroot
  · rw [List.prefix_append_right_inj] at h h'
    cases more with
    | nil => simp
    | cons e more =>
      exact absurd ((List.cons_prefix_cons.mp h).1.symm.trans (List.cons_prefix_cons.mp h').1) hne

/-- Alike readings all lead below a place if those of two tails do that begin differently and name
different hosts. -/
theorem Alike.leadsBelow_iff {reading : List Char → Except UrlFault Url} (halike : Alike reading)
    {root : Place} {a b : List Char} {hostA hostB : Host} (ha : IsTail a) (hb : IsTail b)
    (hfirst : a.head? ≠ b.head?) (hhostA : NamesHost a hostA) (hhostB : NamesHost b hostB)
    (hhosts : hostA ≠ hostB) :
    (∀ t, IsTail t → LeadsBelow (reading t) root) ↔
      LeadsBelow (reading a) root ∧ LeadsBelow (reading b) root := by
  refine ⟨fun h => ⟨h a ha, h b hb⟩, fun ⟨hbelowA, hbelowB⟩ t ht => ?_⟩
  rw [leadsBelow_iff_map] at *
  obtain ⟨pa, hpa, hbelowA⟩ := hbelowA
  obtain ⟨pb, hpb, hbelowB⟩ := hbelowB
  cases halike with
  | still result h =>
    exact ⟨pa, by rw [h t ht, ← h a ha, hpa], hbelowA⟩
  | extended p h =>
    rw [h a ha, Except.ok.injEq] at hpa
    rw [h b hb, Except.ok.injEq] at hpb
    subst hpa hpb
    refine ⟨p.extend t, h t ht, ⟨hbelowA.scheme, hbelowA.host, hbelowA.port, ?_⟩⟩
    obtain ⟨c, r, rfl, -⟩ := ha.first
    obtain ⟨d, r', rfl, -⟩ := hb.first
    have hne : c ≠ d := by simpa using hfirst
    exact (prefix_of_prefix_append hbelowA.path hbelowB.path hne).trans (List.prefix_append _ _)
  | authority scheme h =>
    rw [h a ha] at hpa
    rw [h b hb] at hpb
    refine absurd (Option.some.inj ?_) hhosts
    rw [← hhostA.authority _ _ hpa, ← hhostB.authority _ _ hpb, hbelowA.host, hbelowB.host]
  | fileHost h =>
    rw [h a ha] at hpa
    rw [h b hb] at hpb
    refine absurd (Option.some.inj ?_) hhosts
    rw [← hhostA.file _ hpa, ← hhostB.file _ hpb, hbelowA.host, hbelowB.host]

end ArchiveDesk.Url
