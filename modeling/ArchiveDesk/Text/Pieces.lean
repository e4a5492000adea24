/-!
# Cutting a text into pieces

A text is cut at every character of a chosen kind; the cutting characters are
left out. There is always at least one piece.
-/

namespace ArchiveDesk.Text

/-- The pieces between the characters that satisfy `cut`. -/
def pieces (cut : Char → Bool) : List Char → List (List Char)
  | [] => [[]]
  | c :: cs =>
    if cut c then [] :: pieces cut cs
    else match pieces cut cs with
      | [] => [[c]]
      | p :: ps => (c :: p) :: ps

/-- A text has at least one piece. -/
theorem pieces_ne_nil (cut : Char → Bool) (cs : List Char) : pieces cut cs ≠ [] := by
  cases cs with
  | nil => simp [pieces]
  | cons c cs =>
    simp only [pieces]
    split
    · simp
    · split <;> simp

/-- Cuts that agree on the characters of a text give the same pieces. -/
theorem pieces_congr {cut cut' : Char → Bool} {cs : List Char} (h : ∀ c ∈ cs, cut c = cut' c) :
    pieces cut cs = pieces cut' cs := by
  induction cs with
  | nil => rfl
  | cons c cs ih => simp only [pieces, h c (by simp), ih fun d hd => h d (by simp [hd])]

/-- A text without a cutting character is its own only piece. -/
theorem pieces_eq_singleton {cut : Char → Bool} {cs : List Char}
    (h : ∀ c ∈ cs, cut c = false) : pieces cut cs = [cs] := by
  induction cs with
  | nil => rfl
  | cons c cs ih =>
    simp [pieces, h c (by simp), ih (fun d hd => h d (by simp [hd]))]

/-- At a cutting character the pieces of both sides meet. -/
theorem pieces_append {cut : Char → Bool} {c : Char} (hc : cut c = true) (front rest : List Char) :
    pieces cut (front ++ c :: rest) = pieces cut front ++ pieces cut rest := by
  induction front with
  | nil => simp [pieces, hc]
  | cons d front ih =>
    obtain ⟨p, ps, hpieces⟩ := List.exists_cons_of_ne_nil (pieces_ne_nil cut front)
    by_cases hd : cut d = true <;> simp [pieces, hd, ih, hpieces]

/-- The first piece begins with the first character, if that does not cut. -/
theorem exists_pieces_cons {cut : Char → Bool} {c : Char} (hc : cut c = false) (cs : List Char) :
    ∃ p ps, pieces cut (c :: cs) = (c :: p) :: ps := by
  obtain ⟨p, ps, hpieces⟩ := List.exists_cons_of_ne_nil (pieces_ne_nil cut cs)
  exact ⟨p, ps, by simp [pieces, hc, hpieces]⟩

/-- The pieces hold characters of the text that do not cut. -/
theorem mem_of_mem_pieces {cut : Char → Bool} {cs p : List Char} (hp : p ∈ pieces cut cs)
    {c : Char} (hc : c ∈ p) : c ∈ cs ∧ cut c = false := by
  induction cs generalizing p with
  | nil => simp_all [pieces]
  | cons d cs ih =>
    obtain ⟨q, qs, hpieces⟩ := List.exists_cons_of_ne_nil (pieces_ne_nil cut cs)
    by_cases hd : cut d = true
    · rcases List.mem_cons.mp (by simpa [pieces, hd] using hp) with rfl | hmem
      · exact absurd hc List.not_mem_nil
      · exact ⟨List.mem_cons_of_mem _ (ih hmem hc).1, (ih hmem hc).2⟩
    · rcases List.mem_cons.mp (by simpa [pieces, hd, hpieces] using hp) with rfl | hmem
      · rcases List.mem_cons.mp hc with rfl | hq
        · exact ⟨List.mem_cons_self, by simpa using hd⟩
        · have hold := ih (by simp [hpieces]) hq
          exact ⟨List.mem_cons_of_mem _ hold.1, hold.2⟩
      · have hold := ih (by simp [hpieces, hmem]) hc
        exact ⟨List.mem_cons_of_mem _ hold.1, hold.2⟩

/-- A text is put together from its pieces, each after the sign that cuts. -/
theorem flatMap_pieces {cut : Char → Bool} {sign : Char} {cs : List Char}
    (h : ∀ c ∈ cs, cut c = true → c = sign) :
    (pieces cut cs).flatMap (sign :: ·) = sign :: cs := by
  induction cs with
  | nil => simp [pieces]
  | cons c cs ih =>
    have hrest := ih fun d hd => h d (by simp [hd])
    by_cases hc : cut c = true
    · obtain rfl := h c (by simp) hc
      simp [pieces, hc, hrest]
    · obtain ⟨p, ps, hpieces⟩ := List.exists_cons_of_ne_nil (pieces_ne_nil cut cs)
      rw [hpieces] at hrest
      simpa [pieces, hc, hpieces] using hrest

/-- Texts without cutting characters, each after the sign that cuts, are the pieces of what they
make up. -/
theorem pieces_flatMap {cut : Char → Bool} {sign : Char} (hsign : cut sign = true)
    {texts : List (List Char)} (h : ∀ text ∈ texts, ∀ c ∈ text, cut c = false) :
    pieces cut (texts.flatMap (sign :: ·)) = [] :: texts := by
  induction texts with
  | nil => rfl
  | cons text texts ih =>
    have hrest := ih fun t ht => h t (List.mem_cons_of_mem _ ht)
    have htext := pieces_eq_singleton (h text List.mem_cons_self)
    cases texts with
    | nil => simp [pieces, hsign, htext]
    | cons next texts =>
      rw [List.flatMap_cons, List.cons_append] at hrest
      have hlater : pieces cut (next ++ texts.flatMap (sign :: ·)) = next :: texts := by
        simpa [pieces, hsign] using hrest
      rw [List.flatMap_cons, List.flatMap_cons, List.cons_append, List.cons_append, pieces,
        if_pos hsign, pieces_append hsign, htext, hlater]
      rfl

/-- The pieces that hold at least one character. -/
def words (cut : Char → Bool) (cs : List Char) : List (List Char) :=
  (pieces cut cs).filter (fun w => !w.isEmpty)

end ArchiveDesk.Text
