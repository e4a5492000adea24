/-!
# Blank characters

The characters with the White_Space property, and trimming a text of them at
both ends.
-/

namespace ArchiveDesk.Text

/-- The characters with the White_Space property. -/
def isBlank (c : Char) : Bool :=
  let n := c.toNat
  (0x9 ≤ n && n ≤ 0xD) || n == 0x20 || n == 0x85 || n == 0xA0 || n == 0x1680 ||
    (0x2000 ≤ n && n ≤ 0x200A) || n == 0x2028 || n == 0x2029 || n == 0x202F ||
    n == 0x205F || n == 0x3000

/-- Drops the characters that satisfy `p` from both ends. -/
def stripChars (p : Char → Bool) (cs : List Char) : List Char :=
  ((cs.dropWhile p).reverse.dropWhile p).reverse

/-- The text without blanks at its ends. -/
def trim (s : String) : String := String.ofList (stripChars isBlank s.toList)

/-- What stands between dropped characters is left, if neither of its ends is dropped. -/
theorem stripChars_append {p : Char → Bool} {before inner after : List Char}
    (hbefore : ∀ c ∈ before, p c = true) (hafter : ∀ c ∈ after, p c = true)
    (hfirst : ∀ c ∈ inner.head?, p c = false) (hlast : ∀ c ∈ inner.getLast?, p c = false) :
    stripChars p (before ++ inner ++ after) = inner := by
  have hend : inner.reverse.dropWhile p = inner.reverse := by
    rw [List.getLast?_eq_head?_reverse] at hlast
    cases hreverse : inner.reverse with
    | nil => rfl
    | cons c rest => exact List.dropWhile_cons_of_neg (by simp [hlast c (by simp [hreverse])])
  rw [stripChars, List.append_assoc, List.dropWhile_append_of_pos hbefore]
  cases inner with
  | nil =>
    have hall : after.dropWhile p = [] := by
      rw [← List.append_nil after, List.dropWhile_append_of_pos hafter, List.dropWhile_nil]
    rw [List.nil_append, hall]
    rfl
  | cons c rest =>
    have hafter' : ∀ d ∈ after.reverse, p d = true := fun d hd => hafter d (List.mem_reverse.mp hd)
    rw [List.cons_append, List.dropWhile_cons_of_neg (by simp [hfirst c rfl]), ← List.cons_append,
      List.reverse_append, List.dropWhile_append_of_pos hafter', hend, List.reverse_reverse]

end ArchiveDesk.Text
