import ArchiveDesk.Text.CodeTable

/-!
# Percent-encoding

The bytes of characters that must not stand in a part of a URL are written as a
percent sign and two hexadecimal digits. Each part of a URL has its own set of
such characters.
-/

namespace ArchiveDesk.Url

/-- A set of characters that are encoded. -/
abbrev EncodeSet := Char → Bool

namespace EncodeSet

/-- Controls and all characters beyond ASCII. -/
def control : EncodeSet := fun c => c.toNat < 0x20 || 0x7E < c.toNat

/-- What is encoded in a fragment. -/
def fragment : EncodeSet := fun c =>
  control c || c == ' ' || c == '"' || c == '<' || c == '>' || c == '\x60'

/-- What is encoded in a path. -/
def path : EncodeSet := fun c =>
  fragment c || c == '#' || c == '?' || c == '\x7b' || c == '\x7d'

/-- What is encoded in a query. -/
def query : EncodeSet := fun c =>
  control c || c == ' ' || c == '"' || c == '#' || c == '<' || c == '>'

/-- What is encoded in the query of a special URL. -/
def specialQuery : EncodeSet := fun c => query c || c == '\''

/-- What is encoded in a user name or password. -/
def userinfo : EncodeSet := fun c =>
  path c || c == '/' || c == ':' || c == ';' || c == '=' || c == '@' || c == '[' || c == '\\' ||
    c == ']' || c == '^' || c == '|'

end EncodeSet

/-- A hexadecimal digit in upper case. -/
def upperHex (n : Nat) : Char := (Nat.digitChar (n % 16)).toUpper

/-- A byte as a percent sign and two digits. -/
def encodeByte (b : UInt8) : List Char := ['%', upperHex (b.toNat / 16), upperHex b.toNat]

/-- A character, encoded if it is in the set. -/
def encodeChar (set : EncodeSet) (c : Char) : List Char :=
  if set c then (String.singleton c).toUTF8.toList.flatMap encodeByte else [c]

/-- A text with the characters of the set encoded. -/
def encode (set : EncodeSet) (cs : List Char) : List Char := cs.flatMap (encodeChar set)

/-- The bytes of a text in which encoded bytes are decoded; a percent sign without
two digits stands for itself. -/
def decodeBytes : List Char → List UInt8
  | [] => []
  | c :: cs =>
    match c, cs with
    | '%', a :: b :: rest =>
      match Text.hexDigit? a, Text.hexDigit? b with
      | some x, some y => UInt8.ofNat (16 * x + y) :: decodeBytes rest
      | _, _ => 0x25 :: decodeBytes (a :: b :: rest)
    | c, cs => (String.singleton c).toUTF8.toList ++ decodeBytes cs

/-- The text that a percent-encoded text stands for, if its bytes are UTF-8. -/
def decode? (cs : List Char) : Option (List Char) :=
  (String.fromUTF8? ⟨(decodeBytes cs).toArray⟩).map String.toList

/-- A text without characters of the set is unchanged. -/
theorem encode_eq_self {set : EncodeSet} {cs : List Char} (h : ∀ c ∈ cs, set c = false) :
    encode set cs = cs := by
  induction cs with
  | nil => rfl
  | cons c cs ih =>
    have hc := h c (by simp)
    have hcs := ih fun d hd => h d (by simp [hd])
    simp only [encode, List.flatMap_cons, encodeChar, hc, Bool.false_eq_true, if_false,
      List.singleton_append]
    rw [← encode, hcs]

end ArchiveDesk.Url
