import ArchiveDesk.Proofs.Text.Utf8
import ArchiveDesk.Url.Percent

/-!
# Decoding what was encoded

An encoded text that had no percent sign of its own is decoded to itself. A percent sign that
was not encoded may begin an encoded byte, so that two texts can look the same.
-/

namespace ArchiveDesk.Url

/-- A written hexadecimal digit is read as the number that it was. -/
theorem hexDigit?_upperHex (n : Nat) : Text.hexDigit? (upperHex n) = some (n % 16) := by
  have hdigits : ∀ m < 16, Text.hexDigit? (Nat.digitChar m).toUpper = some m := by decide
  exact hdigits (n % 16) (Nat.mod_lt n (by decide))

/-- An encoded byte is decoded as itself. -/
theorem decodeBytes_encodeByte (b : UInt8) (rest : List Char) :
    decodeBytes (encodeByte b ++ rest) = b :: decodeBytes rest := by
  have hbyte : UInt8.ofNat (16 * (b.toNat / 16 % 16) + b.toNat % 16) = b := by
    have hlt := b.toNat_lt
    have hdigits : 16 * (b.toNat / 16 % 16) + b.toNat % 16 = b.toNat := by omega
    rw [hdigits, UInt8.ofNat_toNat]
  simp [encodeByte, decodeBytes, hexDigit?_upperHex, hbyte]

/-- Encoded bytes are decoded as themselves. -/
theorem decodeBytes_encodeBytes (bs : List UInt8) (rest : List Char) :
    decodeBytes (bs.flatMap encodeByte ++ rest) = bs ++ decodeBytes rest := by
  induction bs with
  | nil => rfl
  | cons b bs ih => rw [List.flatMap_cons, List.append_assoc, decodeBytes_encodeByte, ih]; rfl

/-- The bytes of a text of one character are those of the character. -/
theorem bytes_singleton (c : Char) :
    (String.singleton c).toUTF8.toList = String.utf8EncodeChar c := by
  have hbytes := Text.bytes_eq_flatMap (String.singleton c)
  rwa [String.toList_singleton, List.flatMap_cons, List.flatMap_nil, List.append_nil] at hbytes

/-- A character other than a percent sign is decoded as its own bytes. -/
theorem decodeBytes_cons {c : Char} (hc : c ≠ '%') (rest : List Char) :
    decodeBytes (c :: rest) = String.utf8EncodeChar c ++ decodeBytes rest := by
  rw [← bytes_singleton, decodeBytes]
  rintro a b more rfl
  exact absurd rfl hc

/-- The bytes of an encoded text are those of the text. -/
theorem decodeBytes_encode {set : EncodeSet} {cs : List Char} (h : '%' ∉ cs) :
    decodeBytes (encode set cs) = cs.flatMap String.utf8EncodeChar := by
  induction cs with
  | nil => rfl
  | cons c cs ih =>
    obtain ⟨hc, hcs⟩ : c ≠ '%' ∧ '%' ∉ cs := by simpa [eq_comm] using h
    rw [encode, List.flatMap_cons, ← encode, encodeChar, List.flatMap_cons, ← ih hcs]
    split_ifs
    · rw [decodeBytes_encodeBytes, bytes_singleton]
    · rw [List.singleton_append, decodeBytes_cons hc]

/-- A text without percent signs that is encoded is decoded as itself. -/
theorem decode?_encode {set : EncodeSet} {cs : List Char} (h : '%' ∉ cs) :
    decode? (encode set cs) = some cs := by
  have hbytes : (⟨(cs.flatMap String.utf8EncodeChar).toArray⟩ : ByteArray) =
      (String.ofList cs).toByteArray := by
    rw [← String.utf8Encode_toList, String.toList_ofList, List.utf8Encode]
    exact ByteArray.ext (Array.toList_inj.mp List.toList_data_toByteArray.symm)
  have hvalid := (String.ofList cs).isValidUTF8
  rw [decode?, decodeBytes_encode h, hbytes, String.fromUTF8?, dif_pos hvalid, Option.map_some]
  exact congrArg some String.toList_ofList

/-- Different texts without percent signs are encoded differently. -/
theorem encode_inj {set : EncodeSet} {cs ds : List Char} (hcs : '%' ∉ cs) (hds : '%' ∉ ds) :
    encode set cs = encode set ds ↔ cs = ds := by
  refine ⟨fun h => ?_, fun h => h ▸ rfl⟩
  have hdecoded : decode? (encode set cs) = some cs := decode?_encode hcs
  rw [h, decode?_encode hds] at hdecoded
  exact (Option.some.inj hdecoded).symm

/-- Only the empty text is encoded as nothing. -/
theorem encode_eq_nil_iff {set : EncodeSet} {cs : List Char} : encode set cs = [] ↔ cs = [] := by
  cases cs with
  | nil => simp [encode]
  | cons c cs =>
    have hne : encodeChar set c ≠ [] := by
      unfold encodeChar
      split_ifs
      · obtain ⟨b, bs, hbytes⟩ :=
          List.exists_cons_of_ne_nil (String.utf8EncodeChar_ne_nil (c := c))
        rw [bytes_singleton, hbytes, List.flatMap_cons]
        simp [encodeByte]
      · exact List.cons_ne_nil c []
    simp [encode, hne]

end ArchiveDesk.Url
