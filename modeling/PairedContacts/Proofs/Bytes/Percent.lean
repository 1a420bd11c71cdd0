import PairedContacts.Bytes.Percent
import PairedContacts.Text.Hex

/-!
# Percent encoding is faithful

The bytes of a text can be read back from its percent encoding, so two texts never have the same
one.  An encoding holds nothing but plain characters and percent signs.
-/

set_option autoImplicit false

namespace PairedContacts.Percent

/-- The bytes that an encoded text stands for. -/
def bytesOf : List Char -> List UInt8
  | '%' :: high :: low :: rest =>
      UInt8.ofNat (16 * (Text.hexValue? high).getD 0 + (Text.hexValue? low).getD 0) :: bytesOf rest
  | c :: rest => String.utf8EncodeChar c ++ bytesOf rest
  | [] => []

theorem bytesOf_cons {c : Char} (notPercent : c ≠ '%') (rest : List Char) :
    bytesOf (c :: rest) = String.utf8EncodeChar c ++ bytesOf rest := by
  rw [bytesOf.eq_2]
  intro high low more percent
  exact absurd percent notPercent

theorem hexValue?_digit : ∀ value < 16, Text.hexValue? (digit value) = some value := by decide

theorem isPlain_digit : ∀ value < 16, isPlain (digit value) = true := by decide

theorem bytesOf_escapeByte (byte : UInt8) (rest : List Char) :
    bytesOf (escapeByte byte ++ rest) = byte :: bytesOf rest := by
  have bound : byte.toNat < 256 := byte.toNat_lt_size
  have high := hexValue?_digit (byte.toNat / 16) (by omega)
  have low := hexValue?_digit (byte.toNat % 16) (by omega)
  show bytesOf ('%' :: digit (byte.toNat / 16) :: digit (byte.toNat % 16) :: rest) = _
  rw [bytesOf, high, low, Option.getD_some, Option.getD_some, Nat.div_add_mod]
  simp

theorem bytesOf_escapeBytes (bytes : List UInt8) (rest : List Char) :
    bytesOf (bytes.flatMap escapeByte ++ rest) = bytes ++ bytesOf rest := by
  induction bytes with
  | nil => rfl
  | cons byte more ih =>
      rw [List.flatMap_cons, List.append_assoc, bytesOf_escapeByte, ih, List.cons_append]

theorem bytesOf_encodeChar (c : Char) (rest : List Char) :
    bytesOf (encodeChar c ++ rest) = String.utf8EncodeChar c ++ bytesOf rest := by
  rw [encodeChar]
  split
  · rename_i plain
    refine bytesOf_cons ?_ rest
    rintro rfl
    revert plain
    decide
  · exact bytesOf_escapeBytes _ rest

theorem bytesOf_flatMap (chars : List Char) :
    bytesOf (chars.flatMap encodeChar) = chars.flatMap String.utf8EncodeChar := by
  induction chars with
  | nil => rfl
  | cons c rest ih => rw [List.flatMap_cons, bytesOf_encodeChar, ih, List.flatMap_cons]

theorem bytesOf_encode (text : String) :
    (bytesOf (encode text).toList).toByteArray = text.toByteArray := by
  rw [encode, String.toList_ofList, bytesOf_flatMap]
  conv => rhs; rw [← String.ofList_toList (s := text)]
  rw [String.toByteArray_ofList, List.utf8Encode]

theorem encode_injective {first second : String} (same : encode first = encode second) :
    first = second := by
  rw [← String.toByteArray_inj, ← bytesOf_encode first, same, bytesOf_encode]

theorem plain_of_mem_encode {text : String} {c : Char} (member : c ∈ (encode text).toList) :
    isPlain c = true ∨ c = '%' := by
  rw [encode, String.toList_ofList, List.mem_flatMap] at member
  obtain ⟨source, -, member⟩ := member
  rw [encodeChar] at member
  split at member
  · rename_i plain
    obtain rfl := List.mem_singleton.mp member
    exact .inl plain
  · obtain ⟨byte, -, escaped⟩ := List.mem_flatMap.mp member
    have bound : byte.toNat < 256 := byte.toNat_lt_size
    simp only [escapeByte, List.mem_cons, List.not_mem_nil, or_false] at escaped
    rcases escaped with rfl | rfl | rfl
    · exact .inr rfl
    · exact .inl (isPlain_digit _ (by omega))
    · exact .inl (isPlain_digit _ (by omega))

theorem not_mem_encode {c : Char} (strange : isPlain c = false) (notPercent : c ≠ '%')
    (text : String) : c ∉ (encode text).toList := by
  intro member
  rcases plain_of_mem_encode member with plain | percent
  · rw [plain] at strange
    cases strange
  · exact notPercent percent

end PairedContacts.Percent
