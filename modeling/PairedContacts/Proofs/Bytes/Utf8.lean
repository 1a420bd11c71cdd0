import Mathlib.Data.List.SplitBy

/-!
# Texts as bytes

A text is sent as the bytes of its characters in UTF-8, and is read from them again.  A line feed
is the only character with the byte of a line feed, so a stream can be cut into its lines before
anything of it is decoded.
-/

set_option autoImplicit false

namespace PairedContacts.Bytes

def lineFeed : UInt8 := 10

def ofText (text : String) : List UInt8 :=
  text.toUTF8.toList

theorem toList_loop (bytes : ByteArray) (start : Nat) (before : List UInt8) :
    ByteArray.toList.loop bytes start before =
      before.reverse ++ bytes.data.toList.drop start := by
  fun_induction ByteArray.toList.loop bytes start before with
  | case1 start before inside ih =>
      have here : start < bytes.data.toList.length := by simpa using inside
      rw [ih, List.drop_eq_getElem_cons here]
      simp [ByteArray.get!, inside]
  | case2 start before outside =>
      rw [List.drop_eq_nil_of_le (by simpa using Nat.le_of_not_lt outside)]
      simp

theorem toList_eq (bytes : ByteArray) : bytes.toList = bytes.data.toList := by
  rw [ByteArray.toList, toList_loop]
  rfl

theorem ofText_eq_flatMap (text : String) :
    ofText text = text.toList.flatMap String.utf8EncodeChar := by
  rw [ofText, toList_eq, String.toUTF8_eq_toByteArray, ← String.utf8Encode_toList,
    List.utf8Encode, List.toList_data_toByteArray]

theorem ofText_append (first second : String) :
    ofText (first ++ second) = ofText first ++ ofText second := by
  rw [ofText_eq_flatMap, ofText_eq_flatMap, ofText_eq_flatMap, String.toList_append,
    List.flatMap_append]

theorem fromUTF8?_ofText (text : String) :
    String.fromUTF8? ⟨(ofText text).toArray⟩ = some text := by
  have whole : (⟨(ofText text).toArray⟩ : ByteArray) = text.toByteArray := by
    rw [ofText, toList_eq, Array.toArray_toList, String.toUTF8_eq_toByteArray]
  rw [whole, String.fromUTF8?, dif_pos text.isValidUTF8]
  rfl

/-! ## Line feeds -/

/-- A byte below 128 is a character by itself. -/
theorem toNat_of_mem_utf8EncodeChar {c : Char} {byte : UInt8}
    (member : byte ∈ String.utf8EncodeChar c) (ascii : byte.toNat < 128) :
    byte.toNat = c.toNat := by
  have code : c.val.toNat = c.toNat := rfl
  simp only [String.utf8EncodeChar.eq_def, code] at member
  -- One case for each number of bytes; the bytes of a longer code all begin with a one.
  split at member
  · obtain rfl := List.mem_singleton.mp member
    rw [UInt8.toNat_ofNat']
    omega
  · split at member
    · simp only [List.mem_cons, List.not_mem_nil, or_false] at member
      rcases member with rfl | rfl <;> rw [UInt8.toNat_ofNat'] at ascii <;> omega
    · split at member
      · simp only [List.mem_cons, List.not_mem_nil, or_false] at member
        rcases member with rfl | rfl | rfl <;> rw [UInt8.toNat_ofNat'] at ascii <;> omega
      · simp only [List.mem_cons, List.not_mem_nil, or_false] at member
        rcases member with rfl | rfl | rfl | rfl <;> rw [UInt8.toNat_ofNat'] at ascii <;> omega

theorem lineFeed_mem_ofText_iff {text : String} :
    lineFeed ∈ ofText text ↔ '\n' ∈ text.toList := by
  rw [ofText_eq_flatMap, List.mem_flatMap]
  constructor
  · rintro ⟨c, member, encoded⟩
    have code := toNat_of_mem_utf8EncodeChar encoded (by decide)
    have same : '\n' = c := Char.ext (UInt32.toNat_inj.mp code)
    rwa [same]
  · exact fun member => ⟨'\n', member, by decide⟩

/-! ## Cutting a stream -/

/-- Bytes that end with a line feed and have no other one. -/
def IsLine (bytes : List UInt8) : Prop :=
  ∃ front, bytes = front ++ [lineFeed] ∧ lineFeed ∉ front

/-- The pieces of a stream that is cut after each line feed. -/
def pieces (stream : List UInt8) : List (List UInt8) :=
  stream.splitBy fun byte _ => byte != lineFeed

theorem isLine_ofText {text : String} (single : '\n' ∉ text.toList) :
    IsLine (ofText (text ++ "\n")) := by
  have lineBreak : ofText "\n" = [lineFeed] := ofText_eq_flatMap "\n"
  refine ⟨ofText text, ?_, ?_⟩
  · rw [ofText_append, lineBreak]
  · rwa [lineFeed_mem_ofText_iff]

theorem IsLine.ne_nil {bytes : List UInt8} (line : IsLine bytes) : bytes ≠ [] := by
  obtain ⟨front, rfl, -⟩ := line
  simp

theorem IsLine.getLast {bytes : List UInt8} (line : IsLine bytes) :
    bytes.getLast line.ne_nil = lineFeed := by
  obtain ⟨front, rfl, -⟩ := line
  simp

theorem IsLine.isChain {bytes : List UInt8} (line : IsLine bytes) :
    bytes.IsChain fun byte _ => (byte != lineFeed) = true := by
  obtain ⟨front, rfl, free⟩ := line
  induction front with
  | nil => exact .singleton _
  | cons byte rest ih =>
      obtain ⟨differs, restFree⟩ := List.ne_and_not_mem_of_not_mem_cons free
      exact List.isChain_cons.mpr ⟨fun _ _ => by simpa using differs.symm, ih restFree⟩

/-- Lines written one after another are the pieces of their stream. -/
theorem pieces_flatten {lines : List (List UInt8)} (whole : ∀ line ∈ lines, IsLine line) :
    pieces lines.flatten = lines := by
  refine List.splitBy_flatten (fun empty => (whole [] empty).ne_nil rfl)
    (fun line member => (whole line member).isChain) ?_
  induction lines with
  | nil => exact .nil
  | cons line rest ih =>
      rw [List.forall_mem_cons] at whole
      refine List.isChain_cons.mpr ⟨fun next first => ?_, ih whole.2⟩
      refine ⟨whole.1.ne_nil, (whole.2 next (List.mem_of_mem_head? first)).ne_nil, ?_⟩
      simp [whole.1.getLast]

end PairedContacts.Bytes
