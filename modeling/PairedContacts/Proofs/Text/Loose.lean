import PairedContacts.Text.Loose

/-!
# Spelling loose texts

A character beyond the basic plane is spelled by the two halves of its pair, and every other point
by itself.  A loose text that was spelled out so is put together again as it was.
-/

set_option autoImplicit false

namespace PairedContacts

namespace Point

theorem ofUnit_toNat (c : Char) : ofUnit c.toNat = .char c := by
  have valid : c.toNat < 0xD800 ∨ 0xDFFF < c.toNat ∧ c.toNat < 0x110000 := c.valid
  rw [ofUnit, dif_neg (by omega), Char.ofNat_toNat]

theorem ofUnit_unit (lone : Half) : ofUnit lone.unit = .half lone :=
  dif_pos lone.isHalf

theorem attach_of_apart {point : Point} {rest : List Point}
    (apart : areApart (point :: rest) = true) : attach point rest = point :: rest := by
  unfold attach
  split
  · rename_i first second more
    rw [areApart, Bool.and_eq_true, Bool.not_eq_true'] at apart
    exact if_neg (by rw [show (first.isHigh && !second.isHigh) = false from apart.1]; decide)
  · rfl

theorem foldr_attach_of_apart {points : List Point} (apart : areApart points = true) :
    points.foldr attach [] = points := by
  induction points with
  | nil => rfl
  | cons point rest ih =>
      have later : areApart rest = true := by
        rw [areApart_cons, Bool.and_eq_true] at apart
        exact apart.2
      rw [List.foldr_cons, ih later, attach_of_apart apart]

theorem map_filterMap_char? {points : List Point} (whole : points.any isHalf = false) :
    (points.filterMap char?).map char = points := by
  induction points with
  | nil => rfl
  | cons point rest ih =>
      rw [List.any_cons, Bool.or_eq_false_iff] at whole
      cases point with
      | half lone => cases whole.1
      | char c => rw [List.filterMap_cons, char?, List.map_cons, ih whole.2]

/-- The points that stand for a point if nothing beyond the basic plane is told in one piece. -/
def split : Point -> List Point
  | char c =>
      if c.toNat < 0x10000 then [char c]
      else
        [ofUnit (0xD800 + (c.toNat - 0x10000) / 1024), ofUnit (0xDC00 + (c.toNat - 0x10000) % 1024)]
  | half lone => [half lone]

/-- A character beyond the basic plane is put together from its halves. -/
theorem exists_halves {c : Char} (beyond : 0x10000 ≤ c.toNat) :
    ∃ high low : Half, split (.char c) = [.half high, .half low] ∧ high.isHigh = true ∧
      low.isHigh = false ∧ high.join low = c := by
  have bound : c.toNat < 0x110000 := by
    have valid : c.toNat < 0xD800 ∨ 0xDFFF < c.toNat ∧ c.toNat < 0x110000 := c.valid
    omega
  let high : Half := ⟨0xD800 + (c.toNat - 0x10000) / 1024, by omega⟩
  let low : Half := ⟨0xDC00 + (c.toNat - 0x10000) % 1024, by omega⟩
  refine ⟨high, low, ?_, decide_eq_true ?_, decide_eq_false ?_, ?_⟩
  · rw [split, if_neg (Nat.not_lt.mpr beyond), ← ofUnit_unit high, ← ofUnit_unit low]
  · show 0xD800 + (c.toNat - 0x10000) / 1024 ≤ 0xDBFF
    omega
  · show ¬0xDC00 + (c.toNat - 0x10000) % 1024 ≤ 0xDBFF
    omega
  · have code : 0x10000 + 1024 * (high.unit - 0xD800) + (low.unit - 0xDC00) = c.toNat := by
      show 0x10000 + 1024 * (0xD800 + (c.toNat - 0x10000) / 1024 - 0xD800) +
        (0xDC00 + (c.toNat - 0x10000) % 1024 - 0xDC00) = c.toNat
      omega
    rw [Half.join, code, Char.ofNat_toNat]

theorem foldr_attach_split {point : Point} {rest : List Point}
    (apart : areApart (point :: rest) = true) :
    (split point).foldr attach rest = point :: rest := by
  have alone : attach point rest = point :: rest := attach_of_apart apart
  cases point with
  | half lone => exact alone
  | char c =>
      by_cases single : c.toNat < 0x10000
      · rw [split, if_pos single]
        exact alone
      · obtain ⟨high, low, halves, first, second, joined⟩ := exists_halves (Nat.not_lt.mp single)
        have later : areApart rest = true := by
          rw [areApart_cons, Bool.and_eq_true] at apart
          exact apart.2
        -- A low half never begins a pair, so it stays apart from what follows it.
        have behind : areApart (.half low :: rest) = true := by
          rw [areApart_cons, later, Bool.and_true, Bool.not_eq_true']
          cases rest.head? with
          | none => rfl
          | some next => cases next <;> simp [pairs, second]
        rw [halves, List.foldr_cons, List.foldr_cons, List.foldr_nil, attach_of_apart behind]
        simp [attach, first, second, joined]

theorem foldr_attach_flatMap_split {points : List Point} (apart : areApart points = true) :
    (points.flatMap split).foldr attach [] = points := by
  induction points with
  | nil => rfl
  | cons point rest ih =>
      have later : areApart rest = true := by
        rw [areApart_cons, Bool.and_eq_true] at apart
        exact apart.2
      rw [List.flatMap_cons, List.foldr_append, ih later, foldr_attach_split apart]

end Point

namespace JoinedText

theorem ofPoints_eq_iff {points : List Point} {text : JoinedText} :
    ofPoints points = text ↔ points.foldr Point.attach [] = text.points := by
  obtain ⟨⟨stand⟩, apart⟩ := text
  simp [ofPoints]

/-- A text that was spelled out is put together again. -/
theorem ofPoints_split (text : JoinedText) : ofPoints (text.points.flatMap Point.split) = text :=
  ofPoints_eq_iff.mpr (Point.foldr_attach_flatMap_split text.apart)

theorem eq_of_toLooseText {first second : JoinedText}
    (same : first.toLooseText = second.toLooseText) : first = second := by
  cases first
  cases second
  cases same
  rfl

theorem ofPoints_chars (text : String) : ofPoints (text.toList.map .char) = ofString text := by
  rw [ofPoints_eq_iff]
  show (text.toList.map Point.char).foldr Point.attach [] = text.toList.map Point.char
  induction text.toList with
  | nil => rfl
  | cons c rest ih =>
      rw [List.map_cons, List.foldr_cons, ih]
      rfl

end JoinedText

namespace LooseText

theorem ofString_injective {first second : String} (same : ofString first = ofString second) :
    first = second := by
  have plain := congrArg plain? same
  rw [plain?_ofString, plain?_ofString] at plain
  exact Option.some.inj plain

/-- A text that is not torn is one of characters. -/
theorem eq_ofString_of_plain? {text : LooseText} {plain : String}
    (given : text.plain? = some plain) : text = ofString plain := by
  rw [plain?] at given
  split at given
  · cases given
  · rename_i whole
    obtain rfl := Option.some.inj given
    rw [isTorn, Bool.not_eq_true] at whole
    rw [ofString, String.toList_ofList, Point.map_filterMap_char? whole]

theorem plain?_eq_some_iff {text : LooseText} {plain : String} :
    text.plain? = some plain ↔ text = ofString plain := by
  constructor
  · exact eq_ofString_of_plain?
  · rintro rfl
    exact plain?_ofString plain

theorem plain?_eq_none_iff {text : LooseText} : text.plain? = none ↔ text.isTorn = true := by
  rw [plain?]
  cases text.isTorn <;> simp

/-! ## Joining -/

theorem apart_ofString (text : String) : Point.areApart (ofString text).points = true :=
  (JoinedText.ofString text).apart

theorem toLooseText_join {text : LooseText} (apart : Point.areApart text.points = true) :
    text.join.toLooseText = text := by
  have same : text.join = ⟨text, apart⟩ :=
    JoinedText.ofPoints_eq_iff.mpr (Point.foldr_attach_of_apart apart)
  rw [same]

/-- Texts whose halves stand apart are the same if they are read as the same. -/
theorem join_injective {first second : LooseText} (apart : Point.areApart first.points = true)
    (alsoApart : Point.areApart second.points = true) (same : first.join = second.join) :
    first = second := by
  rw [← toLooseText_join apart, same, toLooseText_join alsoApart]

end LooseText

end PairedContacts
