import PairedContacts.Proofs.Json.Document

/-!
# Documents on the wire

A plain value that is written on the wire is read again from there, with or without a blank behind
it, as long as it nests no deeper than the reader goes.  It is written on one line.
-/

set_option autoImplicit false

namespace PairedContacts

open Json (Dialect Document)

/-! ## Values as documents -/

namespace Value

variable {τ : Type} {dialect : Dialect τ}

mutual

/-- A value that can be written and read again in a dialect: there is room for its integers, the keys
of its maps are distinct, and it has neither real numbers nor bytes. -/
def isPlain (dialect : Dialect τ) : Value -> Bool
  | .null | .bool _ | .text _ => true
  | .int n => dialect.admits n
  | .real _ | .blob _ => false
  | .list items => arePlain dialect items
  | .map fields => decide (KeyedList.keys fields).Nodup && havePlain dialect fields

def arePlain (dialect : Dialect τ) : List Value -> Bool
  | [] => true
  | item :: rest => isPlain dialect item && arePlain dialect rest

def havePlain (dialect : Dialect τ) : List (String × Value) -> Bool
  | [] => true
  | (_, value) :: rest => isPlain dialect value && havePlain dialect rest

end

theorem arePlain_iff {items : List Value} :
    arePlain dialect items = true ↔ ∀ item ∈ items, item.isPlain dialect = true := by
  induction items with
  | nil => simp [arePlain]
  | cons item rest ih => rw [arePlain, Bool.and_eq_true, ih, List.forall_mem_cons]

theorem havePlain_iff {fields : List (String × Value)} :
    havePlain dialect fields = true ↔ ∀ field ∈ fields, field.2.isPlain dialect = true := by
  induction fields with
  | nil => simp [havePlain]
  | cons field rest ih => rw [havePlain, Bool.and_eq_true, ih, List.forall_mem_cons]

section Mono

variable {wider : Dialect τ}

mutual

/-- What is plain in a dialect is plain in one that has room for more integers. -/
theorem isPlain_mono (wide : ∀ n, dialect.admits n = true -> wider.admits n = true) :
    ∀ value : Value, value.isPlain dialect = true -> value.isPlain wider = true
  | .null, _ | .bool _, _ | .text _, _ => rfl
  | .int n, plain => wide n plain
  | .real _, plain | .blob _, plain => plain
  | .list items, plain => arePlain_mono wide items plain
  | .map fields, plain => by
      rw [isPlain, Bool.and_eq_true] at plain ⊢
      exact ⟨plain.1, havePlain_mono wide fields plain.2⟩
termination_by structural value => value

theorem arePlain_mono (wide : ∀ n, dialect.admits n = true -> wider.admits n = true) :
    ∀ items : List Value, arePlain dialect items = true -> arePlain wider items = true
  | [], _ => rfl
  | item :: rest, plain => by
      rw [arePlain, Bool.and_eq_true] at plain ⊢
      exact ⟨isPlain_mono wide item plain.1, arePlain_mono wide rest plain.2⟩
termination_by structural items => items

theorem havePlain_mono (wide : ∀ n, dialect.admits n = true -> wider.admits n = true) :
    ∀ fields : List (String × Value), havePlain dialect fields = true ->
      havePlain wider fields = true
  | [], _ => rfl
  | (_, value) :: rest, plain => by
      rw [havePlain, Bool.and_eq_true] at plain ⊢
      exact ⟨isPlain_mono wide value plain.1, havePlain_mono wide rest plain.2⟩
termination_by structural fields => fields

end

end Mono

end Value

namespace Json

variable {τ : Type} {dialect : Dialect τ}

/-- Texts of characters are read in a dialect as they are embedded, no two alike. -/
structure Dialect.Reads (dialect : Dialect τ) (embed : String -> τ) : Prop where
  text : ∀ text, dialect.text? (.ofString text) = some (embed text)
  injective : ∀ {first second}, embed first = embed second -> first = second

theorem reads_loose : Dialect.loose.Reads .ofString where
  text _ := rfl
  injective same := LooseText.ofString_injective (congrArg JoinedText.toLooseText same)

theorem keys_ofFields (embed : String -> τ) (fields : List (String × Value)) :
    KeyedList.keys (Document.ofFields embed fields) = (KeyedList.keys fields).map embed := by
  induction fields with
  | nil => rfl
  | cons field rest ih => exact congrArg (embed field.1 :: ·) ih

section Plain

variable [DecidableEq τ] {embed : String -> τ}

mutual

/-- The document of a plain value is plain. -/
theorem isPlain_ofValue (reads : dialect.Reads embed) : ∀ value : Value,
    value.isPlain dialect = true ->
    (Document.ofValue embed value).isPlain dialect = true
  | .null, _ | .bool _, _ | .text _, _ => rfl
  | .int _, plain => plain
  | .real _, plain | .blob _, plain => by
      rw [Value.isPlain] at plain
      cases plain
  | .list items, plain => arePlain_ofItems reads items plain
  | .map fields, plain => by
      rw [Value.isPlain, Bool.and_eq_true, decide_eq_true_eq] at plain
      rw [Document.ofValue, Document.isPlain, keys_ofFields, Bool.and_eq_true, decide_eq_true_eq]
      refine ⟨List.Pairwise.map embed ?_ plain.1, havePlain_ofFields reads fields plain.2⟩
      exact fun _ _ different same => different (reads.injective same)
termination_by structural value => value

theorem arePlain_ofItems (reads : dialect.Reads embed) : ∀ items : List Value,
    Value.arePlain dialect items = true ->
    Document.arePlain dialect (Document.ofItems embed items) = true
  | [], _ => rfl
  | item :: rest, plain => by
      rw [Value.arePlain, Bool.and_eq_true] at plain
      rw [Document.ofItems, Document.arePlain, isPlain_ofValue reads item plain.1,
        arePlain_ofItems reads rest plain.2]
      rfl
termination_by structural items => items

theorem havePlain_ofFields (reads : dialect.Reads embed) : ∀ fields : List (String × Value),
    Value.havePlain dialect fields = true ->
    Document.havePlain dialect (Document.ofFields embed fields) = true
  | [], _ => rfl
  | (_, value) :: rest, plain => by
      rw [Value.havePlain, Bool.and_eq_true] at plain
      rw [Document.ofFields, Document.havePlain, isPlain_ofValue reads value plain.1,
        havePlain_ofFields reads rest plain.2]
      rfl
termination_by structural fields => fields

end

end Plain

mutual

/-- The document of a plain value holds nothing but the value. -/
theorem value_ofValue : ∀ value : Value, value.isPlain dialect = true ->
    (Document.ofValue id value).value = value
  | .null, _ | .bool _, _ | .int _, _ | .text _, _ => rfl
  | .real _, plain | .blob _, plain => by
      rw [Value.isPlain] at plain
      cases plain
  | .list items, plain => congrArg Value.list (values_ofItems items plain)
  | .map fields, plain => by
      rw [Value.isPlain, Bool.and_eq_true] at plain
      exact congrArg Value.map (fieldValues_ofFields fields plain.2)
termination_by structural value => value

theorem values_ofItems : ∀ items : List Value, Value.arePlain dialect items = true ->
    Document.values (Document.ofItems id items) = items
  | [], _ => rfl
  | item :: rest, plain => by
      rw [Value.arePlain, Bool.and_eq_true] at plain
      rw [Document.ofItems, Document.values, value_ofValue item plain.1,
        values_ofItems rest plain.2]
termination_by structural items => items

theorem fieldValues_ofFields : ∀ fields : List (String × Value),
    Value.havePlain dialect fields = true ->
    Document.fieldValues (Document.ofFields id fields) = fields
  | [], _ => rfl
  | (key, value) :: rest, plain => by
      rw [Value.havePlain, Bool.and_eq_true] at plain
      rw [Document.ofFields, Document.fieldValues, value_ofValue value plain.1,
        fieldValues_ofFields rest plain.2]
      rfl
termination_by structural fields => fields

end

end Json

namespace Value

/-! ### Nesting -/

/-- How many lists and maps with content a value nests. -/
def height (value : Value) : Nat :=
  (Document.ofValue id value).height

theorem height_list_le {items : List Value} {bound : Nat}
    (low : ∀ item ∈ items, item.height ≤ bound) : (list items).height ≤ bound + 1 := by
  show Document.heightOfItems (Document.ofItems id items) ≤ bound + 1
  induction items with
  | nil => exact Nat.zero_le _
  | cons item rest ih =>
      rw [List.forall_mem_cons] at low
      exact Nat.max_le.mpr ⟨Nat.succ_le_succ low.1, ih low.2⟩

theorem height_map_le {fields : List (String × Value)} {bound : Nat}
    (low : ∀ field ∈ fields, field.2.height ≤ bound) : (map fields).height ≤ bound + 1 := by
  show Document.heightOfFields (Document.ofFields id fields) ≤ bound + 1
  induction fields with
  | nil => exact Nat.zero_le _
  | cons field rest ih =>
      rw [List.forall_mem_cons] at low
      exact Nat.max_le.mpr ⟨Nat.succ_le_succ low.1, ih low.2⟩

end Value

namespace Json

variable {τ : Type} {dialect : Dialect τ} {embed : String -> τ}

/-! ## Spelling -/

section Spelling

variable [DecidableEq τ] [Inhabited τ]

theorem isFaithful_wireChar : IsFaithful wireChar fun c => [.char c] := by
  intro c opening offset rest nonempty
  rw [wireChar]
  cases escaped : escapeLetter? c with
  | some letter => exact ⟨_, scanText_escapeLetter escaped opening offset rest⟩
  | none =>
      simp only
      split
      · have single : c.toNat < 0x10000 := by omega
        have scanned := scanText_unitEscape single opening offset nonempty
        rw [Point.ofUnit_toNat] at scanned
        exact ⟨_, scanned⟩
      · rename_i printed
        exact ⟨_, scanText_plain escaped (Nat.not_lt.mp printed) opening offset rest⟩

theorem spells_wireText (reads : dialect.Reads embed) (text : String) :
    Spells dialect (enclose wireChar text.toList) [.text (embed text)] := by
  refine spells_text isFaithful_wireChar ?_
  rw [← List.map_eq_flatMap, JoinedText.ofPoints_chars]
  exact reads.text text

theorem spells_commas {opening closing : Char} {openMark closeMark : Lexeme τ}
    (opens : IsMark dialect opening openMark) (closes : IsMark dialect closing closeMark)
    (apart : endsNumber [closing] = true) {parts : List (List Char)}
    {found : List (List (Lexeme τ))} (spelled : List.Forall₂ (Spells dialect) parts found) :
    Spells dialect (opening :: (commas parts ++ [closing]))
      (openMark :: (separated found ++ [closeMark])) := by
  cases spelled with
  | nil => exact closes.spells.afterMark opens
  | cons first rest =>
      obtain ⟨further, begins⟩ := spells_further rest
      rw [commas, separated, flatten_intersperse_cons, flatten_intersperse_cons]
      exact ((first.append further begins).append closes.spells apart).afterMark opens

mutual

/-- A plain value on the wire spells its lexemes. -/
theorem spells_wire (reads : dialect.Reads embed) : ∀ value : Value, value.isPlain dialect = true ->
    Spells dialect (wire value) (lexemes (Document.ofValue embed value))
  | .null, _ => spells_null
  | .bool flag, _ => spells_bool flag
  | .int n, plain => spells_int plain
  | .real x, plain => by
      rw [Value.isPlain] at plain
      cases plain
  | .text s, _ => spells_wireText reads s
  | .blob bytes, plain => by
      rw [Value.isPlain] at plain
      cases plain
  | .list items, plain => by
      rw [Value.isPlain] at plain
      exact spells_commas isMark_openList isMark_closeList rfl (spells_wireItems reads items plain)
  | .map fields, plain => by
      rw [Value.isPlain, Bool.and_eq_true] at plain
      exact spells_commas isMark_openMap isMark_closeMap rfl (spells_wireFields reads fields plain.2)
termination_by structural value => value

theorem spells_wireItems (reads : dialect.Reads embed) : ∀ items : List Value,
    Value.arePlain dialect items = true ->
    List.Forall₂ (Spells dialect) (wireItems items) (itemLexemes (Document.ofItems embed items))
  | [], _ => .nil
  | item :: rest, plain => by
      rw [Value.arePlain, Bool.and_eq_true] at plain
      exact .cons (spells_wire reads item plain.1) (spells_wireItems reads rest plain.2)
termination_by structural items => items

theorem spells_wireFields (reads : dialect.Reads embed) : ∀ fields : List (String × Value),
    Value.havePlain dialect fields = true ->
    List.Forall₂ (Spells dialect) (wireFields fields) (fieldLexemes (Document.ofFields embed fields))
  | [], _ => .nil
  | (key, value) :: rest, plain => by
      rw [Value.havePlain, Bool.and_eq_true] at plain
      have named := (spells_wireText reads key).append
        ((spells_wire reads value plain.1).afterMark isMark_colon) rfl
      exact .cons named (spells_wireFields reads rest plain.2)
termination_by structural fields => fields

end

/-- A plain value is read from the wire, blanks behind it or none. -/
theorem parse_wire (reads : dialect.Reads embed) {value : Value}
    (plain : value.isPlain dialect = true)
    (shallow : ∀ limit, dialect.maxDepth = some limit ->
      (Document.ofValue embed value).height ≤ limit) {blanks : String}
    (blank : ∀ c ∈ blanks.toList, isSpace c = true) :
    parse dialect (writeWire value ++ blanks) = .ok (.ofValue embed value) :=
  parse_of_spells (spells_wire reads value plain) (isPlain_ofValue reads value plain) shallow blank

theorem read_wire {dialect : Dialect String} (reads : dialect.Reads id) {value : Value}
    (plain : value.isPlain dialect = true)
    (shallow : ∀ limit, dialect.maxDepth = some limit -> value.height ≤ limit) {blanks : String}
    (blank : ∀ c ∈ blanks.toList, isSpace c = true) :
    read dialect (writeWire value ++ blanks) = .ok value := by
  rw [read, parse_wire reads plain shallow blank, Except.map, value_ofValue value plain]

end Spelling

/-! ## Lines -/

theorem noLineFeed_hexDigit : ∀ digit < 16, Text.hexDigit digit ≠ '\n' := by decide

theorem noLineFeed_wireChar (c : Char) : '\n' ∉ wireChar c := by
  rw [wireChar]
  cases escaped : escapeLetter? c with
  | some letter =>
      rw [escapeLetter?.eq_def] at escaped
      split at escaped <;> cases escaped <;> decide
  | none =>
      simp only
      split
      · have digit (n : Nat) : Text.hexDigit (n % 16) ≠ '\n' :=
          noLineFeed_hexDigit _ (Nat.mod_lt _ (by decide))
        rw [unitEscape_eq]
        simp [(digit _).symm]
      · simp only [List.mem_singleton]
        rintro rfl
        cases escaped

theorem noLineFeed_enclose (text : List Char) : '\n' ∉ enclose wireChar text := by
  simp [enclose, noLineFeed_wireChar]

theorem noLineFeed_writeInt (n : Int) : '\n' ∉ Numeral.writeInt n := by
  intro member
  have ink := Numeral.isInk_of_mem_writeInt member
  revert ink
  decide

theorem noLineFeed_commas {parts : List (List Char)} (single : ∀ part ∈ parts, '\n' ∉ part) :
    '\n' ∉ commas parts := by
  cases parts with
  | nil => simp [commas]
  | cons first rest =>
      rw [List.forall_mem_cons] at single
      rw [commas, flatten_intersperse_cons]
      simpa [single.1] using single.2

mutual

/-- Nothing breaks the line in which a plain value is written. -/
theorem noLineFeed_wire : ∀ value : Value, value.isPlain dialect = true -> '\n' ∉ wire value
  | .null, _ => by decide
  | .bool true, _ => by decide
  | .bool false, _ => by decide
  | .int n, _ => noLineFeed_writeInt n
  | .real x, plain => by
      rw [Value.isPlain] at plain
      cases plain
  | .text s, _ => noLineFeed_enclose s.toList
  | .blob bytes, _ => noLineFeed_enclose _
  | .list items, plain => by
      rw [Value.isPlain] at plain
      have inner := noLineFeed_commas (noLineFeed_wireItems items plain)
      simp [wire, inner]
  | .map fields, plain => by
      rw [Value.isPlain, Bool.and_eq_true] at plain
      have inner := noLineFeed_commas (noLineFeed_wireFields fields plain.2)
      simp [wire, inner]
termination_by structural value => value

theorem noLineFeed_wireItems : ∀ items : List Value, Value.arePlain dialect items = true ->
    ∀ part ∈ wireItems items, '\n' ∉ part
  | [], _ => by simp [wireItems]
  | item :: rest, plain => by
      rw [Value.arePlain, Bool.and_eq_true] at plain
      rw [wireItems, List.forall_mem_cons]
      exact ⟨noLineFeed_wire item plain.1, noLineFeed_wireItems rest plain.2⟩
termination_by structural items => items

theorem noLineFeed_wireFields : ∀ fields : List (String × Value),
    Value.havePlain dialect fields = true ->
    ∀ part ∈ wireFields fields, '\n' ∉ part
  | [], _ => by simp [wireFields]
  | (key, value) :: rest, plain => by
      rw [Value.havePlain, Bool.and_eq_true] at plain
      rw [wireFields, List.forall_mem_cons]
      refine ⟨?_, noLineFeed_wireFields rest plain.2⟩
      simp [noLineFeed_enclose, noLineFeed_wire value plain.1]
termination_by structural fields => fields

end

end Json

end PairedContacts
