import PairedContacts.Cell
import PairedContacts.Proofs.KeyedList
import PairedContacts.Proofs.Number.Rounding
import PairedContacts.Proofs.Outcome

/-!
# Typed rows

A row is typed if each of its cells holds a value of the type that its tag announces; a cell without
a value, without a tag or with an unknown tag may hold anything.  The one thing that can go wrong in
reading a typed row is that a tag is unknown.  In reading any row a number can also be out of the
range of the type that its tag announces.
-/

set_option autoImplicit false

namespace PairedContacts

/-- Whether a value is of a type, or is null. -/
def ColumnKind.announces : ColumnKind -> Value -> Bool
  | .null, _ => true
  | _, .null => true
  | .integer, .bool _ => true
  | .integer, .int _ => true
  | .real, .real _ => true
  | .text, .text _ => true
  | .blob, .blob _ => true
  | _, _ => false

namespace Cell

def kind? (cell : Cell) : Option ColumnKind :=
  cell.tag.bind ColumnKind.ofTag?

def isTyped (cell : Cell) : Bool :=
  cell.kind?.all fun kind => kind.announces cell.value

/-- Whether the integer of an integer cell has a numeral. -/
def isShort (cell : Cell) : Bool :=
  cell.kind? != some .integer || cell.value.whole?.all fun n => !Numeral.isTooLong n

end Cell

namespace Row

def isTyped (row : Row) : Bool :=
  row.all fun entry => entry.2.isTyped

def isShort (row : Row) : Bool :=
  row.all fun entry => entry.2.isShort

/-- The typed value of a column, if there is one that can be read. -/
def cell? (row : Row) (column : String) : Option ColumnValue :=
  (row.read column).toOption.join

end Row

theorem Cell.convert_of_announces {kind : ColumnKind} {value : Value}
    (announced : kind.announces value = true) :
    ∃ converted, Cell.convert kind value = .ok converted := by
  cases kind <;> cases value <;>
    first | exact ⟨_, rfl⟩ | exact absurd announced Bool.false_ne_true

theorem Cell.kind_of_map {α : Type} (make : α -> ColumnValue) {kind : ColumnKind}
    {read : Except CellFault α} {converted : ColumnValue}
    (ofKind : ∀ result, (make result).kind = kind)
    (done : read.map (some ∘ make) = .ok (some converted)) : converted.kind = kind := by
  cases read with
  | error fault => cases done
  | ok result =>
      obtain rfl : make result = converted := by simpa [Except.map] using done
      exact ofKind result

theorem Cell.kind_of_convert {kind : ColumnKind} {value : Value} {converted : ColumnValue}
    (done : Cell.convert kind value = .ok (some converted)) : converted.kind = kind := by
  rw [Cell.convert.eq_def] at done
  split at done
  · cases done
  · cases done
  · exact Cell.kind_of_map .integer (fun _ => rfl) done
  · exact Cell.kind_of_map .real (fun _ => rfl) done
  · exact Cell.kind_of_map .text (fun _ => rfl) done
  · exact Cell.kind_of_map .blob (fun _ => rfl) done

theorem Cell.whole?_of_convert {kind : ColumnKind} {value : Value} {n : Int}
    (announced : kind.announces value = true)
    (converted : Cell.convert kind value = .ok (some (.integer n))) :
    kind = .integer ∧ value.whole? = some n := by
  obtain rfl : ColumnKind.integer = kind := Cell.kind_of_convert converted
  refine ⟨rfl, ?_⟩
  cases value with
  | bool flag =>
      cases converted
      rfl
  | int m =>
      cases converted
      rfl
  | _ => first | cases converted | cases announced

namespace Row

variable {row : Row}

theorem read_of_get? {column tag : String} {cell : Cell} {kind : ColumnKind}
    (found : KeyedList.get? row column = some cell) (tagged : cell.tag = some tag)
    (known : ColumnKind.ofTag? tag = some kind) :
    row.read column = Cell.convert kind cell.value := by
  simp [read, tag?, value, found, tagged, known]

/-- A column of a typed row is read, or its tag is unknown. -/
theorem read_of_isTyped (typed : row.isTyped = true) (column : String) :
    row.read column = .ok (row.cell? column) ∨
      row.cell? column = none ∧ ∃ tag, row.read column = .error (.unrecognizedTag column tag) := by
  have whole : ∀ result, row.read column = .ok result ->
      row.read column = .ok (row.cell? column) := by
    intro result read
    rw [cell?, read]
    cases result <;> rfl
  cases found : KeyedList.get? row column with
  | none =>
      refine .inl (whole none ?_)
      simp [read, tag?, found]
  | some cell =>
      have held : cell.isTyped = true := List.all_eq_true.mp typed _ (KeyedList.mem_of_get? found)
      cases tagged : cell.tag with
      | none =>
          refine .inl (whole none ?_)
          simp [read, tag?, found, tagged]
      | some tag =>
          cases known : ColumnKind.ofTag? tag with
          | none =>
              have fails : row.read column = .error (.unrecognizedTag column tag) := by
                simp [read, tag?, found, tagged, known]
              refine .inr ⟨?_, tag, fails⟩
              rw [cell?, fails]
              rfl
          | some kind =>
              have announced : kind.announces cell.value = true := by
                simpa [Cell.isTyped, Cell.kind?, tagged, known] using held
              obtain ⟨converted, done⟩ := Cell.convert_of_announces announced
              exact .inl (whole converted ((read_of_get? found tagged known).trans done))

/-- An integer that is read out of a typed row is the value of an integer cell. -/
theorem exists_mem_of_cell? {column : String} {n : Int} (typed : row.isTyped = true)
    (read : row.cell? column = some (.integer n)) :
    ∃ entry ∈ row, entry.2.kind? = some .integer ∧ entry.2.value.whole? = some n := by
  rcases read_of_isTyped typed column with done | ⟨none, -⟩
  · rw [read] at done
    cases found : KeyedList.get? row column with
    | none => simp [Row.read, tag?, found] at done
    | some cell =>
        have member := KeyedList.mem_of_get? found
        have held : cell.isTyped = true := List.all_eq_true.mp typed _ member
        cases tagged : cell.tag with
        | none => simp [Row.read, tag?, found, tagged] at done
        | some tag =>
            cases known : ColumnKind.ofTag? tag with
            | none => simp [Row.read, tag?, found, tagged, known] at done
            | some kind =>
                have announced : kind.announces cell.value = true := by
                  simpa [Cell.isTyped, Cell.kind?, tagged, known] using held
                rw [read_of_get? found tagged known] at done
                obtain ⟨rfl, whole⟩ := Cell.whole?_of_convert announced done
                exact ⟨_, member, by simp [Cell.kind?, tagged, known], whole⟩
  · rw [none] at read
    cases read

theorem short_of_cell? {column : String} {n : Int} (typed : row.isTyped = true)
    (short : row.isShort = true) (read : row.cell? column = some (.integer n)) :
    Numeral.isTooLong n = false := by
  obtain ⟨entry, member, kind, whole⟩ := exists_mem_of_cell? typed read
  have shortCell : entry.2.isShort = true := List.all_eq_true.mp short _ member
  simpa [Cell.isShort, kind, whole] using shortCell

end Row

/-! ## What typed cells hold -/

namespace Cell

/-- What a cell holds whose value is of the type that its tag announces; a flag in an integer cell
is one or zero. -/
def content? (cell : Cell) : Option ColumnValue :=
  match cell.kind?, cell.value with
  | some .integer, value => value.whole?.map .integer
  | some .real, .real x => some (.real x)
  | some .text, .text s => some (.text s)
  | some .blob, .blob bytes => some (.blob bytes)
  | _, _ => none

/-- A value that is not null, under a tag that is the name of a type of values. -/
def IsFilled (cell : Cell) : Prop :=
  ∃ kind, cell.kind? = some kind ∧ kind ≠ .null ∧ cell.value ≠ .null

theorem content?_eq_of_convert {cell : Cell} {kind : ColumnKind} (known : cell.kind? = some kind)
    (announced : kind.announces cell.value = true) :
    (convert kind cell.value).toOption.join = cell.content? := by
  unfold content?
  rw [known]
  cases kind <;> cases held : cell.value <;>
    simp_all [ColumnKind.announces, convert, toInteger, toReal, toText, toBlob, Value.asText?,
      Value.whole?, Except.map, Except.toOption]

/-- A typed cell holds something exactly if it is filled. -/
theorem exists_content?_iff {cell : Cell} (typed : cell.isTyped = true) :
    (∃ content, cell.content? = some content) ↔ cell.IsFilled := by
  unfold content? IsFilled
  cases known : cell.kind? with
  | none => simp
  | some kind =>
      have announced : kind.announces cell.value = true := by
        simpa [isTyped, known] using typed
      cases kind <;> cases held : cell.value <;>
        simp_all [ColumnKind.announces, Value.whole?]

end Cell

namespace Row

variable {row : Row}

/-- What a typed row holds in a column. -/
def content? (row : Row) (column : String) : Option ColumnValue :=
  (KeyedList.get? row column).bind Cell.content?

/-- A column in which a row has a filled cell. -/
def Fills (row : Row) (column : String) : Prop :=
  ∃ cell, KeyedList.get? row column = some cell ∧ cell.IsFilled

theorem isTyped_of_get? {column : String} {cell : Cell} (typed : row.isTyped = true)
    (found : KeyedList.get? row column = some cell) : cell.isTyped = true :=
  List.all_eq_true.mp typed _ (KeyedList.mem_of_get? found)

/-- Reading a typed row gives what its cells hold. -/
theorem cell?_of_isTyped (typed : row.isTyped = true) (column : String) :
    row.cell? column = row.content? column := by
  unfold cell? content?
  cases found : KeyedList.get? row column with
  | none => simp [read, tag?, found, Except.toOption]
  | some cell =>
      have held := isTyped_of_get? typed found
      cases tagged : cell.tag with
      | none => simp [read, tag?, found, tagged, Cell.content?, Cell.kind?, Except.toOption]
      | some tag =>
          cases known : ColumnKind.ofTag? tag with
          | none =>
              simp [read, tag?, found, tagged, known, Cell.content?, Cell.kind?, Except.toOption]
          | some kind =>
              have ofKind : cell.kind? = some kind := by simp [Cell.kind?, tagged, known]
              have announced : kind.announces cell.value = true := by
                simpa [Cell.isTyped, ofKind] using held
              rw [read_of_get? found tagged known, Option.bind_some]
              exact Cell.content?_eq_of_convert ofKind announced

theorem exists_content?_iff {column : String} (typed : row.isTyped = true) :
    (∃ content, row.content? column = some content) ↔ row.Fills column := by
  unfold content? Fills
  cases found : KeyedList.get? row column with
  | none => simp
  | some cell => simpa using Cell.exists_content?_iff (isTyped_of_get? typed found)

end Row

/-! ## Numbers out of range -/

/-- Whether a value is a number that is out of the range of a type: an infinity for integers, an
integer beyond the greatest real, or a count of bytes that no machine word holds. -/
def ColumnKind.overflows : ColumnKind -> Value -> Bool
  | .integer, .real x => !x.isNaN && !x.isFinite
  | .real, .int n => (Binary64.ofInt? n).isNone
  | .blob, .int n => Cell.maxCount < n || n < -Cell.maxCount - 1
  | _, _ => false

/-- The integers beyond the reals begin with the midpoint behind the greatest one. -/
theorem ColumnKind.overflows_real_iff {value : Value} :
    ColumnKind.real.overflows value = true ↔
      ∃ n : Int, value = .int n ∧ Binary64.limit ≤ n.natAbs := by
  cases value with
  | int n => simp [overflows, Binary64.ofInt?_eq_none_iff]
  | _ => simp [overflows]

namespace Cell

theorem readNumeral_ne_overflow (chars shown : List Char) :
    readNumeral chars shown ≠ .error .overflow := by
  rw [readNumeral]
  cases Numeral.readInt chars with
  | ok n => simp
  | error fault => cases fault <;> simp

theorem toInteger_eq_overflow_iff {value : Value} :
    toInteger value = .error .overflow ↔ ColumnKind.integer.overflows value = true := by
  cases value with
  | real x =>
      cases nan : x.isNaN <;> cases finite : x.isFinite <;>
        simp [toInteger, ColumnKind.overflows, nan, finite]
  | text s => simp [toInteger, ColumnKind.overflows, readNumeral_ne_overflow]
  | blob bytes => simp [toInteger, ColumnKind.overflows, readNumeral_ne_overflow]
  | _ => simp [toInteger, ColumnKind.overflows]

theorem toReal_eq_overflow_iff {value : Value} :
    toReal value = .error .overflow ↔ ColumnKind.real.overflows value = true := by
  cases value with
  | int n => cases held : Binary64.ofInt? n <;> simp [toReal, ColumnKind.overflows, held]
  | text s => cases read : Numeral.readReal? s.toList <;> simp [toReal, ColumnKind.overflows, read]
  | blob bytes =>
      cases read : Numeral.readReal? (asciiOfBytes bytes) <;>
        simp [toReal, ColumnKind.overflows, read]
  | _ => simp [toReal, ColumnKind.overflows]

theorem toText_ne_overflow (value : Value) : toText value ≠ .error .overflow := by
  rw [toText]
  cases value.asText? <;> simp

theorem toByte_ne_overflow (value : Value) : toByte value ≠ .error .overflow := by
  rw [toByte]
  cases value.whole? with
  | none => simp
  | some n =>
      by_cases within : 0 ≤ n ∧ n < 256 <;> simp [within]

theorem toBlob_eq_overflow_iff {value : Value} :
    toBlob value = .error .overflow ↔ ColumnKind.blob.overflows value = true := by
  cases value with
  | int n =>
      rw [toBlob]
      by_cases out : maxCount < n ∨ n < -maxCount - 1
      · simp [out, ColumnKind.overflows]
      · by_cases negative : n < 0 <;> simp [out, ColumnKind.overflows, negative]
  | list items =>
      have within : toBlob (.list items) ≠ .error .overflow := by
        intro fails
        obtain ⟨item, -, failed⟩ := exists_of_mapM_eq_error fails
        exact toByte_ne_overflow item failed
      simp [within, ColumnKind.overflows]
  | map entries => cases entries <;> simp [toBlob, ColumnKind.overflows]
  | _ => simp [toBlob, ColumnKind.overflows]

theorem convert_eq_overflow_iff {kind : ColumnKind} {value : Value} :
    convert kind value = .error .overflow ↔ kind.overflows value = true := by
  cases kind with
  | null => simp [convert, ColumnKind.overflows]
  | integer =>
      rw [← toInteger_eq_overflow_iff]
      cases value with
      | null => simp [convert, toInteger]
      | _ =>
          rw [convert, map_eq_error_iff]
          simp
  | real =>
      rw [← toReal_eq_overflow_iff]
      cases value with
      | null => simp [convert, toReal]
      | _ =>
          rw [convert, map_eq_error_iff]
          simp
  | text =>
      have within : toText value ≠ .error .overflow := toText_ne_overflow value
      cases value <;> simp [convert, ColumnKind.overflows, map_eq_error_iff, within]
  | blob =>
      rw [← toBlob_eq_overflow_iff]
      cases value with
      | null => simp [convert, toBlob]
      | _ =>
          rw [convert, map_eq_error_iff]
          simp
end Cell

namespace Row

def overflows (row : Row) (column : String) : Bool :=
  (KeyedList.get? row column).any fun cell =>
    cell.kind?.any fun kind => kind.overflows cell.value

theorem read_eq_overflow_iff {row : Row} {column : String} :
    row.read column = .error .overflow ↔ row.overflows column = true := by
  rw [overflows]
  cases found : KeyedList.get? row column with
  | none => simp [read, tag?, found]
  | some cell =>
      cases tagged : cell.tag with
      | none => simp [read, tag?, found, tagged, Cell.kind?]
      | some tag =>
          cases known : ColumnKind.ofTag? tag with
          | none => simp [read, tag?, found, tagged, known, Cell.kind?]
          | some kind =>
              rw [read_of_get? found tagged known, Cell.convert_eq_overflow_iff]
              simp [Cell.kind?, tagged, known]

end Row

end PairedContacts
