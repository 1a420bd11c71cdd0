import Mathlib.Data.List.Basic
import PairedContacts.Proofs.Settings
import PairedContacts.Proofs.VCard.Identity
import PairedContacts.Proofs.VCard.Meanings
import PairedContacts.Proofs.VCard.Refinalized

/-!
# Two namespaces in one record

Metadata lines are recognized by how they begin, and a namespace may have dashes.  So all metadata
lines of one namespace can begin as device lines of another, which then encloses it:

    X-KDECONNECT-ID-DEV-phone:alice
    X-KDECONNECT-ID-DEV-2-TIMESTAMP:1700000000000

The second line is a timestamp of `KDECONNECT-ID-DEV-2`, and in `KDECONNECT` it says that the device
`2-TIMESTAMP` has a contact `1700000000000`.  Between namespaces that do not enclose each other a
footer changes nothing.  A footer of an enclosed namespace is read as the origin of the record, and
a footer of the enclosing one takes the place of all the metadata.
-/

set_option autoImplicit false

namespace PairedContacts.VCard

open Text

/-! ## Beginnings of lines -/

/-- How each metadata line of a namespace begins. -/
def lineStart (space : List Char) : List Char :=
  ['X', '-'] ++ upper space ++ ['-']

def deviceMark : List Char := ['I', 'D', '-', 'D', 'E', 'V', '-']

def timestampName : List Char := ['T', 'I', 'M', 'E', 'S', 'T', 'A', 'M', 'P']

def timestampMark : List Char := timestampName ++ [':']

/-- The metadata lines of the inner namespace begin as device lines of the outer one. -/
def Encloses (outer inner : List Char) : Prop :=
  deviceStart outer <+: lineStart inner

instance (outer inner : List Char) : Decidable (Encloses outer inner) :=
  inferInstanceAs (Decidable (deviceStart outer <+: lineStart inner))

section Lines

variable {space other line : List Char}

theorem deviceStart_eq (space : List Char) : deviceStart space = lineStart space ++ deviceMark := by
  simp [deviceStart, lineStart, deviceMark]

theorem timestampStart_eq (space : List Char) :
    timestampStart space = lineStart space ++ timestampMark := by
  simp [timestampStart, lineStart, timestampMark, timestampName]

theorem upper_eq_of_lineStart_eq (same : lineStart space = lineStart other) :
    upper space = upper other := by
  simpa [lineStart] using same

theorem noColon_lineStart (noColon : ':' ∉ upper space) : ':' ∉ lineStart space := by
  simp [lineStart, noColon]

/-- Whether a text can begin with one mark and, some characters later, with another. -/
def collide (first second : List Char) (shift : Nat) : Prop :=
  first <+: first.take shift ++ second ∨ first.take shift ++ second <+: first

theorem marks_collide : ∀ first ∈ [deviceMark, timestampMark],
    ∀ second ∈ [deviceMark, timestampMark], ∀ shift < first.length,
      collide first second shift -> shift = 0 := by
  unfold collide
  decide

/-- Of two beginnings of a text, the second one stands behind the first or runs into it. -/
theorem prefix_or_collide {first second between text : List Char} (begins : first <+: text)
    (follows : between ++ second <+: text) :
    first <+: between ∨
      ∃ shift < first.length, between = first.take shift ∧ collide first second shift := by
  rcases List.prefix_or_prefix_of_prefix begins
    ((List.prefix_append between second).trans follows) with behind | within
  · exact .inl behind
  · have taken : between = first.take between.length := List.prefix_iff_eq_take.mp within
    rcases within.length_le.lt_or_eq with shorter | same
    · refine .inr ⟨between.length, shorter, taken, ?_⟩
      rw [collide, ← taken]
      exact List.prefix_or_prefix_of_prefix begins follows
    · exact .inl (within.eq_of_length same ▸ List.prefix_refl first)

/-- Where lines of two namespaces begin alike, the mark of one stands within the other. -/
theorem prefix_lineStart {first second : List Char} (nested : lineStart space <+: lineStart other)
    (marked : first ∈ [deviceMark, timestampMark]) (others : second ∈ [deviceMark, timestampMark])
    (begins : lineStart space ++ first <+: line) (follows : lineStart other ++ second <+: line)
    (apart : upper space ≠ upper other) : lineStart space ++ first <+: lineStart other := by
  obtain ⟨between, longer⟩ := nested
  obtain ⟨text, rfl⟩ := (List.prefix_append (lineStart space) first).trans begins
  rw [← longer, List.append_assoc, List.prefix_append_right_inj] at follows
  rw [List.prefix_append_right_inj] at begins
  rw [← longer, List.prefix_append_right_inj]
  -- Only equal marks collide, and only without a shift: then both beginnings are the same.
  rcases prefix_or_collide begins follows with behind | ⟨shift, short, taken, collided⟩
  · exact behind
  · obtain rfl := marks_collide first marked second others shift short collided
    rw [taken, List.take_zero, List.append_nil] at longer
    exact absurd (upper_eq_of_lineStart_eq longer) apart

theorem prefix_lineStart_cases {first second : List Char}
    (marked : first ∈ [deviceMark, timestampMark]) (others : second ∈ [deviceMark, timestampMark])
    (begins : lineStart space ++ first <+: line) (follows : lineStart other ++ second <+: line)
    (apart : upper space ≠ upper other) :
    lineStart space ++ first <+: lineStart other ∨
      lineStart other ++ second <+: lineStart space := by
  rcases List.prefix_or_prefix_of_prefix ((List.prefix_append _ first).trans begins)
    ((List.prefix_append _ second).trans follows) with nested | nested
  · exact .inl (prefix_lineStart nested marked others begins follows apart)
  · exact .inr (prefix_lineStart nested others marked follows begins (Ne.symm apart))

theorem not_timestampStart_within (noColon : ':' ∉ upper other) :
    ¬lineStart space ++ timestampMark <+: lineStart other := by
  intro begins
  refine noColon_lineStart noColon (begins.subset ?_)
  simp [timestampMark]

/-- A line is metadata of two namespaces only if one of them encloses the other. -/
theorem encloses_of_isMetadataLine (metadata : isMetadataLine space line = true)
    (others : isMetadataLine other line = true) (apart : upper space ≠ upper other)
    (noColon : ':' ∉ upper space) (otherNoColon : ':' ∉ upper other) :
    Encloses space other ∨ Encloses other space := by
  rw [isMetadataLine, Bool.or_eq_true, beginsAs_iff, beginsAs_iff, deviceStart_eq,
    timestampStart_eq] at metadata others
  rw [Encloses, Encloses, deviceStart_eq, deviceStart_eq]
  rcases metadata with device | timestamp <;> rcases others with otherDevice | otherTimestamp
  · exact prefix_lineStart_cases (by simp) (by simp) device otherDevice apart
  · rcases prefix_lineStart_cases (by simp) (by simp) device otherTimestamp apart with
      within | colon
    · exact .inl within
    · exact absurd colon (not_timestampStart_within noColon)
  · rcases prefix_lineStart_cases (by simp) (by simp) timestamp otherDevice apart with
      colon | within
    · exact absurd colon (not_timestampStart_within otherNoColon)
    · exact .inr within
  · rcases prefix_lineStart_cases (by simp) (by simp) timestamp otherTimestamp apart with
      colon | colon
    · exact absurd colon (not_timestampStart_within otherNoColon)
    · exact absurd colon (not_timestampStart_within noColon)

/-! ## Lines of an enclosed namespace -/

theorem lineStart_prefix_of_isMetadataLine (metadata : isMetadataLine space line = true) :
    lineStart space <+: upper line := by
  rw [isMetadataLine, Bool.or_eq_true, beginsAs_iff, beginsAs_iff, deviceStart_eq,
    timestampStart_eq] at metadata
  rcases metadata with begins | begins
  · exact (List.prefix_append _ _).trans begins
  · exact (List.prefix_append _ _).trans begins

theorem Encloses.beginsAs (encloses : Encloses other space)
    (metadata : isMetadataLine space line = true) : beginsAs (deviceStart other) line = true :=
  beginsAs_iff.mpr (encloses.trans (lineStart_prefix_of_isMetadataLine metadata))

theorem Encloses.isMetadataLine (encloses : Encloses other space)
    (metadata : isMetadataLine space line = true) : isMetadataLine other line = true := by
  rw [VCard.isMetadataLine, encloses.beginsAs metadata, Bool.true_or]

/-- No line begins as a device line and as a timestamp of one namespace. -/
theorem not_beginsAs_timestampStart (device : beginsAs (deviceStart space) line = true) :
    beginsAs (timestampStart space) line = false := by
  rw [← Bool.not_eq_true]
  intro timestamp
  rw [beginsAs_iff, timestampStart_eq] at timestamp
  rw [beginsAs_iff, deviceStart_eq] at device
  obtain ⟨text, whole⟩ := (List.prefix_append _ _).trans device
  rw [← whole, List.prefix_append_right_inj] at device timestamp
  have apart : ¬deviceMark <+: timestampMark ∧ ¬timestampMark <+: deviceMark := by decide
  rcases List.prefix_or_prefix_of_prefix device timestamp with within | within
  · exact apart.1 within
  · exact apart.2 within

theorem timestampIn_of_device (device : beginsAs (deviceStart space) line = true) :
    timestampIn space line = none := by
  cases dated : timestampIn space line with
  | none => rfl
  | some n =>
      -- The reader compares the line without its end, which can only begin as less than the line.
      exfalso
      rw [timestampIn, readLine] at dated
      split at dated
      · cases read : readDevice (unterminated line)
            ((unterminated line).drop (deviceStart space).length) with
        | error fault =>
            rw [read] at dated
            cases dated
        | ok meaning =>
            rw [read] at dated
            cases meaning with
            | timestamp m => exact not_timestamp_of_readDevice read
            | _ => cases dated
      · split at dated
        · rename_i begins
          obtain ⟨tail, whole⟩ := exists_unterminated_append line
          have timestamp := beginsAs_append begins tail
          rw [← whole, not_beginsAs_timestampStart device] at timestamp
          cases timestamp
        · cases dated

theorem readLine_enclosed {rest part uidText : List Char} {uid : Uid}
    (encloses : lineStart other = deviceStart space ++ rest) (nonempty : part ≠ [])
    (noColon : ':' ∉ rest ++ part) (named : Uid.ofText (String.ofList uidText) = .ok uid)
    (unbroken : isUnbroken (lineStart other ++ part ++ ':' :: uidText) = true) :
    readLine space (lineStart other ++ part ++ ':' :: uidText ++ ['\n']) =
      .ok (.device (String.ofList (rest ++ part)) uid) := by
  have bare : unterminated (lineStart other ++ part ++ ':' :: uidText ++ ['\n']) =
      deviceStart space ++ (rest ++ part ++ ':' :: uidText) := by
    rw [unterminated_append unbroken (by simp), encloses]
    simp
  rw [readLine_deviceStart bare, readDevice_append uidText (by simp [nonempty]) noColon, named]

/-! ## Content that is kept -/

/-- What the metadata of a namespace does not say is still there without it. -/
theorem filterMap_keptLines {β : Type} {read : List Char -> Option β} {lines : List (List Char)}
    (silent : ∀ line, isMetadataLine other line = true -> read line = none) :
    (keptLines other lines).filterMap read = lines.filterMap read := by
  rw [keptLines, List.filterMap_filter]
  refine List.filterMap_congr fun line _ => ?_
  cases metadata : isMetadataLine other line with
  | false => rfl
  | true => exact (silent line metadata).symm

theorem filterMap_keptLines_append {β : Type} {read : List Char -> Option β}
    {lines footer : List (List Char)}
    (written : ∀ line ∈ footer, isMetadataLine other line = true)
    (silent : ∀ line, isMetadataLine other line = true -> read line = none) :
    (keptLines other lines ++ footer).filterMap read = lines.filterMap read := by
  have nothing : footer.filterMap read = [] :=
    List.filterMap_eq_nil_iff.mpr fun line member => silent line (written line member)
  rw [List.filterMap_append, nothing, List.append_nil, filterMap_keptLines silent]

section Footers

variable {lines : List (List Char)} {metadata written : Metadata} {digits : List Char}

def footerLines (space digits : List Char) (metadata : Metadata) : List (List Char) :=
  [deviceLine space metadata ++ ['\n'], timestampLine space digits ++ ['\n']]

theorem isMetadataLine_of_mem_footerLines (member : line ∈ footerLines space digits metadata) :
    isMetadataLine space line = true := by
  simp only [footerLines, List.mem_cons, List.not_mem_nil, or_false] at member
  rcases member with rfl | rfl
  · exact isMetadataLine_deviceLine space metadata _
  · exact isMetadataLine_timestampLine space digits _

/-- Neither what is dropped for a footer nor the footer says anything in a namespace apart. -/
theorem tells_beside_footer
    (apart : ∀ line, isMetadataLine other line = true -> isMetadataLine space line = false) :
    Tells space (keptLines other lines ++ footerLines other digits written) metadata ↔
      Tells space lines metadata := by
  have inFooter : ∀ line ∈ footerLines other digits written, isMetadataLine other line = true :=
    fun line member => isMetadataLine_of_mem_footerLines member
  exact tells_congr
    (filterMap_keptLines_append inFooter fun line among => faultIn_of_plain (apart line among))
    (filterMap_keptLines_append inFooter fun line among => deviceIn_of_plain (apart line among))
    (filterMap_keptLines_append inFooter fun line among => timestampIn_of_plain (apart line among))

theorem timestampIn_of_deviceIn {origin : String × Uid}
    (named : deviceIn space line = some origin) : timestampIn space line = none := by
  obtain ⟨meaning, read, said⟩ := Option.bind_eq_some_iff.mp named
  rw [timestampIn, read]
  cases meaning with
  | timestamp n => cases said
  | _ => rfl

/-- With a footer of an enclosing namespace, only the device line of that footer can be metadata,
and one line does not say both a device and a time. -/
theorem not_tells_with_enclosing (encloses : Encloses other space) :
    ¬Tells space (keptLines other lines ++ footerLines other digits written) metadata := by
  have only : ∀ line ∈ keptLines other lines ++ footerLines other digits written,
      isMetadataLine space line = true -> line = deviceLine other written ++ ['\n'] := by
    intro line member metadata
    rcases List.mem_append.mp member with kept | added
    · have dropped := (List.mem_filter.mp kept).2
      simp [encloses.isMetadataLine metadata] at dropped
    · simp only [footerLines, List.mem_cons, List.not_mem_nil, or_false] at added
      rcases added with rfl | rfl
      · rfl
      · have begins := encloses.beginsAs metadata
        rw [timestampLine, List.append_assoc, not_beginsAs_deviceStart] at begins
        cases begins
  rintro ⟨-, device, timestamp⟩
  obtain ⟨first, among, named⟩ := List.mem_filterMap.mp (List.mem_of_getLast? device)
  obtain ⟨second, within, dated⟩ := List.mem_filterMap.mp (List.mem_of_getLast? timestamp)
  have firstMetadata : isMetadataLine space first = true := by
    rw [← Bool.not_eq_false]
    intro plain
    simp [deviceIn_of_plain plain] at named
  have secondMetadata : isMetadataLine space second = true := by
    rw [← Bool.not_eq_false]
    intro plain
    simp [timestampIn_of_plain plain] at dated
  rw [only first among firstMetadata] at named
  rw [only second within secondMetadata, timestampIn_of_deviceIn named] at dated
  cases dated

section Enclosed

variable {rest : List Char} (encloses : lineStart other = deviceStart space ++ rest)
  (noColon : ':' ∉ upper other)

include encloses

theorem noColon_of_encloses (noColon : ':' ∉ upper other) : ':' ∉ rest := by
  intro member
  refine noColon_lineStart noColon ?_
  rw [encloses]
  exact List.mem_append_right _ member

include noColon

theorem readLine_deviceLine_enclosed (admitted : admitsDevice written.deviceId.toList = true)
    (proper : written.uid.IsProper) (unbroken : isUnbroken (deviceLine other written) = true) :
    readLine space (deviceLine other written ++ ['\n']) =
      .ok (.device (String.ofList (rest ++ (deviceMark ++ written.deviceId.toList)))
        written.uid) := by
  obtain ⟨-, deviceNoColon, -⟩ := admitsDevice_iff.mp admitted
  have named : Uid.ofText (String.ofList written.uid.text.toList) = .ok written.uid := by
    rw [String.ofList_toList]
    exact proper
  have shape : deviceLine other written = lineStart other ++
      (deviceMark ++ written.deviceId.toList) ++ ':' :: written.uid.text.toList := by
    rw [deviceLine, deviceStart_eq]
    simp
  rw [shape]
  refine readLine_enclosed encloses (by simp [deviceMark]) ?_ named (shape ▸ unbroken)
  simp [noColon_of_encloses encloses noColon, deviceMark, deviceNoColon]

theorem readLine_timestampLine_enclosed
    (number : Uid.ofText (String.ofList digits) = .ok ⟨String.ofList digits⟩)
    (unbroken : isUnbroken (timestampLine other digits) = true) :
    readLine space (timestampLine other digits ++ ['\n']) =
      .ok (.device (String.ofList (rest ++ timestampName)) ⟨String.ofList digits⟩) := by
  have shape : timestampLine other digits =
      lineStart other ++ timestampName ++ ':' :: digits := by
    rw [timestampLine, timestampStart_eq, timestampMark]
    simp
  rw [shape]
  refine readLine_enclosed encloses (by simp [timestampName]) ?_ number (shape ▸ unbroken)
  simp [noColon_of_encloses encloses noColon, timestampName]

/-- The lines of an enclosed namespace are device lines, and the last of them is its timestamp. -/
theorem tells_with_enclosed (admitted : admitsDevice written.deviceId.toList = true)
    (proper : written.uid.IsProper) (fits : FitsLines other written)
    (writes : Numeral.writeInt? written.timestamp = some digits)
    (number : Uid.ofText (String.ofList digits) = .ok ⟨String.ofList digits⟩)
    (told : Tells space lines metadata) :
    Tells space (keptLines other lines ++ footerLines other digits written)
      ⟨String.ofList (rest ++ timestampName), ⟨String.ofList digits⟩, metadata.timestamp⟩ := by
  have deviceSays := readLine_deviceLine_enclosed encloses noColon admitted proper fits.deviceLine
  have timestampSays :=
    readLine_timestampLine_enclosed encloses noColon number (fits.timestampLine writes)
  refine ⟨?_, ?_, ?_⟩
  · rw [List.filterMap_eq_nil_iff]
    intro line member
    rcases List.mem_append.mp member with kept | added
    · exact List.filterMap_eq_nil_iff.mp told.readable line (List.mem_filter.mp kept).1
    · simp only [footerLines, List.mem_cons, List.not_mem_nil, or_false] at added
      rcases added with rfl | rfl
      · exact faultIn_eq_none_iff.mpr ⟨_, deviceSays⟩
      · exact faultIn_eq_none_iff.mpr ⟨_, timestampSays⟩
  · have last : deviceIn space (timestampLine other digits ++ ['\n']) =
        some (String.ofList (rest ++ timestampName), ⟨String.ofList digits⟩) := by
      rw [deviceIn, timestampSays]
      rfl
    have split : keptLines other lines ++ footerLines other digits written =
        keptLines other lines ++ [deviceLine other written ++ ['\n']] ++
          [timestampLine other digits ++ ['\n']] := by
      simp [footerLines]
    rw [split, List.filterMap_append, List.filterMap_cons_some last, List.filterMap_nil,
      List.getLast?_concat]
  · have silent : ∀ line, isMetadataLine other line = true -> timestampIn space line = none :=
      fun line among => timestampIn_of_device (Encloses.beginsAs ⟨rest, encloses.symm⟩ among)
    rw [filterMap_keptLines_append (fun line among => isMetadataLine_of_mem_footerLines among)
      silent]
    exact told.timestamp

end Enclosed

end Footers

end Lines

/-! ## Finalizing in one namespace and reading in another -/

section Reading

variable {space other text : String} {finalized : Finalized} {metadata : Metadata}

theorem exists_tells_of_parseFinalized (parsed : parseFinalized space text = .ok finalized) :
    ∃ lines, contentLines text.toList = .ok lines ∧
      Tells space.toList lines finalized.metadata :=
  exists_parseFinalized_iff.mp ⟨finalized.body, parsed⟩

theorem exists_parseFinalized_finalText_iff {original : List Char} {lines : List (List Char)}
    {digits : List Char} {written : Metadata} (fits : FitsLines other.toList written)
    (content : contentLines original = .ok lines)
    (writes : Numeral.writeInt? written.timestamp = some digits) :
    (∃ body, parseFinalized space (String.ofList (finalText other.toList digits written lines)) =
        .ok ⟨body, metadata⟩) ↔
      Tells space.toList (keptLines other.toList lines ++ footerLines other.toList digits written)
        metadata := by
  rw [exists_parseFinalized_iff, String.toList_ofList, contentLines_finalText fits content writes,
    ← tells_finalBody_append_iff content]
  simp [footerLines]

/-- A record that is finalized in a second namespace keeps its metadata in the first one, unless one
of the namespaces encloses the other.  If the second one encloses the first, the record can no
longer be read in the first one; if it is enclosed, its footer is read as an origin there, and the
contact of the record is the number that the footer gives as the time. -/
theorem metadata_beside_other_footer {settled : String} {value : Value}
    (accepted : Settings.IsSpace space) (otherAccepted : Settings.IsSpace other)
    (apart : upper space.toList ≠ upper other.toList)
    (parsed : parseFinalized space text = .ok finalized)
    (device : Settings.deviceRule (.text metadata.deviceId) = .ok settled)
    (read : Uid.ofValue value = .ok metadata.uid)
    (wholeUid : isUnbroken metadata.uid.text.toList = true)
    (short : metadata.timestamp.natAbs < tenTo Numeral.maxDigits) :
    ∃ result, finalize other text metadata = .ok result ∧
      (¬Encloses space.toList other.toList -> ¬Encloses other.toList space.toList ->
        ∃ body, parseFinalized space result = .ok ⟨body, finalized.metadata⟩) ∧
      (Encloses other.toList space.toList -> ∃ fault, parseFinalized space result = .error fault) ∧
      ∀ rest, lineStart other.toList = deviceStart space.toList ++ rest ->
        ∃ body, parseFinalized space result = .ok ⟨body,
          ⟨String.ofList (rest ++ timestampName),
            ⟨String.ofList (Numeral.writeInt metadata.timestamp)⟩,
            finalized.metadata.timestamp⟩⟩ := by
  obtain ⟨lines, content, told⟩ := exists_tells_of_parseFinalized parsed
  obtain ⟨admitted, wholeDevice⟩ := Settings.isUnbroken_of_deviceRule device
  have fits : FitsLines other.toList metadata :=
    fitsLines_of_isUnbroken otherAccepted.isUnbroken wholeDevice wholeUid
  have written := Numeral.writeInt?_of_short (Numeral.isTooLong_eq_false_iff.mpr short)
  refine ⟨_, finalize_eq_ok_iff.mpr ⟨admitted, lines, _, content, written, rfl⟩, ?_, ?_, ?_⟩
  · intro notEnclosed notEnclosing
    rw [exists_parseFinalized_finalText_iff fits content written]
    refine (tells_beside_footer fun line inOther => ?_).mpr told
    rw [← Bool.not_eq_true]
    intro inSpace
    rcases encloses_of_isMetadataLine inSpace inOther apart accepted.noColon otherAccepted.noColon
      with encloses | encloses
    · exact notEnclosed encloses
    · exact notEnclosing encloses
  · intro encloses
    cases again : parseFinalized space
        (String.ofList (finalText other.toList (Numeral.writeInt metadata.timestamp) metadata
          lines)) with
    | error fault => exact ⟨fault, rfl⟩
    | ok reread =>
        have readable : ∃ body, parseFinalized space (String.ofList (finalText other.toList
            (Numeral.writeInt metadata.timestamp) metadata lines)) =
              .ok ⟨body, reread.metadata⟩ := ⟨reread.body, again⟩
        rw [exists_parseFinalized_finalText_iff fits content written]
          at readable
        exact absurd readable (not_tells_with_enclosing encloses)
  · intro rest encloses
    rw [exists_parseFinalized_finalText_iff fits content written]
    exact tells_with_enclosed encloses otherAccepted.noColon admitted
      (Uid.isProper_of_ofValue read) fits written (Uid.ofText_writeInt metadata.timestamp) told

end Reading

/-- The footer of a record of `alice` from a second device, in an enclosed namespace. -/
theorem metadata_beside_other_footer_enclosed :
    ∃ result, finalize "KDECONNECT-ID-DEV-2"
        "BEGIN:VCARD\nX-KDECONNECT-ID-DEV-phone:alice\nX-KDECONNECT-TIMESTAMP:5\nEND:VCARD"
        ⟨"desk", ⟨"alice"⟩, 7⟩ = .ok result ∧
      ∃ body, parseFinalized "KDECONNECT" result = .ok ⟨body, ⟨"2-TIMESTAMP", ⟨"7"⟩, 5⟩⟩ := by
  have accepted : Settings.spaceRule (.text "KDECONNECT") = .ok "KDECONNECT" := by decide
  have otherAccepted : Settings.spaceRule (.text "KDECONNECT-ID-DEV-2") =
      .ok "KDECONNECT-ID-DEV-2" := by decide
  have device : Settings.deviceRule
      (.text (Metadata.mk "desk" ⟨"alice"⟩ 7).deviceId) = .ok "desk" := by decide
  have read : Uid.ofValue (.text "alice") = .ok ⟨"alice"⟩ := rfl
  have parsed : parseFinalized "KDECONNECT"
      "BEGIN:VCARD\nX-KDECONNECT-ID-DEV-phone:alice\nX-KDECONNECT-TIMESTAMP:5\nEND:VCARD" =
        .ok ⟨"BEGIN:VCARD\n", ⟨"phone", ⟨"alice"⟩, 5⟩⟩ := rfl
  obtain ⟨result, finalized, -, -, enclosed⟩ := metadata_beside_other_footer
    ⟨_, _, accepted, .inl rfl⟩ ⟨_, _, otherAccepted, .inl rfl⟩ (by decide) parsed device read
    (by decide) (by decide +kernel)
  exact ⟨result, finalized, enclosed ['2', '-'] (by decide)⟩

end PairedContacts.VCard
