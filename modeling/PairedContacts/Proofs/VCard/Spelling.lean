import PairedContacts.Proofs.VCard.Identity
import PairedContacts.Proofs.VCard.Refinalized

/-!
# Other spellings of a footer

The beginning of a metadata line is recognized in upper case, but its value is cut out of the line
as it stands, behind as many characters as the beginning has in upper case.  Upper-casing can
lengthen a text, so a beginning in another spelling may be too short for that, and then the value
loses its front.  A footer says the same exactly in the spellings that have its lengths.
-/

set_option autoImplicit false

namespace PairedContacts.VCard

open Text

/-- Beginnings that are those of the metadata lines of a namespace, once they are in upper case. -/
structure Spells (space device timestamp : List Char) : Prop where
  device : upper device = deviceStart space
  timestamp : upper timestamp = timestampStart space

/-- The record that finalizing gives, with other beginnings of its metadata lines. -/
def respelled (space raw : String) (metadata : Metadata) (device timestamp : List Char) : String :=
  String.ofList (withLines (endWithLineFeed (keptText space.toList raw.toList))
    (device ++ deviceValue metadata) (timestamp ++ Numeral.writeInt metadata.timestamp))

/-! ## Single lines -/

section Lines

variable {space start line rest : List Char}

theorem beginsAs_of_upper (capital : upper line = start) (rest : List Char) :
    beginsAs start (line ++ rest) = true := by
  rw [beginsAs_iff, upper_append, capital]
  exact List.prefix_append _ _

theorem drop_of_upper (capital : upper line = start) :
    (line ++ rest).drop start.length = rest.drop (start.length - line.length) := by
  have longer : line.length ≤ start.length := capital ▸ length_le_length_upper line
  rw [List.drop_append, List.drop_of_length_le longer, List.nil_append]

theorem readLine_of_device (capital : upper line = deviceStart space)
    (unbroken : isUnbroken (line ++ rest) = true) :
    readLine space (line ++ rest ++ ['\n']) =
      readDevice (line ++ rest) (rest.drop ((deviceStart space).length - line.length)) := by
  rw [readLine, unterminated_append unbroken (by simp), if_pos (beginsAs_of_upper capital rest),
    drop_of_upper capital]

theorem readLine_of_timestamp (capital : upper line = timestampStart space)
    (unbroken : isUnbroken (line ++ rest) = true) :
    readLine space (line ++ rest ++ ['\n']) =
      readTimestamp (line ++ rest) (rest.drop ((timestampStart space).length - line.length)) := by
  have other : beginsAs (deviceStart space) (line ++ rest) = false := by
    have same : upper (line ++ rest) = upper (timestampStart space ++ rest) := by
      rw [upper_append, upper_append, capital, upper_timestampStart]
    rw [beginsAs, same, ← beginsAs, not_beginsAs_deviceStart]
  rw [readLine, unterminated_append unbroken (by simp), other, if_neg Bool.false_ne_true,
    if_pos (beginsAs_of_upper capital rest), drop_of_upper capital]

theorem readInt_of_readTimestamp {n : Int} (read : readTimestamp line rest = .ok (.timestamp n)) :
    Numeral.readInt (trim rest) = .ok n := by
  rw [readTimestamp] at read
  split at read
  · rename_i given
    cases read
    exact given
  · cases read

end Lines

/-! ## Respelled records -/

section Records

variable {space raw : String} {metadata : Metadata} {lines : List (List Char)}
  {device timestamp : List Char}

theorem respelled_eq (content : contentLines raw.toList = .ok lines)
    (device timestamp : List Char) :
    respelled space raw metadata device timestamp =
      String.ofList (withLines (finalBody space.toList lines) (device ++ deviceValue metadata)
        (timestamp ++ Numeral.writeInt metadata.timestamp)) := by
  rw [respelled, finalBody_of_contentLines content]

theorem Spells.isFooterLine_device (spells : Spells space.toList device timestamp)
    (fits : FitsLines space.toList metadata) :
    IsFooterLine space.toList (device ++ deviceValue metadata) := by
  constructor
  · rw [isUnbroken_append, ← isUnbroken_upper device, spells.device, isUnbroken_deviceStart,
      fits.space, fits.value]
    rfl
  · rw [isMetadataLine, beginsAs_of_upper spells.device, Bool.true_or]

theorem Spells.isFooterLine_timestamp (spells : Spells space.toList device timestamp)
    (whole : isUnbroken space.toList = true) (n : Int) :
    IsFooterLine space.toList (timestamp ++ Numeral.writeInt n) := by
  constructor
  · rw [isUnbroken_append, ← isUnbroken_upper timestamp, spells.timestamp,
      isUnbroken_timestampStart, whole, Numeral.isUnbroken_writeInt]
    rfl
  · rw [isMetadataLine, beginsAs_of_upper spells.timestamp, Bool.or_true]

/-- A spelling of the same lengths says the same. -/
theorem parseFinalized_respelled (spells : Spells space.toList device timestamp)
    (fits : FitsLines space.toList metadata)
    (admitted : admitsDevice metadata.deviceId.toList = true) (proper : metadata.uid.IsProper)
    (content : contentLines raw.toList = .ok lines)
    (written : Numeral.writeInt? metadata.timestamp = some (Numeral.writeInt metadata.timestamp))
    (sameDevice : device.length = (deviceStart space.toList).length)
    (sameTimestamp : timestamp.length = (timestampStart space.toList).length) :
    parseFinalized space (respelled space raw metadata device timestamp) =
      .ok ⟨String.ofList (finalBody space.toList lines), metadata⟩ := by
  obtain ⟨nonempty, noColon, -⟩ := admitsDevice_iff.mp admitted
  have one := spells.isFooterLine_device fits
  have other := spells.isFooterLine_timestamp fits.space metadata.timestamp
  have read : Uid.ofText (String.ofList metadata.uid.text.toList) = .ok metadata.uid := by
    rw [String.ofList_toList]
    exact proper
  rw [respelled_eq content]
  refine parseFinalized_withLines fits.space content one other ?_ ?_
  · rw [readLine_of_device spells.device one.unbroken, sameDevice, Nat.sub_self, List.drop_zero]
    conv => lhs; rw [deviceValue]
    rw [readDevice_append _ nonempty noColon, read, String.ofList_toList]
  · rw [readLine_of_timestamp spells.timestamp other.unbroken, sameTimestamp, Nat.sub_self,
      List.drop_zero, readTimestamp, Numeral.readInt_of_writeInt? written]

/-- In a shorter spelling the values lose their front, and what is left of them is read. -/
theorem exists_of_parseFinalized_respelled {finalized : Finalized}
    (spells : Spells space.toList device timestamp) (fits : FitsLines space.toList metadata)
    (content : contentLines raw.toList = .ok lines)
    (parsed : parseFinalized space (respelled space raw metadata device timestamp) =
      .ok finalized) :
    finalized.body = String.ofList (finalBody space.toList lines) ∧
      deviceValue finalized.metadata =
        (deviceValue metadata).drop ((deviceStart space.toList).length - device.length) ∧
      Numeral.readInt (trim ((Numeral.writeInt metadata.timestamp).drop
        ((timestampStart space.toList).length - timestamp.length))) =
          .ok finalized.metadata.timestamp := by
  have one := spells.isFooterLine_device fits
  have other := spells.isFooterLine_timestamp fits.space metadata.timestamp
  rw [respelled_eq content] at parsed
  have divided := contentLines_withLines fits.space content one other
  -- A line of the footer that cannot be read would leave nothing to be read of the record.
  have readable : ∀ line ∈ [device ++ deviceValue metadata ++ ['\n'],
      timestamp ++ Numeral.writeInt metadata.timestamp ++ ['\n']], ∀ fault,
        readLine space.toList line ≠ .error fault := by
    intro line member fault fails
    have unreadable : ∀ found, contentLines (String.ofList (withLines (finalBody space.toList lines)
        (device ++ deviceValue metadata)
        (timestamp ++ Numeral.writeInt metadata.timestamp))).toList = .ok found ->
          ∃ line ∈ found, ∃ fault, readLine space.toList line = .error fault := by
      intro found divides
      rw [String.toList_ofList, divided] at divides
      obtain rfl := Except.ok.inj divides
      exact ⟨line, List.mem_append_right _ member, fault, fails⟩
    obtain ⟨first, refused⟩ := parseFinalized_of_unreadable unreadable
    rw [refused] at parsed
    cases parsed
  have named := readLine_of_device spells.device one.unbroken
  have dated := readLine_of_timestamp spells.timestamp other.unbroken
  rcases readDevice_cases (device ++ deviceValue metadata) ((deviceValue metadata).drop
      ((deviceStart space.toList).length - device.length)) with
    ⟨deviceId, uid, given, value, -⟩ | ⟨fault, fails⟩
  · rcases readTimestamp_cases (timestamp ++ Numeral.writeInt metadata.timestamp)
        ((Numeral.writeInt metadata.timestamp).drop
          ((timestampStart space.toList).length - timestamp.length)) with
      ⟨n, told, -⟩ | ⟨fault, fails⟩
    · have whole : parseFinalized space (String.ofList (withLines (finalBody space.toList lines)
          (device ++ deviceValue metadata)
          (timestamp ++ Numeral.writeInt metadata.timestamp))) =
            .ok ⟨String.ofList (finalBody space.toList lines), ⟨deviceId, uid, n⟩⟩ :=
        parseFinalized_withLines fits.space content one other (named.trans given)
          (dated.trans told)
      rw [parsed] at whole
      obtain rfl := Except.ok.inj whole
      exact ⟨rfl, value.symm, readInt_of_readTimestamp told⟩
    · exact absurd (dated.trans fails) (readable _ (by simp) fault)
  · exact absurd (named.trans fails) (readable _ (by simp) fault)

/-- A record that still says the same is in a spelling of the same lengths. -/
theorem Spells.lengths_of_parseFinalized {body : String}
    (spells : Spells space.toList device timestamp) (fits : FitsLines space.toList metadata)
    (content : contentLines raw.toList = .ok lines)
    (parsed : parseFinalized space (respelled space raw metadata device timestamp) =
      .ok ⟨body, metadata⟩) :
    device.length = (deviceStart space.toList).length ∧
      timestamp.length = (timestampStart space.toList).length := by
  obtain ⟨-, value, told⟩ := exists_of_parseFinalized_respelled spells fits content parsed
  have deviceShorter : device.length ≤ (deviceStart space.toList).length :=
    spells.device ▸ length_le_length_upper device
  have timestampShorter : timestamp.length ≤ (timestampStart space.toList).length :=
    spells.timestamp ▸ length_le_length_upper timestamp
  constructor
  · have left : (deviceValue metadata).length = ((deviceValue metadata).drop
        ((deviceStart space.toList).length - device.length)).length := congrArg List.length value
    have some : 0 < (deviceValue metadata).length :=
      List.length_pos_iff.mpr (by simp [deviceValue])
    rw [List.length_drop] at left
    omega
  · by_contra different
    exact Numeral.readInt_drop_writeInt (by omega) told

end Records

/-- A finalized record is read alike in another spelling of its beginnings exactly if they have as
many characters as in upper case.  In a broken namespace it cannot be read in any spelling. -/
theorem parseFinalized_respelled_iff {space raw text : String} {metadata : Metadata} {value : Value}
    (done : finalize space raw metadata = .ok text)
    (wholeDevice : isUnbroken metadata.deviceId.toList = true)
    (read : Uid.ofValue value = .ok metadata.uid)
    (wholeUid : isUnbroken metadata.uid.text.toList = true) :
    text = respelled space raw metadata (deviceStart space.toList) (timestampStart space.toList) ∧
      ∀ device timestamp, Spells space.toList device timestamp ->
        ((parseFinalized space (respelled space raw metadata device timestamp)).toOption =
            (parseFinalized space text).toOption ↔
          (isUnbroken space.toList = true ->
            device.length = (deviceStart space.toList).length ∧
              timestamp.length = (timestampStart space.toList).length)) := by
  obtain ⟨admitted, lines, digits, content, written, final⟩ := finalize_eq_ok_iff.mp done
  have proper := Uid.isProper_of_ofValue read
  obtain rfl := Numeral.eq_writeInt_of_writeInt? written
  refine ⟨?_, fun device timestamp spells => ?_⟩
  · rw [final, respelled_eq content, finalText_eq, deviceLine_eq, timestampLine]
  · cases whole : isUnbroken space.toList with
    | false =>
        obtain ⟨fault, fails⟩ := parseFinalized_of_broken_space
          (respelled space raw metadata device timestamp) whole
        obtain ⟨ownFault, ownFails⟩ := parseFinalized_of_broken_space text whole
        rw [fails, ownFails]
        exact iff_of_true rfl fun impossible => absurd impossible Bool.false_ne_true
    | true =>
        have fits := fitsLines_of_isUnbroken whole wholeDevice wholeUid
        have own : parseFinalized space text =
            .ok ⟨String.ofList (finalBody space.toList lines), metadata⟩ := by
          rw [final]
          exact parseFinalized_finalText fits admitted proper content written
        rw [own]
        constructor
        · intro same _
          cases parsed : parseFinalized space (respelled space raw metadata device timestamp) with
          | error fault =>
              rw [parsed] at same
              cases same
          | ok finalized =>
              rw [parsed] at same
              obtain rfl := Option.some.inj same
              exact spells.lengths_of_parseFinalized fits content parsed
        · intro lengths
          obtain ⟨sameDevice, sameTimestamp⟩ := lengths rfl
          rw [parseFinalized_respelled spells fits admitted proper content written sameDevice
            sameTimestamp]

/-- A beginning with a ligature that becomes two letters. -/
def ligatureStart : List Char :=
  "X-KDECONNECT-TIME\ufb06AMP:".toList

def ligatureRecord : String :=
  respelled "KDECONNECT" "BEGIN:VCARD\nEND:VCARD" ⟨"phone", ⟨"alice"⟩, 17⟩
    (deviceStart "KDECONNECT".toList) ligatureStart

/-- The ligature costs the time of the record its first digit. -/
theorem parseFinalized_respelled_iff_ligature :
    upper ligatureStart = timestampStart "KDECONNECT".toList ∧
      (parseFinalized "KDECONNECT" ligatureRecord).toOption =
        some ⟨"BEGIN:VCARD\n", ⟨"phone", ⟨"alice"⟩, 7⟩⟩ ∧
      ∃ text, finalize "KDECONNECT" "BEGIN:VCARD\nEND:VCARD" ⟨"phone", ⟨"alice"⟩, 17⟩ = .ok text ∧
        (parseFinalized "KDECONNECT" ligatureRecord).toOption ≠
          (parseFinalized "KDECONNECT" text).toOption := by
  have spells : Spells "KDECONNECT".toList (deviceStart "KDECONNECT".toList) ligatureStart :=
    ⟨by decide +kernel, by decide +kernel⟩
  have short : Numeral.isTooLong 17 = false :=
    Numeral.isTooLong_eq_false_iff.mpr (by decide +kernel)
  have record : insertionPoint "BEGIN:VCARD\nEND:VCARD".toList = .ok 12 := rfl
  obtain ⟨text, done⟩ : ∃ text, finalize "KDECONNECT" "BEGIN:VCARD\nEND:VCARD"
      ⟨"phone", ⟨"alice"⟩, 17⟩ = .ok text :=
    (exists_finalize_iff (by decide) short).mpr ⟨12, record⟩
  have read : Uid.ofValue (.text "alice") = .ok ⟨"alice"⟩ := rfl
  refine ⟨spells.timestamp, by decide +kernel, text, done, fun same => ?_⟩
  have lengths := ((parseFinalized_respelled_iff done (by decide) read (by decide)).2 _ _
    spells).mp same (by decide)
  exact absurd lengths.2 (by decide +kernel)

end PairedContacts.VCard
