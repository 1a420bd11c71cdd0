import PairedContacts.Proofs.Outcome
import PairedContacts.Proofs.VCard.MetadataLine

/-!
# Writing a footer and reading it

A finalized record reads back to the metadata that was written into it and to its other content,
and finalizing that content again gives the same record.  This holds exactly when namespace, device
id and uID have no line break: otherwise the footer is torn, and the record cannot be read at all.
-/

set_option autoImplicit false

namespace PairedContacts.VCard

open Text

/-- The content lines of a record that stay when its footer is written. -/
def keptLines (space : List Char) (lines : List (List Char)) : List (List Char) :=
  lines.filter fun line => !isMetadataLine space line

def finalBody (space : List Char) (lines : List (List Char)) : List Char :=
  endWithLineFeed (keptLines space lines).flatten

def finalText (space digits : List Char) (metadata : Metadata) (lines : List (List Char)) :
    List Char :=
  finalBody space lines ++ footer space digits metadata ++ endMarker

theorem finalize_of_fault {space raw : String} {metadata : Metadata} {fault : RecordFault}
    (admitted : admitsDevice metadata.deviceId.toList = true)
    (content : contentLines raw.toList = .error fault) :
    finalize space raw metadata = .error (.record fault) := by
  rw [finalize, admitted, content]
  rfl

theorem finalize_of_unwritten {space raw : String} {metadata : Metadata}
    {lines : List (List Char)} (admitted : admitsDevice metadata.deviceId.toList = true)
    (content : contentLines raw.toList = .ok lines)
    (unwritten : Numeral.writeInt? metadata.timestamp = none) :
    finalize space raw metadata = .error .longTimestamp := by
  simp only [finalize, admitted, content, unwritten]
  rfl

theorem finalize_eq_ok_iff {space raw text : String} {metadata : Metadata} :
    finalize space raw metadata = .ok text ↔
      admitsDevice metadata.deviceId.toList = true ∧
        ∃ lines digits, contentLines raw.toList = .ok lines ∧
          Numeral.writeInt? metadata.timestamp = some digits ∧
          text = String.ofList (finalText space.toList digits metadata lines) := by
  cases admitted : admitsDevice metadata.deviceId.toList with
  | false =>
      have refused : finalize space raw metadata = .error (.deviceId metadata.deviceId) := by
        rw [finalize, admitted]
        rfl
      simp [refused]
  | true =>
      cases content : contentLines raw.toList with
      | error fault => simp [finalize_of_fault admitted content]
      | ok lines =>
          cases written : Numeral.writeInt? metadata.timestamp with
          | none => simp [finalize_of_unwritten admitted content written]
          | some digits =>
              have done : finalize space raw metadata =
                  .ok (String.ofList (finalText space.toList digits metadata lines)) := by
                simp only [finalize, admitted, content, written]
                rfl
              simp [done, eq_comm]

/-- A record is finalized exactly if it has a place for the footer. -/
theorem exists_finalize_iff {space raw : String} {metadata : Metadata}
    (admitted : admitsDevice metadata.deviceId.toList = true)
    (short : Numeral.isTooLong metadata.timestamp = false) :
    (∃ text, finalize space raw metadata = .ok text) ↔
      ∃ offset, insertionPoint raw.toList = .ok offset := by
  have content : (∃ lines, contentLines raw.toList = .ok lines) ↔
      ∃ offset, insertionPoint raw.toList = .ok offset := by
    rw [contentLines]
    cases insertionPoint raw.toList <;> simp [Except.map]
  rw [← content]
  constructor
  · rintro ⟨text, done⟩
    obtain ⟨-, lines, -, found, -⟩ := finalize_eq_ok_iff.mp done
    exact ⟨lines, found⟩
  · rintro ⟨lines, found⟩
    exact ⟨_, finalize_eq_ok_iff.mpr
      ⟨admitted, lines, _, found, Numeral.writeInt?_of_short short, rfl⟩⟩

/-! ## The lines of a finalized record -/

theorem finalBody_ends (space : List Char) (lines : List (List Char)) :
    finalBody space lines = [] ∨ (finalBody space lines).getLast? = some '\n' := by
  rw [finalBody, endWithLineFeed]
  split
  · rename_i short
    simpa using short
  · exact .inr (by simp)

theorem finalBody_append (space : List Char) (lines : List (List Char)) (rest : List Char) :
    splitLines (finalBody space lines ++ rest) =
      splitLines (finalBody space lines) ++ splitLines rest := by
  rcases finalBody_ends space lines with empty | feeds
  · rw [empty]
    rfl
  · exact splitLines_append_of_feed feeds rest

theorem finalBody_eq_flatten (space : List Char) (lines : List (List Char)) :
    finalBody space lines = (keptLines space lines).flatten ∨
      finalBody space lines = (keptLines space lines ++ [['\n']]).flatten := by
  rw [finalBody, endWithLineFeed]
  split
  · exact .inl rfl
  · exact .inr (by simp)

theorem facts_of_mem_keptLines {space text part : List Char} {lines : List (List Char)}
    (content : contentLines text = .ok lines) (member : part ∈ keptLines space lines) :
    splitLines part = [part] ∧ isEnded part = true ∧
      isEndMarker part = false ∧ isMetadataLine space part = false := by
  obtain ⟨marker, after, divided⟩ := contentLines_eq_ok_iff.mp content
  obtain ⟨here, plain⟩ := List.mem_filter.mp member
  have within : part ∈ splitLines text := by
    rw [divided.split]
    exact List.mem_append_left _ here
  exact ⟨splitLines_line within, divided.isEnded part here, divided.unmarked part here,
    by simpa using plain⟩

/-- No line of the kept content is taken for an end marker or for metadata, even where a line feed
has come to a carriage return. -/
theorem plain_of_mem_finalBody {space text line : List Char} {lines : List (List Char)}
    (unbroken : isUnbroken space = true) (content : contentLines text = .ok lines)
    (member : line ∈ splitLines (finalBody space lines)) :
    isEndMarker line = false ∧ isMetadataLine space line = false := by
  have feed : isEndMarker ['\n'] = false ∧ isMetadataLine space ['\n'] = false := by
    have none : isMetadataLine space [] = false := by
      simp [isMetadataLine, beginsAs, deviceStart, timestampStart, upper_nil]
    exact ⟨by decide, isMetadataLine_append_lineFeed unbroken none⟩
  -- The line feed that may have been added is treated as one more line that is kept.
  have kept : ∀ part ∈ keptLines space lines ++ [['\n']],
      splitLines part = [part] ∧ isEnded part = true ∧
        isEndMarker part = false ∧ isMetadataLine space part = false := by
    intro part here
    rcases List.mem_append.mp here with here | here
    · exact facts_of_mem_keptLines content here
    · obtain rfl := List.mem_singleton.mp here
      exact ⟨rfl, isLineBreak_lineFeed, feed⟩
  have whole : ∀ parts : List (List Char),
      (∀ part ∈ parts, part ∈ keptLines space lines ++ [['\n']]) ->
      line ∈ splitLines parts.flatten ->
      isEndMarker line = false ∧ isMetadataLine space line = false := by
    intro parts among joined
    rcases mem_splitLines_flatten (fun part here => (kept part (among part here)).1)
      (fun part here => (kept part (among part here)).2.1) joined with here | ⟨part, here, rfl⟩
    · exact (kept line (among line here)).2.2
    · obtain ⟨-, -, unmarked, plain⟩ := kept part (among part here)
      rw [isEndMarker_append_lineFeed]
      exact ⟨unmarked, isMetadataLine_append_lineFeed unbroken plain⟩
  rcases finalBody_eq_flatten space lines with flat | flat <;> rw [flat] at member
  · exact whole _ (fun part here => List.mem_append_left _ here) member
  · exact whole _ (fun part here => here) member

theorem splitLines_append_endMarker {text : List Char} (feeds : text.getLast? = some '\n') :
    splitLines (text ++ endMarker) = splitLines text ++ [endMarker] := by
  rw [splitLines_append_of_feed feeds]
  rfl

/-- Kept content with two lines behind it, and the end of a record. -/
def withLines (body first second : List Char) : List Char :=
  body ++ (first ++ '\n' :: (second ++ '\n' :: endMarker))

theorem finalText_eq (space digits : List Char) (metadata : Metadata) (lines : List (List Char)) :
    finalText space digits metadata lines = withLines (finalBody space lines)
      (deviceLine space metadata) (timestampLine space digits) := by
  simp [finalText, withLines, footer]

/-- A line that can stand in a footer. -/
structure IsFooterLine (space line : List Char) : Prop where
  unbroken : isUnbroken line = true
  metadata : isMetadataLine space line = true

theorem contentLines_withLines {space text first second : List Char} {lines : List (List Char)}
    (whole : isUnbroken space = true) (content : contentLines text = .ok lines)
    (one : IsFooterLine space first) (other : IsFooterLine space second) :
    contentLines (withLines (finalBody space lines) first second) =
      .ok (splitLines (finalBody space lines) ++ [first ++ ['\n'], second ++ ['\n']]) := by
  have shape : first ++ '\n' :: (second ++ '\n' :: endMarker) =
      (first ++ ['\n']) ++ ((second ++ ['\n']) ++ endMarker) := by
    simp
  rw [contentLines_eq_ok_iff]
  refine ⟨endMarker, [], ?_, ?_, isEndMarker_endMarker, by simp⟩
  · rw [withLines, finalBody_append, shape, splitLines_append_of_feed List.getLast?_concat,
      splitLines_append_endMarker List.getLast?_concat, splitLines_concat one.unbroken,
      splitLines_concat other.unbroken]
    simp
  · intro line member
    rcases List.mem_append.mp member with kept | added
    · exact (plain_of_mem_finalBody whole content kept).1
    · simp only [List.mem_cons, List.not_mem_nil, or_false] at added
      rcases added with rfl | rfl <;> rw [isEndMarker_append_lineFeed]
      · exact not_isEndMarker_of_isMetadataLine one.metadata
      · exact not_isEndMarker_of_isMetadataLine other.metadata

/-- What the parts of a footer have to be for its lines to stay whole. -/
structure FitsLines (space : List Char) (metadata : Metadata) : Prop where
  space : isUnbroken space = true
  value : isUnbroken (deviceValue metadata) = true

theorem FitsLines.deviceLine {space : List Char} {metadata : Metadata}
    (fits : FitsLines space metadata) : isUnbroken (deviceLine space metadata) = true := by
  rw [deviceLine_eq, isUnbroken_append, isUnbroken_deviceStart, fits.space, fits.value]
  rfl

theorem FitsLines.timestampLine {space digits : List Char} {metadata : Metadata}
    (fits : FitsLines space metadata)
    (written : Numeral.writeInt? metadata.timestamp = some digits) :
    isUnbroken (timestampLine space digits) = true := by
  rw [VCard.timestampLine, isUnbroken_append, isUnbroken_timestampStart, fits.space,
    Numeral.isUnbroken_of_writeInt? written]
  rfl

theorem FitsLines.isFooterLine_device {space : List Char} {metadata : Metadata}
    (fits : FitsLines space metadata) : IsFooterLine space (VCard.deviceLine space metadata) :=
  ⟨fits.deviceLine, by simpa using isMetadataLine_deviceLine space metadata []⟩

theorem FitsLines.isFooterLine_timestamp {space digits : List Char} {metadata : Metadata}
    (fits : FitsLines space metadata)
    (written : Numeral.writeInt? metadata.timestamp = some digits) :
    IsFooterLine space (VCard.timestampLine space digits) :=
  ⟨fits.timestampLine written, by simpa using isMetadataLine_timestampLine space digits []⟩

theorem contentLines_finalText {space digits text : List Char} {metadata : Metadata}
    {lines : List (List Char)} (fits : FitsLines space metadata)
    (content : contentLines text = .ok lines)
    (written : Numeral.writeInt? metadata.timestamp = some digits) :
    contentLines (finalText space digits metadata lines) =
      .ok (splitLines (finalBody space lines) ++
        [deviceLine space metadata ++ ['\n'], timestampLine space digits ++ ['\n']]) := by
  rw [finalText_eq]
  exact contentLines_withLines fits.space content fits.isFooterLine_device
    (fits.isFooterLine_timestamp written)

/-! ## Reading -/

def assemble (lines : List (List Char)) (meanings : List LineMeaning) :
    Except RecordFault Finalized :=
  match meanings.reverse.findSome? LineMeaning.device? with
  | none => .error .noDeviceLine
  | some (deviceId, uid) =>
      match meanings.reverse.findSome? LineMeaning.timestamp? with
      | none => .error .noTimestampLine
      | some timestamp =>
          let kept := (lines.zip meanings).filter fun pair => pair.2.isContent
          .ok ⟨String.ofList (kept.map Prod.fst).flatten, ⟨deviceId, uid, timestamp⟩⟩

theorem parseFinalized_of_content {space text : String} {lines : List (List Char)}
    {meanings : List LineMeaning} (content : contentLines text.toList = .ok lines)
    (read : lines.mapM (readLine space.toList) = .ok meanings) :
    parseFinalized space text = assemble lines meanings := by
  rw [parseFinalized, content]
  simp only [bind, Except.bind, read]
  rfl

theorem exists_content_of_parseFinalized {space text : String} {finalized : Finalized}
    (parsed : parseFinalized space text = .ok finalized) :
    ∃ lines meanings, contentLines text.toList = .ok lines ∧
      lines.mapM (readLine space.toList) = .ok meanings ∧
      assemble lines meanings = .ok finalized := by
  cases content : contentLines text.toList with
  | error fault =>
      rw [parseFinalized, content] at parsed
      cases parsed
  | ok lines =>
      cases read : lines.mapM (readLine space.toList) with
      | error fault =>
          rw [parseFinalized, content] at parsed
          simp only [bind, Except.bind, read] at parsed
          cases parsed
      | ok meanings =>
          rw [parseFinalized_of_content content read] at parsed
          exact ⟨lines, meanings, rfl, read, parsed⟩

theorem parseFinalized_of_unreadable {space text : String}
    (unreadable : ∀ lines, contentLines text.toList = .ok lines ->
      ∃ line ∈ lines, ∃ fault, readLine space.toList line = .error fault) :
    ∃ fault, parseFinalized space text = .error fault := by
  rw [parseFinalized]
  cases content : contentLines text.toList with
  | error fault => exact ⟨fault, rfl⟩
  | ok lines =>
      obtain ⟨line, member, fault, fails⟩ := unreadable lines content
      obtain ⟨first, failed⟩ := mapM_eq_error member fails
      refine ⟨first, ?_⟩
      simp only [bind, Except.bind, failed]

theorem assemble_content (lines : List (List Char)) (device timestamp : List Char)
    (metadata : Metadata) :
    assemble (lines ++ [device, timestamp]) ((lines.map fun _ => LineMeaning.content) ++
        [.device metadata.deviceId metadata.uid, .timestamp metadata.timestamp]) =
      .ok ⟨String.ofList lines.flatten, metadata⟩ := by
  have paired : lines.zip (lines.map fun _ => LineMeaning.content) =
      lines.map fun line => (line, LineMeaning.content) := by
    simpa using List.zip_map' (l := lines) (f := id) (g := fun _ => LineMeaning.content)
  have kept : ((lines.map fun line => (line, LineMeaning.content)).filter
      fun pair => pair.2.isContent) = lines.map fun line => (line, LineMeaning.content) := by
    rw [List.filter_eq_self]
    simp [LineMeaning.isContent]
  have device : ([LineMeaning.device metadata.deviceId metadata.uid,
      .timestamp metadata.timestamp].reverse ++
        (lines.map fun _ => LineMeaning.content).reverse).findSome? LineMeaning.device? =
      some (metadata.deviceId, metadata.uid) := rfl
  have timestamp : ([LineMeaning.device metadata.deviceId metadata.uid,
      .timestamp metadata.timestamp].reverse ++
        (lines.map fun _ => LineMeaning.content).reverse).findSome? LineMeaning.timestamp? =
      some metadata.timestamp := rfl
  rw [assemble, List.reverse_append, device, timestamp, List.zip_append (by simp), paired,
    List.filter_append, kept]
  simp [LineMeaning.isContent, Function.comp_def]

theorem parseFinalized_withLines {space : String} {text first second : List Char}
    {metadata : Metadata} {lines : List (List Char)} (whole : isUnbroken space.toList = true)
    (content : contentLines text = .ok lines) (one : IsFooterLine space.toList first)
    (other : IsFooterLine space.toList second)
    (named : readLine space.toList (first ++ ['\n']) = .ok (.device metadata.deviceId metadata.uid))
    (dated : readLine space.toList (second ++ ['\n']) = .ok (.timestamp metadata.timestamp)) :
    parseFinalized space
        (String.ofList (withLines (finalBody space.toList lines) first second)) =
      .ok ⟨String.ofList (finalBody space.toList lines), metadata⟩ := by
  have divided := contentLines_withLines whole content one other
  have plain : ∀ line ∈ splitLines (finalBody space.toList lines),
      readLine space.toList line = .ok .content := by
    intro line member
    exact readLine_of_plain (plain_of_mem_finalBody whole content member).2
  have meanings : (splitLines (finalBody space.toList lines) ++
        [first ++ ['\n'], second ++ ['\n']]).mapM (readLine space.toList) =
      .ok (((splitLines (finalBody space.toList lines)).map fun _ => LineMeaning.content) ++
        [.device metadata.deviceId metadata.uid, .timestamp metadata.timestamp]) := by
    rw [List.mapM_append, mapM_eq_ok plain]
    simp only [List.mapM_cons, named, dated]
    rfl
  rw [parseFinalized_of_content (by rwa [String.toList_ofList]) meanings, assemble_content,
    flatten_splitLines]

/-- A finalized record with whole footer lines reads back to its content and its metadata. -/
theorem parseFinalized_finalText {space : String} {digits text : List Char} {metadata : Metadata}
    {lines : List (List Char)} (fits : FitsLines space.toList metadata)
    (admitted : admitsDevice metadata.deviceId.toList = true) (proper : metadata.uid.IsProper)
    (content : contentLines text = .ok lines)
    (written : Numeral.writeInt? metadata.timestamp = some digits) :
    parseFinalized space (String.ofList (finalText space.toList digits metadata lines)) =
      .ok ⟨String.ofList (finalBody space.toList lines), metadata⟩ := by
  rw [finalText_eq]
  exact parseFinalized_withLines fits.space content fits.isFooterLine_device
    (fits.isFooterLine_timestamp written) (readLine_deviceLine admitted proper fits.deviceLine)
    (readLine_timestampLine fits.space written)

/-! ## Torn footers -/

/-- In a broken namespace no record can be read. -/
theorem parseFinalized_of_broken_space {space : String} (text : String)
    (broken : isUnbroken space.toList = false) :
    ∃ fault, parseFinalized space text = .error fault := by
  cases content : contentLines text.toList with
  | error fault =>
      refine ⟨fault, ?_⟩
      rw [parseFinalized, content]
      rfl
  | ok lines =>
      obtain ⟨marker, after, divided⟩ := contentLines_eq_ok_iff.mp content
      have plain : ∀ line ∈ lines, readLine space.toList line = .ok .content := by
        intro line member
        have within : line ∈ splitLines text.toList := by
          rw [divided.split]
          exact List.mem_append_left _ member
        exact readLine_of_broken broken within
      have none : ((lines.map fun _ => LineMeaning.content).reverse.findSome?
          LineMeaning.device?) = none := by
        simp [LineMeaning.device?]
      refine ⟨.noDeviceLine, ?_⟩
      rw [parseFinalized_of_content content (mapM_eq_ok plain), assemble, none]

/-- A record whose device line is cut by a line break cannot be read. -/
theorem parseFinalized_of_broken_value {space : String} {digits : List Char} {metadata : Metadata}
    {lines : List (List Char)} (admitted : admitsDevice metadata.deviceId.toList = true)
    (proper : metadata.uid.IsProper) (unbroken : isUnbroken space.toList = true)
    (broken : isUnbroken (deviceValue metadata) = false) :
    ∃ fault, parseFinalized space
      (String.ofList (finalText space.toList digits metadata lines)) = .error fault := by
  obtain ⟨before, c, after, value, front, breaks⟩ := exists_first_break broken
  have unbrokenFront : isUnbroken (deviceStart space.toList ++ before) = true := by
    rw [isUnbroken_append, isUnbroken_deviceStart, unbroken, front]
    rfl
  have shape : finalText space.toList digits metadata lines = finalBody space.toList lines ++
      (deviceStart space.toList ++ before ++ [c] ++
        (after ++ '\n' :: timestampLine space.toList digits ++ ['\n'] ++ endMarker)) := by
    simp [finalText, footer, deviceLine_eq, value]
  have apart : partsPair [c] (after ++ ('\n' :: timestampLine space.toList digits ++ ['\n'] ++
      endMarker)) = false :=
    not_partsPair_of_value admitted proper value
  have single : partsPair (deviceStart space.toList ++ before ++ [c])
      (after ++ '\n' :: timestampLine space.toList digits ++ ['\n'] ++ endMarker) = false := by
    simpa [partsPair] using apart
  -- The first break ends a line, so what was written in front of it is a line of its own.
  refine parseFinalized_of_unreadable fun content divides => ?_
  obtain ⟨marker, blanks, divided⟩ := contentLines_eq_ok_iff.mp divides
  rw [String.toList_ofList, shape, finalBody_append, splitLines_append
    (.inr (by simp [isEnded, breaks])) single, splitLines_concat unbrokenFront,
    splitLines_append_endMarker List.getLast?_concat, ← List.append_assoc, ← List.append_assoc]
    at divided
  rw [divided.eq_of_concat isEndMarker_endMarker]
  exact ⟨deviceStart space.toList ++ before ++ [c], by simp,
    readLine_cut admitted proper value unbrokenFront breaks⟩

/-! ## Writing and reading -/

/-- What is written with whole lines can be read. -/
theorem parseFinalized_of_finalize {space raw text : String} {metadata : Metadata}
    (fits : FitsLines space.toList metadata) (proper : metadata.uid.IsProper)
    (done : finalize space raw metadata = .ok text) :
    ∃ body, parseFinalized space text = .ok ⟨body, metadata⟩ := by
  obtain ⟨admitted, lines, digits, content, written, rfl⟩ := finalize_eq_ok_iff.mp done
  exact ⟨_, parseFinalized_finalText fits admitted proper content written⟩

/-- What is written with torn lines cannot be read. -/
theorem exists_fault_of_finalize {space raw text : String} {metadata : Metadata}
    (torn : ¬ FitsLines space.toList metadata) (proper : metadata.uid.IsProper)
    (done : finalize space raw metadata = .ok text) :
    ∃ fault, parseFinalized space text = .error fault := by
  obtain ⟨admitted, lines, digits, -, -, rfl⟩ := finalize_eq_ok_iff.mp done
  cases unbroken : isUnbroken space.toList with
  | false => exact parseFinalized_of_broken_space _ unbroken
  | true =>
      refine parseFinalized_of_broken_value admitted proper unbroken ?_
      cases value : isUnbroken (deviceValue metadata) with
      | false => rfl
      | true => exact absurd ⟨unbroken, value⟩ torn

/-- The content of a finalized record is kept as it is when it is finalized again. -/
theorem finalBody_again {space text : List Char} {lines : List (List Char)}
    (unbroken : isUnbroken space = true) (content : contentLines text = .ok lines) :
    finalBody space (splitLines (finalBody space lines)) = finalBody space lines := by
  have kept : keptLines space (splitLines (finalBody space lines)) =
      splitLines (finalBody space lines) := by
    rw [keptLines, List.filter_eq_self]
    intro line member
    simp [(plain_of_mem_finalBody unbroken content member).2]
  rw [finalBody, kept, flatten_splitLines, endWithLineFeed, if_pos]
  simpa using finalBody_ends space lines

theorem contentLines_again {space text : List Char} {lines : List (List Char)}
    (unbroken : isUnbroken space = true) (content : contentLines text = .ok lines) :
    contentLines (finalBody space lines ++ endMarker) =
      .ok (splitLines (finalBody space lines)) := by
  rw [contentLines_eq_ok_iff]
  refine ⟨endMarker, [], ?_, ?_, isEndMarker_endMarker, by simp⟩
  · rw [finalBody_append]
    rfl
  · intro line member
    exact (plain_of_mem_finalBody unbroken content member).1

/-- The content of a record that is kept when its footer is written: the lines before the end
marker, without the metadata lines of the namespace. -/
def keptText (space raw : List Char) : List Char :=
  (((splitLines raw).takeWhile fun line => !isEndMarker line).filter fun line =>
    !isMetadataLine space line).flatten

theorem finalBody_of_contentLines {space raw : List Char} {lines : List (List Char)}
    (content : contentLines raw = .ok lines) :
    finalBody space lines = endWithLineFeed (keptText space raw) := by
  obtain ⟨marker, after, divided⟩ := contentLines_eq_ok_iff.mp content
  have front : ((splitLines raw).takeWhile fun line => !isEndMarker line) = lines := by
    rw [divided.split, List.takeWhile_append_of_pos fun line member => by
      simp [divided.unmarked line member]]
    simp [divided.marked]
  rw [finalBody, keptLines, keptText, front]

/-- A record with whole footer lines reads back to its kept content and the very metadata that was
written into it, and finalizing that content again gives the same text. -/
theorem parseFinalized_finalize {space raw : String} {metadata : Metadata} {value : Value}
    {offset : Nat} (record : insertionPoint raw.toList = .ok offset)
    (nonempty : metadata.deviceId ≠ "") (noColon : ':' ∉ metadata.deviceId.toList)
    (wholeDevice : isUnbroken metadata.deviceId.toList = true)
    (read : Uid.ofValue value = .ok metadata.uid)
    (wholeUid : isUnbroken metadata.uid.text.toList = true)
    (short : metadata.timestamp.natAbs < tenTo Numeral.maxDigits)
    (wholeSpace : isUnbroken space.toList = true) :
    ∃ text body, finalize space raw metadata = .ok text ∧
      parseFinalized space text = .ok ⟨body, metadata⟩ ∧
      body.toList = endWithLineFeed (keptText space.toList raw.toList) ∧
      finalize space (body ++ "END:VCARD") metadata = .ok text := by
  have fits : FitsLines space.toList metadata := by
    refine ⟨wholeSpace, ?_⟩
    rw [deviceValue, isUnbroken_append, isUnbroken_cons, wholeDevice, wholeUid]
    rfl
  have admitted : admitsDevice metadata.deviceId.toList = true :=
    admitsDevice_of_isUnbroken (by simpa using nonempty) noColon wholeDevice
  have proper : metadata.uid.IsProper := Uid.isProper_of_ofValue read
  obtain ⟨lines, content⟩ : ∃ lines, contentLines raw.toList = .ok lines := by
    rw [contentLines, record]
    exact ⟨_, rfl⟩
  have written := Numeral.writeInt?_of_short (Numeral.isTooLong_eq_false_iff.mpr short)
  refine ⟨_, _, finalize_eq_ok_iff.mpr ⟨admitted, lines, _, content, written, rfl⟩,
    parseFinalized_finalText fits admitted proper content written, ?_, ?_⟩
  · rw [String.toList_ofList, finalBody_of_contentLines content]
  · have text : (String.ofList (finalBody space.toList lines) ++ "END:VCARD").toList =
        finalBody space.toList lines ++ endMarker := by
      rw [String.toList_append, String.toList_ofList]
      rfl
    rw [finalize_eq_ok_iff, text, contentLines_again wholeSpace content]
    refine ⟨admitted, _, _, rfl, written, ?_⟩
    rw [finalText, finalText, finalBody_again wholeSpace content]

/-- A stale footer in small letters is replaced, and the other lines stay. -/
theorem parseFinalized_finalize_stale :
    ∃ text body,
      finalize "KDECONNECT" "FN:A\u2028x-kdeconnect-timestamp:1\rend:vcard"
        ⟨"phone", ⟨"7"⟩, -5⟩ = .ok text ∧
      parseFinalized "KDECONNECT" text = .ok ⟨body, ⟨"phone", ⟨"7"⟩, -5⟩⟩ ∧
      body.toList = endWithLineFeed (keptText "KDECONNECT".toList
        "FN:A\u2028x-kdeconnect-timestamp:1\rend:vcard".toList) ∧
      finalize "KDECONNECT" (body ++ "END:VCARD") ⟨"phone", ⟨"7"⟩, -5⟩ = .ok text :=
  have record : insertionPoint "FN:A\u2028x-kdeconnect-timestamp:1\rend:vcard".toList = .ok 30 :=
    rfl
  have read : Uid.ofValue (.text "7") = .ok ⟨"7"⟩ := rfl
  parseFinalized_finalize record (by decide) (by decide) (by decide) read (by decide)
    (by decide +kernel) (by decide)

end PairedContacts.VCard
