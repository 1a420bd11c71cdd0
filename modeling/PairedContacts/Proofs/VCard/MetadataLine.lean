import PairedContacts.Proofs.Text.Capitals
import PairedContacts.Proofs.Uid
import PairedContacts.Proofs.VCard.Ending
import PairedContacts.VCard.Footer

/-!
# Metadata lines

What the reader of records makes of single lines: of those that the writer of footers keeps, of
those that it writes, and of the first part of a written line that a line break cuts short.
-/

set_option autoImplicit false

namespace PairedContacts.VCard

open Text

/-! ## Beginnings -/

theorem isUnbroken_deviceStart (space : List Char) :
    isUnbroken (deviceStart space) = isUnbroken space := by
  rw [deviceStart, isUnbroken_append, isUnbroken_append, isUnbroken_upper]
  have front : isUnbroken ['X', '-'] = true := by decide
  have back : isUnbroken ['-', 'I', 'D', '-', 'D', 'E', 'V', '-'] = true := by decide
  rw [front, back, Bool.true_and, Bool.and_true]

theorem isUnbroken_timestampStart (space : List Char) :
    isUnbroken (timestampStart space) = isUnbroken space := by
  rw [timestampStart, isUnbroken_append, isUnbroken_append, isUnbroken_upper]
  have front : isUnbroken ['X', '-'] = true := by decide
  have back : isUnbroken ['-', 'T', 'I', 'M', 'E', 'S', 'T', 'A', 'M', 'P', ':'] = true := by
    decide
  rw [front, back, Bool.true_and, Bool.and_true]

theorem upper_deviceStart (space : List Char) : upper (deviceStart space) = deviceStart space := by
  rw [deviceStart, upper_append, upper_append, upper_upper]
  rfl

theorem upper_timestampStart (space : List Char) :
    upper (timestampStart space) = timestampStart space := by
  rw [timestampStart, upper_append, upper_append, upper_upper]
  rfl

theorem beginsAs_iff {start line : List Char} :
    beginsAs start line = true ↔ start <+: upper line := by
  rw [beginsAs, List.isPrefixOf_iff_prefix]

theorem beginsAs_append {start line : List Char} (begins : beginsAs start line = true)
    (tail : List Char) : beginsAs start (line ++ tail) = true := by
  rw [beginsAs_iff] at begins ⊢
  rw [upper_append]
  exact begins.trans (List.prefix_append _ _)

theorem beginsAs_self {start : List Char} (capital : upper start = start) (rest : List Char) :
    beginsAs start (start ++ rest) = true := by
  have whole : start <+: upper start := capital.symm ▸ List.prefix_refl start
  exact beginsAs_append (beginsAs_iff.mpr whole) rest

/-- A beginning without line breaks is not completed by a line feed. -/
theorem beginsAs_of_append_lineFeed {start line : List Char} (unbroken : isUnbroken start = true)
    (begins : beginsAs start (line ++ ['\n']) = true) : beginsAs start line = true := by
  rw [beginsAs_iff, upper_append] at begins
  have feed : upper ['\n'] = ['\n'] := by decide
  rw [feed, List.prefix_concat_iff] at begins
  rcases begins with same | begins
  · have breaks := not_isLineBreak_of_isUnbroken unbroken (c := '\n') (by rw [same]; simp)
    simp [isLineBreak_lineFeed] at breaks
  · exact beginsAs_iff.mpr begins

theorem not_beginsAs_deviceStart (space rest : List Char) :
    beginsAs (deviceStart space) (timestampStart space ++ rest) = false := by
  rw [← Bool.not_eq_true, beginsAs_iff, upper_append, upper_timestampStart, deviceStart,
    timestampStart, List.append_assoc _ _ (upper rest), List.prefix_append_right_inj]
  simp

theorem isMetadataLine_append_lineFeed {space line : List Char} (unbroken : isUnbroken space = true)
    (plain : isMetadataLine space line = false) :
    isMetadataLine space (line ++ ['\n']) = false := by
  rw [isMetadataLine, Bool.or_eq_false_iff, ← Bool.not_eq_true, ← Bool.not_eq_true] at plain ⊢
  constructor
  · intro begins
    exact plain.1 (beginsAs_of_append_lineFeed (by rwa [isUnbroken_deviceStart]) begins)
  · intro begins
    exact plain.2 (beginsAs_of_append_lineFeed (by rwa [isUnbroken_timestampStart]) begins)

theorem not_isEndMarker_of_isMetadataLine {space line : List Char}
    (metadata : isMetadataLine space line = true) : isEndMarker line = false := by
  rw [isMetadataLine, Bool.or_eq_true, beginsAs_iff, beginsAs_iff] at metadata
  rcases metadata with ⟨rest, begins⟩ | ⟨rest, begins⟩
  · exact not_isEndMarker_of_upper begins.symm
  · exact not_isEndMarker_of_upper begins.symm

/-! ## Lines without their end -/

theorem exists_unterminated_append (line : List Char) :
    ∃ tail, line = unterminated line ++ tail :=
  let ⟨tail, whole, _⟩ := exists_trimEnd_append (fun c => c = '\r' || c = '\n') line
  ⟨tail, whole⟩

theorem unterminated_append {body ending : List Char} (unbroken : isUnbroken body = true)
    (terminates : ∀ c ∈ ending, c = '\r' ∨ c = '\n') : unterminated (body ++ ending) = body := by
  rw [unterminated, trimEnd_append (by simpa using terminates), trimEnd_eq_self_iff]
  intro c last
  have plain := not_isLineBreak_of_isUnbroken unbroken (List.mem_of_getLast? last)
  simp only [Bool.or_eq_false_iff, decide_eq_false_iff_not]
  constructor
  · rintro rfl
    simp [isLineBreak_carriageReturn] at plain
  · rintro rfl
    simp [isLineBreak_lineFeed] at plain

theorem unterminated_concat {body : List Char} {c : Char} (notReturn : c ≠ '\r')
    (notFeed : c ≠ '\n') : unterminated (body ++ [c]) = body ++ [c] := by
  rw [unterminated, trimEnd_eq_self_iff]
  intro d last
  obtain rfl : c = d := by simpa using last
  simp [notReturn, notFeed]

theorem readLine_of_plain {space line : List Char} (plain : isMetadataLine space line = false) :
    readLine space line = .ok .content := by
  obtain ⟨tail, whole⟩ := exists_unterminated_append line
  rw [isMetadataLine, Bool.or_eq_false_iff, ← Bool.not_eq_true, ← Bool.not_eq_true] at plain
  rw [readLine, if_neg, if_neg]
  · intro begins
    exact plain.2 (whole ▸ beginsAs_append begins tail)
  · intro begins
    exact plain.1 (whole ▸ beginsAs_append begins tail)

/-! ## The lines of a footer -/

theorem passes_of_noColon {text : List Char} (noColon : ':' ∉ text) :
    ∀ c ∈ text, (c != ':') = true := by
  intro c member
  rw [bne_iff_ne]
  rintro rfl
  exact noColon member

theorem readDevice_append {line device : List Char} (uidText : List Char) (nonempty : device ≠ [])
    (noColon : ':' ∉ device) :
    readDevice line (device ++ ':' :: uidText) =
      match Uid.ofText (String.ofList uidText) with
      | .ok uid => .ok (.device (String.ofList device) uid)
      | .error fault => .error (.uidOfDeviceLine fault) := by
  have passed := passes_of_noColon noColon
  have taken : (device ++ ':' :: uidText).takeWhile (fun c => c != ':') = device := by
    simp [List.takeWhile_append_of_pos passed]
  have left : (device ++ ':' :: uidText).dropWhile (fun c => c != ':') = ':' :: uidText := by
    simp [List.dropWhile_append_of_pos passed]
  have full : ¬device.isEmpty = true := by simpa using nonempty
  simp only [readDevice, taken, left]
  exact if_neg full

theorem readDevice_noColon {line rest : List Char} (noColon : ':' ∉ rest) :
    readDevice line rest = .error (.deviceLine (String.ofList line)) := by
  have passed : rest.dropWhile (fun c => c != ':') = [] :=
    List.dropWhile_eq_nil_iff.mpr (passes_of_noColon noColon)
  rw [readDevice, passed]

theorem readLine_deviceStart {space line rest : List Char}
    (bare : unterminated line = deviceStart space ++ rest) :
    readLine space line = readDevice (deviceStart space ++ rest) rest := by
  rw [readLine, bare, if_pos (beginsAs_self (upper_deviceStart space) rest), List.drop_left]

theorem admitsDevice_iff {deviceId : List Char} :
    admitsDevice deviceId = true ↔ deviceId ≠ [] ∧ ':' ∉ deviceId ∧ '\n' ∉ deviceId := by
  simp [admitsDevice, and_assoc]

theorem admitsDevice_of_isUnbroken {deviceId : List Char} (nonempty : deviceId ≠ [])
    (noColon : ':' ∉ deviceId) (unbroken : isUnbroken deviceId = true) :
    admitsDevice deviceId = true := by
  refine admitsDevice_iff.mpr ⟨nonempty, noColon, fun feed => ?_⟩
  have plain := not_isLineBreak_of_isUnbroken unbroken feed
  rw [isLineBreak_lineFeed] at plain
  cases plain

/-- What stands in a device line behind its beginning. -/
def deviceValue (metadata : Metadata) : List Char :=
  metadata.deviceId.toList ++ ':' :: metadata.uid.text.toList

theorem deviceLine_eq (space : List Char) (metadata : Metadata) :
    deviceLine space metadata = deviceStart space ++ deviceValue metadata := by
  rw [deviceLine, deviceValue, List.append_assoc]

theorem isMetadataLine_deviceLine (space : List Char) (metadata : Metadata) (tail : List Char) :
    isMetadataLine space (deviceLine space metadata ++ tail) = true := by
  rw [isMetadataLine, deviceLine_eq, List.append_assoc, beginsAs_self (upper_deviceStart space),
    Bool.true_or]

theorem isMetadataLine_timestampLine (space digits tail : List Char) :
    isMetadataLine space (timestampLine space digits ++ tail) = true := by
  rw [isMetadataLine, timestampLine, List.append_assoc,
    beginsAs_self (upper_timestampStart space), Bool.or_true]

theorem readLine_deviceLine {space : List Char} {metadata : Metadata}
    (admitted : admitsDevice metadata.deviceId.toList = true) (proper : metadata.uid.IsProper)
    (unbroken : isUnbroken (deviceLine space metadata) = true) :
    readLine space (deviceLine space metadata ++ ['\n']) =
      .ok (.device metadata.deviceId metadata.uid) := by
  obtain ⟨nonempty, noColon, -⟩ := admitsDevice_iff.mp admitted
  have bare : unterminated (deviceLine space metadata ++ ['\n']) = deviceLine space metadata :=
    unterminated_append unbroken (by simp)
  have read : Uid.ofText (String.ofList metadata.uid.text.toList) = .ok metadata.uid := by
    rw [String.ofList_toList]
    exact proper
  rw [readLine_deviceStart (bare.trans (deviceLine_eq space metadata)), deviceValue,
    readDevice_append _ nonempty noColon, read, String.ofList_toList]

theorem readLine_timestampLine {space digits : List Char} {n : Int}
    (unbroken : isUnbroken space = true) (written : Numeral.writeInt? n = some digits) :
    readLine space (timestampLine space digits ++ ['\n']) = .ok (.timestamp n) := by
  have plain : isUnbroken (timestampStart space ++ digits) = true := by
    rw [isUnbroken_append, isUnbroken_timestampStart, unbroken,
      Numeral.isUnbroken_of_writeInt? written]
    rfl
  have bare : unterminated (timestampStart space ++ digits ++ ['\n']) =
      timestampStart space ++ digits :=
    unterminated_append plain (by simp)
  rw [readLine, timestampLine, bare,
    if_neg (by rw [not_beginsAs_deviceStart]; exact Bool.false_ne_true),
    if_pos (beginsAs_self (upper_timestampStart space) digits), List.drop_left, readTimestamp,
    Numeral.readInt_of_writeInt? written]

/-! ## Lines that are broken -/

/-- A uID that was cut behind a line break within it ends in a blank and is refused. -/
theorem ofText_cut {front : List Char} {c : Char} (breaks : isLineBreak c = true) :
    ∃ fault, Uid.ofText (String.ofList (front ++ [c])) = .error fault := by
  cases read : Uid.ofText (String.ofList (front ++ [c])) with
  | error fault => exact ⟨fault, rfl⟩
  | ok uid =>
      obtain ⟨-, trimmed, -⟩ := Uid.ofText_eq_ok_iff.mp read
      rw [String.toList_ofList, trim_eq_self_iff] at trimmed
      have inked := trimmed.2 c (by simp)
      simp [isBlank_of_isLineBreak breaks] at inked

theorem readLine_cut_uid {space device front : List Char} {c : Char} (nonempty : device ≠ [])
    (noColon : ':' ∉ device) (breaks : isLineBreak c = true) (notReturn : c ≠ '\r')
    (notFeed : c ≠ '\n') :
    ∃ fault, readLine space (deviceStart space ++ (device ++ ':' :: front) ++ [c]) =
      .error fault := by
  obtain ⟨fault, refused⟩ : ∃ fault, Uid.ofText (String.ofList (front ++ [c])) = .error fault :=
    ofText_cut breaks
  have bare : unterminated (deviceStart space ++ (device ++ ':' :: front) ++ [c]) =
      deviceStart space ++ (device ++ ':' :: (front ++ [c])) := by
    rw [unterminated_concat notReturn notFeed]
    simp
  refine ⟨.uidOfDeviceLine fault, ?_⟩
  rw [readLine_deviceStart bare, readDevice_append _ nonempty noColon, refused]

theorem readLine_cut_device {space front : List Char} {c : Char} (noColon : ':' ∉ front ++ [c])
    (unbroken : isUnbroken (deviceStart space ++ front) = true) (notFeed : c ≠ '\n') :
    ∃ fault, readLine space (deviceStart space ++ front ++ [c]) = .error fault := by
  by_cases returns : c = '\r'
  · have bare : unterminated (deviceStart space ++ front ++ [c]) = deviceStart space ++ front :=
      unterminated_append unbroken (by simp [returns])
    have clear : ':' ∉ front := fun member => noColon (List.mem_append_left _ member)
    exact ⟨_, (readLine_deviceStart bare).trans (readDevice_noColon clear)⟩
  · have bare : unterminated (deviceStart space ++ front ++ [c]) =
        deviceStart space ++ (front ++ [c]) := by
      rw [unterminated_concat returns notFeed, List.append_assoc]
    exact ⟨_, (readLine_deviceStart bare).trans (readDevice_noColon noColon)⟩

/-- A character of the value of a device line, other than its colon, is in the uID or in the device
id. -/
theorem deviceValue_split {before after : List Char} {c : Char} {metadata : Metadata}
    (value : deviceValue metadata = before ++ c :: after) (notColon : c ≠ ':') :
    (∃ front, before = metadata.deviceId.toList ++ ':' :: front ∧
        metadata.uid.text.toList = front ++ c :: after) ∨
      ∃ back, metadata.deviceId.toList = before ++ c :: back ∧
        after = back ++ ':' :: metadata.uid.text.toList := by
  rw [deviceValue, List.append_eq_append_iff] at value
  rcases value with ⟨front, front_eq, rest⟩ | ⟨back, device, rest⟩
  · cases front with
    | nil => exact absurd (List.cons.inj rest).1.symm notColon
    | cons d front =>
        obtain ⟨rfl, uid⟩ := List.cons.inj rest
        exact .inl ⟨front, front_eq, uid⟩
  · cases back with
    | nil => exact absurd (List.cons.inj rest).1 notColon
    | cons d back =>
        obtain ⟨rfl, after_eq⟩ := List.cons.inj rest
        exact .inr ⟨back, device, after_eq⟩

theorem ne_colon_of_isLineBreak {c : Char} (breaks : isLineBreak c = true) : c ≠ ':' := by
  rintro rfl
  revert breaks
  decide

/-- If the value of a device line has a line break, the line is cut there and cannot be read. -/
theorem readLine_cut {space before after : List Char} {c : Char} {metadata : Metadata}
    (admitted : admitsDevice metadata.deviceId.toList = true) (proper : metadata.uid.IsProper)
    (value : deviceValue metadata = before ++ c :: after)
    (unbroken : isUnbroken (deviceStart space ++ before) = true) (breaks : isLineBreak c = true) :
    ∃ fault, readLine space (deviceStart space ++ before ++ [c]) = .error fault := by
  obtain ⟨nonempty, noColon, noFeed⟩ := admitsDevice_iff.mp admitted
  rcases deviceValue_split value (ne_colon_of_isLineBreak breaks) with
    ⟨front, rfl, uid⟩ | ⟨back, device, -⟩
  · refine readLine_cut_uid nonempty noColon breaks ?_ ?_
    · rintro rfl
      exact proper.noCarriageReturn (by rw [uid]; simp)
    · rintro rfl
      exact proper.noLineFeed (by rw [uid]; simp)
  · rw [device] at noColon noFeed
    refine readLine_cut_device ?_ unbroken ?_
    · intro member
      rw [List.append_cons] at noColon
      exact noColon (List.mem_append_left _ member)
    · rintro rfl
      exact noFeed (by simp)

theorem not_partsPair_of_value {before after rest : List Char} {c : Char} {metadata : Metadata}
    (admitted : admitsDevice metadata.deviceId.toList = true) (proper : metadata.uid.IsProper)
    (value : deviceValue metadata = before ++ c :: after) :
    partsPair [c] (after ++ rest) = false := by
  obtain ⟨-, -, noFeed⟩ := admitsDevice_iff.mp admitted
  rw [partsPair_singleton]
  rintro rfl feeds
  rcases deviceValue_split value (by decide) with ⟨front, -, uid⟩ | ⟨back, device, rfl⟩
  · exact proper.noCarriageReturn (by rw [uid]; simp)
  · cases back with
    | nil => simp at feeds
    | cons d back =>
        obtain rfl : d = '\n' := by simpa using feeds
        exact noFeed (by rw [device]; simp)

/-! ## Namespaces that are broken -/

theorem not_beginsAs_of_isUnbroken {start body : List Char}
    (broken : isUnbroken start.dropLast = false) (unbroken : isUnbroken body = true) :
    beginsAs start body = false := by
  rw [← Bool.not_eq_true, beginsAs_iff]
  rintro ⟨tail, whole⟩
  rw [← isUnbroken_upper, ← whole, isUnbroken_append, Bool.and_eq_true] at unbroken
  have front := unbroken.1
  rw [isUnbroken, List.all_eq_true] at front
  have kept : isUnbroken start.dropLast = true := by
    rw [isUnbroken, List.all_eq_true]
    exact fun c here => front c (List.dropLast_subset start here)
  rw [broken] at kept
  cases kept

/-- A line of a text never begins as something that is broken before its last character. -/
theorem not_beginsAs_of_broken {start text line : List Char}
    (broken : isUnbroken start.dropLast = false) (member : line ∈ splitLines text) :
    beginsAs start (unterminated line) = false := by
  -- Only a break other than carriage return and line feed is still there in the compared line.
  obtain ⟨body, ending, rfl, unbroken, shape⟩ := line_shape member
  by_cases terminates : ∀ c ∈ ending, c = '\r' ∨ c = '\n'
  · rw [unterminated_append unbroken terminates]
    exact not_beginsAs_of_isUnbroken broken unbroken
  · obtain ⟨c, breaks, rfl⟩ : ∃ c, isLineBreak c = true ∧ ending = [c] := by
      rcases shape with rfl | rfl | single
      · simp at terminates
      · simp at terminates
      · exact single
    simp only [List.mem_singleton, forall_eq, not_or] at terminates
    rw [unterminated_concat terminates.1 terminates.2, ← Bool.not_eq_true, beginsAs_iff,
      upper_append]
    have single : upper [c] = [c] := by simp [upper, upperChar_of_isLineBreak breaks]
    rw [single, List.prefix_concat_iff]
    rintro (rfl | begins)
    · rw [List.dropLast_concat, isUnbroken_upper, unbroken] at broken
      cases broken
    · rw [← beginsAs_iff, not_beginsAs_of_isUnbroken broken unbroken] at begins
      cases begins

theorem readLine_of_broken {space text line : List Char} (broken : isUnbroken space = false)
    (member : line ∈ splitLines text) : readLine space line = .ok .content := by
  have device : isUnbroken (deviceStart space).dropLast = false := by
    rw [deviceStart, List.dropLast_append_of_ne_nil (by simp), isUnbroken_append,
      isUnbroken_append, isUnbroken_upper, broken]
    simp
  have timestamp : isUnbroken (timestampStart space).dropLast = false := by
    rw [timestampStart, List.dropLast_append_of_ne_nil (by simp), isUnbroken_append,
      isUnbroken_append, isUnbroken_upper, broken]
    simp
  rw [readLine, not_beginsAs_of_broken device member, not_beginsAs_of_broken timestamp member]
  rfl

end PairedContacts.VCard
