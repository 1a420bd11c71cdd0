import PairedContacts.Proofs.VCard.Footer

/-!
# What the lines of a record say

Each line of a record is read alone: it names an origin, or gives a time, or cannot be read, or is
content.  The metadata of a record is what the last line of each kind says, and it can be read
exactly if every line can and both kinds are there.
-/

set_option autoImplicit false

namespace PairedContacts.VCard

open Text

variable {space : List Char}

/-- The device and the contact that a line names. -/
def deviceIn (space line : List Char) : Option (String × Uid) :=
  (readLine space line).toOption.bind LineMeaning.device?

/-- The time that a line gives. -/
def timestampIn (space line : List Char) : Option Int :=
  (readLine space line).toOption.bind LineMeaning.timestamp?

/-- Why a line cannot be read. -/
def faultIn (space line : List Char) : Option RecordFault :=
  match readLine space line with
  | .ok _ => none
  | .error fault => some fault

/-- The lines can all be read, and the last ones of each kind tell the metadata. -/
structure Tells (space : List Char) (lines : List (List Char)) (metadata : Metadata) : Prop where
  readable : lines.filterMap (faultIn space) = []
  device : (lines.filterMap (deviceIn space)).getLast? = some (metadata.deviceId, metadata.uid)
  timestamp : (lines.filterMap (timestampIn space)).getLast? = some metadata.timestamp

/-! ## Single lines -/

theorem faultIn_eq_none_iff {line : List Char} :
    faultIn space line = none ↔ ∃ meaning, readLine space line = .ok meaning := by
  rw [faultIn]
  cases readLine space line <;> simp

section Plain

variable {line : List Char}

theorem deviceIn_of_plain (plain : isMetadataLine space line = false) :
    deviceIn space line = none := by
  rw [deviceIn, readLine_of_plain plain]
  rfl

theorem timestampIn_of_plain (plain : isMetadataLine space line = false) :
    timestampIn space line = none := by
  rw [timestampIn, readLine_of_plain plain]
  rfl

theorem faultIn_of_plain (plain : isMetadataLine space line = false) :
    faultIn space line = none := by
  rw [faultIn, readLine_of_plain plain]

end Plain

/-- What a line says does not depend on a line feed behind it. -/
theorem readLine_append_lineFeed (space line : List Char) :
    readLine space (line ++ ['\n']) = readLine space line := by
  have bare : unterminated (line ++ ['\n']) = unterminated line :=
    trimEnd_append (by simp)
  rw [readLine, readLine, bare]

theorem readLine_lineFeed (space : List Char) : readLine space ['\n'] = .ok .content := by
  have bare : unterminated ['\n'] = [] := rfl
  have noDevice : beginsAs (deviceStart space) [] = false := rfl
  have noTimestamp : beginsAs (timestampStart space) [] = false := rfl
  rw [readLine, bare, noDevice, noTimestamp]
  rfl

/-! ## Whole records -/

theorem exists_assemble_iff {lines : List (List Char)} {meanings : List LineMeaning}
    {metadata : Metadata} :
    (∃ body, assemble lines meanings = .ok ⟨body, metadata⟩) ↔
      (meanings.filterMap LineMeaning.device?).getLast? =
          some (metadata.deviceId, metadata.uid) ∧
        (meanings.filterMap LineMeaning.timestamp?).getLast? = some metadata.timestamp := by
  rw [assemble, List.getLast?_filterMap, List.getLast?_filterMap]
  cases meanings.reverse.findSome? LineMeaning.device? with
  | none => simp
  | some origin =>
      obtain ⟨deviceId, uid⟩ := origin
      cases meanings.reverse.findSome? LineMeaning.timestamp? with
      | none => simp
      | some timestamp =>
          obtain ⟨device, named, dated⟩ := metadata
          simp [and_assoc]

/-- A record reads to some metadata exactly if its content lines tell it. -/
theorem exists_parseFinalized_iff {space text : String} {metadata : Metadata} :
    (∃ body, parseFinalized space text = .ok ⟨body, metadata⟩) ↔
      ∃ lines, contentLines text.toList = .ok lines ∧ Tells space.toList lines metadata := by
  constructor
  · rintro ⟨body, parsed⟩
    obtain ⟨lines, meanings, content, read, assembled⟩ := exists_content_of_parseFinalized parsed
    obtain ⟨device, timestamp⟩ := exists_assemble_iff.mp ⟨body, assembled⟩
    refine ⟨lines, content, ?_, ?_, ?_⟩
    · rw [List.filterMap_eq_nil_iff]
      intro line member
      cases said : readLine space.toList line with
      | ok meaning => exact faultIn_eq_none_iff.mpr ⟨meaning, said⟩
      | error fault =>
          obtain ⟨first, failed⟩ := mapM_eq_error member said
          rw [failed] at read
          cases read
    · rw [← device, filterMap_of_mapM read]
      rfl
    · rw [← timestamp, filterMap_of_mapM read]
      rfl
  · rintro ⟨lines, content, told⟩
    cases read : lines.mapM (readLine space.toList) with
    | error fault =>
        obtain ⟨line, member, fails⟩ := exists_of_mapM_eq_error read
        have readable := List.filterMap_eq_nil_iff.mp told.readable line member
        rw [faultIn, fails] at readable
        cases readable
    | ok meanings =>
        rw [parseFinalized_of_content content read, exists_assemble_iff,
          filterMap_of_mapM read, filterMap_of_mapM read]
        exact ⟨told.device, told.timestamp⟩

/-! ## Behind the content that finalizing keeps -/

theorem filterMap_finalBody {β : Type} {read : List Char -> Option β} {other text : List Char}
    {lines : List (List Char)} (content : contentLines text = .ok lines)
    (feedless : ∀ line, read (line ++ ['\n']) = read line) (silent : read ['\n'] = none) :
    (splitLines (finalBody other lines)).filterMap read =
      (keptLines other lines).filterMap read := by
  have kept : ∀ part ∈ keptLines other lines ++ [['\n']],
      splitLines part = [part] ∧ isEnded part = true := by
    intro part here
    rcases List.mem_append.mp here with here | here
    · obtain ⟨alone, ended, -⟩ := facts_of_mem_keptLines content here
      exact ⟨alone, ended⟩
    · obtain rfl := List.mem_singleton.mp here
      exact ⟨rfl, isLineBreak_lineFeed⟩
  rcases finalBody_eq_flatten other lines with flat | flat
  · rw [flat]
    exact filterMap_splitLines_flatten
      (fun part here => (kept part (List.mem_append_left _ here)).1)
      (fun part here => (kept part (List.mem_append_left _ here)).2) feedless silent
  · rw [flat, filterMap_splitLines_flatten (fun part here => (kept part here).1)
      (fun part here => (kept part here).2) feedless silent, List.filterMap_append,
      List.filterMap_cons_none silent, List.filterMap_nil, List.append_nil]

theorem tells_congr {lines others : List (List Char)} {metadata : Metadata}
    (faults : others.filterMap (faultIn space) = lines.filterMap (faultIn space))
    (devices : others.filterMap (deviceIn space) = lines.filterMap (deviceIn space))
    (timestamps : others.filterMap (timestampIn space) = lines.filterMap (timestampIn space)) :
    Tells space others metadata ↔ Tells space lines metadata := by
  constructor
  · rintro ⟨readable, device, timestamp⟩
    exact ⟨faults ▸ readable, devices ▸ device, timestamps ▸ timestamp⟩
  · rintro ⟨readable, device, timestamp⟩
    exact ⟨faults ▸ readable, devices ▸ device, timestamps ▸ timestamp⟩

/-- Joining the kept lines does not change what they tell, whatever stands behind them. -/
theorem tells_finalBody_append_iff {other text : List Char} {lines more : List (List Char)}
    {metadata : Metadata} (content : contentLines text = .ok lines) :
    Tells space (splitLines (finalBody other lines) ++ more) metadata ↔
      Tells space (keptLines other lines ++ more) metadata := by
  refine tells_congr ?_ ?_ ?_ <;> rw [List.filterMap_append, List.filterMap_append]
  · rw [filterMap_finalBody content]
    · intro line
      rw [faultIn, faultIn, readLine_append_lineFeed]
    · rw [faultIn, readLine_lineFeed]
  · rw [filterMap_finalBody content]
    · intro line
      rw [deviceIn, deviceIn, readLine_append_lineFeed]
    · rw [deviceIn, readLine_lineFeed]
      rfl
  · rw [filterMap_finalBody content]
    · intro line
      rw [timestampIn, timestampIn, readLine_append_lineFeed]
    · rw [timestampIn, readLine_lineFeed]
      rfl

end PairedContacts.VCard
