import PairedContacts.Proofs.VCard.Footer

/-!
# Which contact a vCard is

A text is the vCard of a contact at a time if its metadata says so.  Such a text names a proper uID
and a timestamp that can be written down, and it says the same with a line feed behind it.
-/

set_option autoImplicit false

namespace PairedContacts.VCard

variable {space text : String} {uid : Uid} {timestamp : Int}

/-- The metadata of a text, read in a namespace, names a contact and a timestamp. -/
def IsCardOf (space text : String) (uid : Uid) (timestamp : Int) : Prop :=
  ∃ finalized, parseFinalized space text = .ok finalized ∧ finalized.metadata.uid = uid ∧
    finalized.metadata.timestamp = timestamp

theorem isCardOf_append_lineFeed (card : IsCardOf space text uid timestamp) :
    IsCardOf space (text ++ "\n") uid timestamp := by
  obtain ⟨finalized, parsed, named, dated⟩ := card
  obtain ⟨lines, meanings, content, read, assembled⟩ := exists_content_of_parseFinalized parsed
  have longer : (text ++ "\n").toList = text.toList ++ ['\n'] := by simp
  have same : contentLines (text ++ "\n").toList = .ok lines := by
    rw [longer]
    exact contentLines_append_blank content (by decide)
  exact ⟨finalized, (parseFinalized_of_content same read).trans assembled, named, dated⟩

/-! ## What metadata can say -/

theorem exists_meanings_of_assemble {lines : List (List Char)} {meanings : List LineMeaning}
    {finalized : Finalized} (assembled : assemble lines meanings = .ok finalized) :
    (∃ deviceId, .device deviceId finalized.metadata.uid ∈ meanings) ∧
      .timestamp finalized.metadata.timestamp ∈ meanings := by
  rw [assemble] at assembled
  cases device : meanings.reverse.findSome? LineMeaning.device? with
  | none =>
      rw [device] at assembled
      cases assembled
  | some origin =>
      cases dated : meanings.reverse.findSome? LineMeaning.timestamp? with
      | none =>
          rw [device, dated] at assembled
          cases assembled
      | some timestamp =>
          rw [device, dated] at assembled
          obtain rfl := Except.ok.inj assembled
          obtain ⟨first, among, said⟩ := List.exists_of_findSome?_eq_some device
          obtain ⟨second, within, told⟩ := List.exists_of_findSome?_eq_some dated
          constructor
          · refine ⟨origin.1, ?_⟩
            cases first with
            | device deviceId uid =>
                obtain rfl := Option.some.inj said
                exact List.mem_reverse.mp among
            | _ => cases said
          · cases second with
            | timestamp n =>
                obtain rfl := Option.some.inj told
                exact List.mem_reverse.mp within
            | _ => cases told

/-- A device and a contact are read from nothing but their own value. -/
theorem readDevice_cases (line rest : List Char) :
    (∃ deviceId uid, readDevice line rest = .ok (.device deviceId uid) ∧
        rest = deviceId.toList ++ ':' :: uid.text.toList ∧ uid.IsProper) ∨
      ∃ fault, readDevice line rest = .error fault := by
  have whole : rest.takeWhile (fun c => c != ':') ++ rest.dropWhile (fun c => c != ':') = rest :=
    List.takeWhile_append_dropWhile
  rw [readDevice]
  split
  · exact .inr ⟨_, rfl⟩
  · rename_i c uidText behind
    have colon : c = ':' := by
      have stops := List.head?_dropWhile_not (fun c => c != ':') rest
      simpa [behind] using stops
    rw [behind, colon] at whole
    split
    · exact .inr ⟨_, rfl⟩
    · split
      · rename_i uid named
        have text : uid.text.toList = uidText := by
          obtain ⟨-, -, -, -, -, rfl⟩ := Uid.ofText_eq_ok_iff.mp named
          exact String.toList_ofList
        refine .inl ⟨_, uid, rfl, ?_, Uid.isProper_of_ofText named⟩
        rw [String.toList_ofList, text, whole]
      · exact .inr ⟨_, rfl⟩

theorem isProper_of_readDevice {line rest : List Char} {deviceId : String}
    (read : readDevice line rest = .ok (.device deviceId uid)) : uid.IsProper := by
  rcases readDevice_cases line rest with ⟨device, named, given, -, proper⟩ | ⟨fault, fails⟩
  · rw [given] at read
    cases read
    exact proper
  · rw [fails] at read
    cases read

theorem not_timestamp_of_readDevice {line rest : List Char} {n : Int} :
    readDevice line rest ≠ .ok (.timestamp n) := by
  intro read
  rcases readDevice_cases line rest with ⟨device, named, given, -⟩ | ⟨fault, fails⟩
  · rw [given] at read
    cases read
  · rw [fails] at read
    cases read

theorem readTimestamp_cases (line rest : List Char) :
    (∃ n, readTimestamp line rest = .ok (.timestamp n) ∧ Numeral.isTooLong n = false) ∨
      ∃ fault, readTimestamp line rest = .error fault := by
  rw [readTimestamp]
  cases read : Numeral.readInt (Text.trim rest) with
  | ok n => exact .inl ⟨n, rfl, Numeral.isTooLong_of_readInt read⟩
  | error fault => exact .inr ⟨_, rfl⟩

theorem isProper_of_readLine {line : List Char} {deviceId : String} {space : List Char}
    (read : readLine space line = .ok (.device deviceId uid)) : uid.IsProper := by
  rw [readLine] at read
  split at read
  · exact isProper_of_readDevice read
  · split at read
    · rcases readTimestamp_cases (unterminated line)
        ((unterminated line).drop (timestampStart space).length) with ⟨n, dated, -⟩ | ⟨fault, fails⟩
      · rw [dated] at read
        cases read
      · rw [fails] at read
        cases read
    · cases read

theorem short_of_readLine {line : List Char} {space : List Char}
    (read : readLine space line = .ok (.timestamp timestamp)) :
    Numeral.isTooLong timestamp = false := by
  rw [readLine] at read
  split at read
  · exact absurd read not_timestamp_of_readDevice
  · split at read
    · rcases readTimestamp_cases (unterminated line)
        ((unterminated line).drop (timestampStart space).length) with
        ⟨n, dated, short⟩ | ⟨fault, fails⟩
      · rw [dated] at read
        cases read
        exact short
      · rw [fails] at read
        cases read
    · cases read

theorem IsCardOf.isProper (card : IsCardOf space text uid timestamp) : uid.IsProper := by
  obtain ⟨finalized, parsed, rfl, -⟩ := card
  obtain ⟨lines, meanings, -, read, assembled⟩ := exists_content_of_parseFinalized parsed
  obtain ⟨⟨deviceId, named⟩, -⟩ := exists_meanings_of_assemble assembled
  obtain ⟨line, -, said⟩ := exists_of_mem_mapM read named
  exact isProper_of_readLine said

theorem IsCardOf.short (card : IsCardOf space text uid timestamp) :
    Numeral.isTooLong timestamp = false := by
  obtain ⟨finalized, parsed, -, rfl⟩ := card
  obtain ⟨lines, meanings, -, read, assembled⟩ := exists_content_of_parseFinalized parsed
  obtain ⟨-, dated⟩ := exists_meanings_of_assemble assembled
  obtain ⟨line, -, said⟩ := exists_of_mem_mapM read dated
  exact short_of_readLine said

end PairedContacts.VCard
