import PairedContacts.Proofs.VCard.Footer

/-!
# Finalizing again

The footer of a finalized record is metadata of its namespace, and the rest of the record is content
that is kept.  So finalizing the record again puts the new footer in the place of the old one: of
any number of footers that are written one after another, only the last one shows.
-/

set_option autoImplicit false

namespace PairedContacts.VCard

open Text

theorem fitsLines_of_isUnbroken {space : List Char} {metadata : Metadata}
    (wholeSpace : isUnbroken space = true)
    (wholeDevice : isUnbroken metadata.deviceId.toList = true)
    (wholeUid : isUnbroken metadata.uid.text.toList = true) : FitsLines space metadata := by
  refine ⟨wholeSpace, ?_⟩
  rw [deviceValue, isUnbroken_append, isUnbroken_cons, wholeDevice, wholeUid]
  rfl

/-- The lines of a footer are not kept. -/
theorem finalBody_append_footer (space digits : List Char) (metadata : Metadata)
    (lines : List (List Char)) :
    finalBody space (lines ++
        [deviceLine space metadata ++ ['\n'], timestampLine space digits ++ ['\n']]) =
      finalBody space lines := by
  have dropped : keptLines space
      [deviceLine space metadata ++ ['\n'], timestampLine space digits ++ ['\n']] = [] := by
    simp [keptLines, isMetadataLine_deviceLine, isMetadataLine_timestampLine]
  rw [finalBody, finalBody, keptLines, List.filter_append, ← keptLines, ← keptLines, dropped,
    List.append_nil]

/-- Of a record, finalizing sees only the content that it keeps. -/
theorem finalize_congr {space raw other : String} {lines others : List (List Char)}
    (content : contentLines raw.toList = .ok lines)
    (otherContent : contentLines other.toList = .ok others)
    (same : finalBody space.toList others = finalBody space.toList lines) (metadata : Metadata) :
    finalize space other metadata = finalize space raw metadata := by
  cases admitted : admitsDevice metadata.deviceId.toList with
  | false =>
      rw [finalize, finalize, admitted]
      rfl
  | true =>
      cases written : Numeral.writeInt? metadata.timestamp with
      | none =>
          rw [finalize_of_unwritten admitted content written,
            finalize_of_unwritten admitted otherContent written]
      | some digits =>
          rw [finalize_eq_ok_iff.mpr ⟨admitted, lines, digits, content, written, rfl⟩,
            finalize_eq_ok_iff]
          refine ⟨admitted, others, digits, otherContent, written, ?_⟩
          rw [finalText, finalText, same]

/-- What a record was finalized to before does not show when it is finalized again. -/
theorem finalize_finalized {space raw once : String} {first : Metadata}
    (fits : FitsLines space.toList first) (done : finalize space raw first = .ok once)
    (second : Metadata) : finalize space once second = finalize space raw second := by
  obtain ⟨-, lines, digits, content, written, rfl⟩ := finalize_eq_ok_iff.mp done
  have again := contentLines_finalText fits content written
  refine finalize_congr content (by rwa [String.toList_ofList]) ?_ second
  rw [finalBody_append_footer, finalBody_again fits.space content]

theorem foldlM_finalize {space raw : String} {steps : List Metadata}
    (done : ∀ step ∈ steps, ∃ text, finalize space raw step = .ok text)
    (fits : ∀ step ∈ steps, FitsLines space.toList step) (last : Metadata) :
    (steps ++ [last]).foldlM (finalize space) raw = finalize space raw last := by
  -- Over the texts that the steps start from: all of them finalize to the same as the first one.
  induction steps generalizing raw with
  | nil => simp
  | cons first rest ih =>
      obtain ⟨once, finalized⟩ := done first (by simp)
      have again := finalize_finalized (fits first (by simp)) finalized
      have later : ∀ step ∈ rest, ∃ text, finalize space once step = .ok text := by
        intro step member
        rw [again]
        exact done step (List.mem_cons_of_mem _ member)
      rw [List.cons_append, List.foldlM_cons, finalized]
      exact (ih later fun step member => fits step (List.mem_cons_of_mem _ member)).trans
        (again last)

/-- A record can be finalized any number of times, by any devices, for any contacts and at any
times: the outcome is that of the last time alone. -/
theorem last_footer_alone_shows {space raw : String} {offset : Nat} {steps : List Metadata}
    (record : insertionPoint raw.toList = .ok offset)
    (wholeSpace : isUnbroken space.toList = true) (nonempty : steps ≠ [])
    (admitted : ∀ step ∈ steps, admitsDevice step.deviceId.toList = true)
    (wholeDevices : ∀ step ∈ steps, isUnbroken step.deviceId.toList = true)
    (wholeUids : ∀ step ∈ steps, isUnbroken step.uid.text.toList = true)
    (short : ∀ step ∈ steps, step.timestamp.natAbs < tenTo Numeral.maxDigits) :
    ∃ text, steps.foldlM (finalize space) raw = .ok text ∧
      finalize space raw (steps.getLast nonempty) = .ok text := by
  have done : ∀ step ∈ steps, ∃ text, finalize space raw step = .ok text := by
    intro step member
    exact (exists_finalize_iff (admitted step member)
      (Numeral.isTooLong_eq_false_iff.mpr (short step member))).mpr ⟨offset, record⟩
  have fits : ∀ step ∈ steps, FitsLines space.toList step := fun step member =>
    fitsLines_of_isUnbroken wholeSpace (wholeDevices step member) (wholeUids step member)
  obtain ⟨text, finalized⟩ := done _ (List.getLast_mem nonempty)
  refine ⟨text, ?_, finalized⟩
  have front : ∀ step ∈ steps.dropLast, step ∈ steps := fun step member =>
    List.dropLast_subset steps member
  have whole := foldlM_finalize (fun step member => done step (front step member))
    (fun step member => fits step (front step member)) (steps.getLast nonempty)
  rw [List.dropLast_concat_getLast nonempty] at whole
  exact whole.trans finalized

/-- A record with a stale footer in small letters, a carriage return in front of it and a line feed
behind it. -/
theorem last_footer_alone_shows_paired :
    ∃ text, [⟨"phone", ⟨"7"⟩, -5⟩, ⟨"desk", ⟨" "⟩, 3⟩, ⟨"phone", ⟨"8"⟩, 0⟩].foldlM
        (finalize "KDECONNECT") "FN:A\rx-kdeconnect-timestamp:1\x0b\nend:vcard" = .ok text ∧
      finalize "KDECONNECT" "FN:A\rx-kdeconnect-timestamp:1\x0b\nend:vcard"
        ⟨"phone", ⟨"8"⟩, 0⟩ = .ok text :=
  have record : insertionPoint "FN:A\rx-kdeconnect-timestamp:1\x0b\nend:vcard".toList =
      .ok 31 := rfl
  last_footer_alone_shows record (by decide) (List.cons_ne_nil _ _) (by decide) (by decide)
    (by decide) (by decide +kernel)

end PairedContacts.VCard
