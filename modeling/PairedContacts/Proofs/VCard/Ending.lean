import PairedContacts.Proofs.Outcome
import PairedContacts.Proofs.Text.Capitals
import PairedContacts.Proofs.Text.Trimming
import PairedContacts.VCard.Ending

/-!
# Where the content of a vCard stops

A text is a record exactly when one of its lines is an end marker and only blank lines come after
that; its content is then the lines in front of the marker, and no line is cut by taking them.  The
insertion point of the metadata is where that content stops.
-/

set_option autoImplicit false

namespace PairedContacts.VCard

/-- How the lines of a record are divided by its end marker. -/
structure EndsAt (lines content : List (List Char)) (marker : List Char)
    (after : List (List Char)) : Prop where
  split : lines = content ++ marker :: after
  unmarked : ∀ line ∈ content, isEndMarker line = false
  marked : isEndMarker marker = true
  blank : ∀ line ∈ after, isBlankLine line = true

theorem isEndMarker_iff {line : List Char} :
    isEndMarker line = true ↔ Text.upper (Text.trim line) = endMarker :=
  beq_iff_eq

theorem isEndMarker_eq_false_iff {line : List Char} :
    isEndMarker line = false ↔ Text.upper (Text.trim line) ≠ endMarker :=
  beq_eq_false_iff_ne

theorem isBlankLine_iff {line : List Char} :
    isBlankLine line = true ↔ ∀ c ∈ line, Text.isBlank c = true :=
  List.isEmpty_iff.trans Text.trim_eq_nil_iff

theorem isEndMarker_append_lineFeed (line : List Char) :
    isEndMarker (line ++ ['\n']) = isEndMarker line := by
  rw [isEndMarker, isEndMarker, Text.trim_append_blank (by decide)]

theorem isEndMarker_endMarker : isEndMarker endMarker = true := by decide

theorem not_isEndMarker_of_isBlankLine {line : List Char} (blank : isBlankLine line = true) :
    isEndMarker line = false := by
  rw [isEndMarker, List.isEmpty_iff.mp blank]
  rfl

/-- A line that begins with the letter of metadata lines, in either case, is no end marker. -/
theorem not_isEndMarker_of_upper {line rest : List Char} (capital : Text.upper line = 'X' :: rest) :
    isEndMarker line = false := by
  cases line with
  | nil => cases capital
  | cons c tail =>
      obtain ⟨d, more, written⟩ := List.exists_cons_of_ne_nil (Text.upperChar_ne_nil c)
      rw [Text.upper_cons, written, List.cons_append] at capital
      obtain ⟨rfl, -⟩ := List.cons.inj capital
      obtain ⟨inner, trimmed⟩ : ∃ inner, Text.trim (c :: tail) = c :: inner :=
        Text.trim_cons (Text.not_isBlank_of_mem_upperChar (by rw [written]; simp))
      rw [isEndMarker, trimmed, Text.upper_cons, written]
      rfl

/-- A list of lines with an end marker is divided by its first one. -/
theorem exists_first_marker {lines : List (List Char)} (marked : 0 < lines.countP isEndMarker) :
    ∃ marker after, (lines.dropWhile fun line => !isEndMarker line) = marker :: after ∧
      lines = (lines.takeWhile fun line => !isEndMarker line) ++ marker :: after ∧
      isEndMarker marker = true := by
  obtain ⟨line, member, ends⟩ := List.countP_pos_iff.mp marked
  cases rest : lines.dropWhile fun line => !isEndMarker line with
  | nil =>
      have unmarked := List.dropWhile_eq_nil_iff.mp rest line member
      simp [ends] at unmarked
  | cons marker after =>
      have stops := List.head?_dropWhile_not (fun line => !isEndMarker line) lines
      refine ⟨marker, after, rfl, ?_, by simpa [rest] using stops⟩
      rw [← rest, List.takeWhile_append_dropWhile]

theorem exists_endsAt_of_linesBeforeEnd {lines content : List (List Char)}
    (ends : linesBeforeEnd lines = .ok content) :
    ∃ marker after, EndsAt lines content marker after := by
  rw [linesBeforeEnd] at ends
  split at ends
  · cases ends
  · rename_i single
    have present : 0 < lines.countP isEndMarker := by omega
    obtain ⟨marker, after, rest, split, marked⟩ := exists_first_marker present
    rw [rest] at ends
    split at ends
    · rename_i blank
      obtain rfl := Except.ok.inj ends
      refine ⟨marker, after, split, ?_, marked, List.all_eq_true.mp blank⟩
      intro line member
      simpa using List.mem_takeWhile_imp member
    · cases ends

theorem EndsAt.countP_eq_one {lines content after : List (List Char)} {marker : List Char}
    (divided : EndsAt lines content marker after) : lines.countP isEndMarker = 1 := by
  have contentNone : content.countP isEndMarker = 0 := by
    rw [List.countP_eq_zero]
    intro line member
    simp [divided.unmarked line member]
  have afterNone : after.countP isEndMarker = 0 := by
    rw [List.countP_eq_zero]
    intro line member
    simp [not_isEndMarker_of_isBlankLine (divided.blank line member)]
  rw [divided.split, List.countP_append, List.countP_cons, contentNone, afterNone,
    if_pos divided.marked]

theorem EndsAt.linesBeforeEnd_eq {lines content after : List (List Char)} {marker : List Char}
    (divided : EndsAt lines content marker after) : linesBeforeEnd lines = .ok content := by
  have passed : ∀ line ∈ content, (!isEndMarker line) = true := by
    intro line member
    simp [divided.unmarked line member]
  rw [linesBeforeEnd, divided.countP_eq_one, divided.split, List.dropWhile_append_of_pos passed,
    List.takeWhile_append_of_pos passed]
  simp [divided.marked, List.all_eq_true.mpr divided.blank]

theorem linesBeforeEnd_eq_ok_iff {lines content : List (List Char)} :
    linesBeforeEnd lines = .ok content ↔ ∃ marker after, EndsAt lines content marker after := by
  constructor
  · exact exists_endsAt_of_linesBeforeEnd
  · rintro ⟨marker, after, divided⟩
    exact divided.linesBeforeEnd_eq

theorem EndsAt.eq_of_concat {front content after : List (List Char)} {last marker : List Char}
    (divided : EndsAt (front ++ [last]) content marker after)
    (ends : isEndMarker last = true) : content = front := by
  rcases List.eq_nil_or_concat after with rfl | ⟨between, line, rfl⟩
  · exact (List.append_inj' divided.split rfl).1.symm
  · have split := divided.split
    rw [List.concat_eq_append, ← List.cons_append, ← List.append_assoc] at split
    obtain ⟨-, same⟩ := List.append_inj' split rfl
    obtain rfl := List.singleton_inj.mp same
    rw [not_isEndMarker_of_isBlankLine (divided.blank _ (by simp))] at ends
    cases ends

theorem insertionPoint_eq_ok_iff {text : List Char} {offset : Nat} :
    insertionPoint text = .ok offset ↔
      ∃ content marker after, EndsAt (Text.splitLines text) content marker after ∧
        offset = content.flatten.length := by
  rw [insertionPoint, map_eq_ok_iff]
  constructor
  · rintro ⟨content, ends, rfl⟩
    obtain ⟨marker, after, divided⟩ := linesBeforeEnd_eq_ok_iff.mp ends
    exact ⟨content, marker, after, divided, rfl⟩
  · rintro ⟨content, marker, after, divided, rfl⟩
    exact ⟨content, linesBeforeEnd_eq_ok_iff.mpr ⟨marker, after, divided⟩, rfl⟩

theorem EndsAt.eq_append {text marker : List Char} {content after : List (List Char)}
    (divided : EndsAt (Text.splitLines text) content marker after) :
    text = content.flatten ++ (marker :: after).flatten := by
  rw [← List.flatten_append, ← divided.split, Text.flatten_splitLines]

/-- The text in front of the insertion point has the lines in front of the marker. -/
theorem EndsAt.splitLines_take {text marker : List Char} {content after : List (List Char)}
    (divided : EndsAt (Text.splitLines text) content marker after) :
    Text.splitLines (text.take content.flatten.length) = content := by
  have front : text.take content.flatten.length = content.flatten := by
    rw [divided.eq_append, List.take_left]
  rw [front]
  exact Text.splitLines_flatten_of_append divided.split

/-- The text from the insertion point on has the marker and the lines behind it. -/
theorem EndsAt.splitLines_drop {text marker : List Char} {content after : List (List Char)}
    (divided : EndsAt (Text.splitLines text) content marker after) :
    Text.splitLines (text.drop content.flatten.length) = marker :: after := by
  have back : text.drop content.flatten.length = (marker :: after).flatten := by
    rw [divided.eq_append, List.drop_left]
  rw [back]
  exact Text.splitLines_flatten_behind divided.split

theorem contentLines_eq_ok_iff {text : List Char} {content : List (List Char)} :
    contentLines text = .ok content ↔
      ∃ marker after, EndsAt (Text.splitLines text) content marker after := by
  rw [contentLines, map_eq_ok_iff]
  constructor
  · rintro ⟨offset, point, rfl⟩
    obtain ⟨lines, marker, after, divided, rfl⟩ := insertionPoint_eq_ok_iff.mp point
    rw [divided.splitLines_take]
    exact ⟨marker, after, divided⟩
  · rintro ⟨marker, after, divided⟩
    exact ⟨_, insertionPoint_eq_ok_iff.mpr ⟨content, marker, after, divided, rfl⟩,
      divided.splitLines_take⟩

theorem EndsAt.isEnded {text marker : List Char} {content after : List (List Char)}
    (divided : EndsAt (Text.splitLines text) content marker after) :
    ∀ line ∈ content, Text.isEnded line = true := by
  intro line member
  obtain ⟨before, later, rfl⟩ := List.append_of_mem member
  have split := divided.split
  rw [List.append_assoc, List.cons_append] at split
  exact Text.isEnded_of_splitLines split (by simp)

/-! ## Blanks behind a record -/

theorem isBlankLine_append_blank (line : List Char) {c : Char} (blank : Text.isBlank c = true) :
    isBlankLine (line ++ [c]) = isBlankLine line := by
  rw [isBlankLine, isBlankLine, Text.trim_append_blank blank]

/-- A blank behind a record goes to its end marker or after it. -/
theorem EndsAt.append_blank {text marker : List Char} {content after : List (List Char)}
    (divided : EndsAt (Text.splitLines text) content marker after) {c : Char}
    (blank : Text.isBlank c = true) :
    ∃ marker' after', EndsAt (Text.splitLines (text ++ [c])) content marker' after' := by
  have nonempty : text ≠ [] := by
    rintro rfl
    simpa [Text.splitLines] using divided.split
  obtain ⟨front, last, split, ends⟩ := Text.splitLines_append_char nonempty c
  have parts := split.symm.trans divided.split
  have alone : isBlankLine [c] = true := isBlankLine_append_blank [] blank
  rcases List.eq_nil_or_concat after with rfl | ⟨between, line, rfl⟩
  · obtain ⟨rfl, same⟩ := List.append_inj' parts rfl
    obtain rfl := List.singleton_inj.mp same
    rcases ends with joined | apart
    · refine ⟨last ++ [c], [], joined, divided.unmarked, ?_, by simp⟩
      rw [isEndMarker, Text.trim_append_blank blank]
      exact divided.marked
    · exact ⟨last, [[c]], apart, divided.unmarked, divided.marked, by simpa using alone⟩
  · rw [List.concat_eq_append, ← List.cons_append, ← List.append_assoc] at parts
    obtain ⟨rfl, same⟩ := List.append_inj' parts rfl
    obtain rfl := List.singleton_inj.mp same
    have early : ∀ other ∈ between, isBlankLine other = true := fun other member =>
      divided.blank other (by simp [member])
    have late : isBlankLine last = true := divided.blank last (by simp)
    rcases ends with joined | apart
    · refine ⟨marker, between ++ [last ++ [c]], by simpa using joined, divided.unmarked,
        divided.marked, ?_⟩
      simpa [or_imp, forall_and, isBlankLine_append_blank _ blank] using ⟨early, late⟩
    · refine ⟨marker, between ++ [last, [c]], by simpa using apart, divided.unmarked,
        divided.marked, ?_⟩
      simpa [or_imp, forall_and] using ⟨early, late, alone⟩

theorem contentLines_append_blank {text : List Char} {content : List (List Char)}
    (ends : contentLines text = .ok content) {c : Char} (blank : Text.isBlank c = true) :
    contentLines (text ++ [c]) = .ok content := by
  obtain ⟨marker, after, divided⟩ := contentLines_eq_ok_iff.mp ends
  exact contentLines_eq_ok_iff.mpr (divided.append_blank blank)

theorem insertionPoint_append_blank {text : List Char} {offset : Nat}
    (point : insertionPoint text = .ok offset) {c : Char} (blank : Text.isBlank c = true) :
    insertionPoint (text ++ [c]) = .ok offset := by
  obtain ⟨content, marker, after, divided, rfl⟩ := insertionPoint_eq_ok_iff.mp point
  obtain ⟨marker', after', divided'⟩ := divided.append_blank blank
  exact insertionPoint_eq_ok_iff.mpr ⟨content, marker', after', divided', rfl⟩

theorem insertionPoint_append_blanks {text blanks : List Char} {offset : Nat}
    (point : insertionPoint text = .ok offset)
    (blank : ∀ c ∈ blanks, Text.isBlank c = true) :
    insertionPoint (text ++ blanks) = .ok offset := by
  induction blanks generalizing text with
  | nil => rwa [List.append_nil]
  | cons c rest ih =>
      have first := insertionPoint_append_blank point (blank c (by simp))
      have others := ih first fun d member => blank d (List.mem_cons_of_mem _ member)
      rwa [List.append_assoc, List.singleton_append] at others

/-! ## Well-ended texts -/

/-- One line of the text is an end marker, no other line is one, and the lines behind it hold
nothing but blanks. -/
def IsWellEnded (text : List Char) : Prop :=
  ∃ before marker after, Text.splitLines text = before ++ marker :: after ∧
    Text.upper (Text.trim marker) = endMarker ∧
    (∀ line ∈ before ++ after, Text.upper (Text.trim line) ≠ endMarker) ∧
    ∀ line ∈ after, ∀ c ∈ line, Text.isBlank c = true

/-- The text is cut just before the first of its lines that is an end marker. -/
structure CutBeforeEnd (text front back : List Char) : Prop where
  whole : front ++ back = text
  lines : Text.splitLines front ++ Text.splitLines back = Text.splitLines text
  unmarked : ∀ line ∈ Text.splitLines front, Text.upper (Text.trim line) ≠ endMarker
  marked : ∃ marker after, Text.splitLines back = marker :: after ∧
    Text.upper (Text.trim marker) = endMarker

theorem isWellEnded_iff {text : List Char} :
    IsWellEnded text ↔
      ∃ content marker after, EndsAt (Text.splitLines text) content marker after := by
  constructor
  · rintro ⟨before, marker, after, split, marked, others, blank⟩
    refine ⟨before, marker, after, split, ?_, isEndMarker_iff.mpr marked, ?_⟩
    · intro line member
      exact isEndMarker_eq_false_iff.mpr (others line (List.mem_append_left _ member))
    · intro line member
      exact isBlankLine_iff.mpr (blank line member)
  · rintro ⟨content, marker, after, divided⟩
    refine ⟨content, marker, after, divided.split, isEndMarker_iff.mp divided.marked, ?_, ?_⟩
    · intro line member
      rw [← isEndMarker_eq_false_iff]
      rcases List.mem_append.mp member with early | late
      · exact divided.unmarked line early
      · exact not_isEndMarker_of_isBlankLine (divided.blank line late)
    · intro line member
      exact isBlankLine_iff.mp (divided.blank line member)

theorem EndsAt.cutBeforeEnd {text marker : List Char} {content after : List (List Char)}
    (divided : EndsAt (Text.splitLines text) content marker after) :
    CutBeforeEnd text (text.take content.flatten.length) (text.drop content.flatten.length) where
  whole := List.take_append_drop _ text
  lines := by rw [divided.splitLines_take, divided.splitLines_drop, ← divided.split]
  unmarked := by
    rw [divided.splitLines_take]
    intro line member
    exact isEndMarker_eq_false_iff.mp (divided.unmarked line member)
  marked := ⟨marker, after, divided.splitLines_drop, isEndMarker_iff.mp divided.marked⟩

/-- A text has an insertion point exactly if it is well ended.  The insertion point then lies
between two lines, with the only end marker right behind it, and blanks behind the text do not move
it, also where they go on with the last line or complete its break. -/
theorem insertionPoint_lies_between_lines (text : List Char) :
    ((∃ offset, insertionPoint text = .ok offset) ↔ IsWellEnded text) ∧
      ∀ offset, insertionPoint text = .ok offset ->
        CutBeforeEnd text (text.take offset) (text.drop offset) ∧
          ∀ blanks, (∀ c ∈ blanks, Text.isBlank c = true) ->
            insertionPoint (text ++ blanks) = .ok offset := by
  constructor
  · rw [isWellEnded_iff]
    constructor
    · rintro ⟨offset, point⟩
      obtain ⟨content, marker, after, divided, -⟩ := insertionPoint_eq_ok_iff.mp point
      exact ⟨content, marker, after, divided⟩
    · rintro ⟨content, marker, after, divided⟩
      exact ⟨_, insertionPoint_eq_ok_iff.mpr ⟨content, marker, after, divided, rfl⟩⟩
  · intro offset point
    refine ⟨?_, fun blanks blank => insertionPoint_append_blanks point blank⟩
    obtain ⟨content, marker, after, divided, rfl⟩ := insertionPoint_eq_ok_iff.mp point
    exact divided.cutBeforeEnd

/-- The line feed behind this text completes the break of its last line, and the insertion point
stays behind the pair in front of the marker. -/
theorem insertionPoint_lies_between_lines_paired :
    insertionPoint "FN:A\u2028\r\n\u3000end:vCard\x0b\r".toList = .ok 7 ∧
      CutBeforeEnd "FN:A\u2028\r\n\u3000end:vCard\x0b\r".toList "FN:A\u2028\r\n".toList
        "\u3000end:vCard\x0b\r".toList ∧
      insertionPoint ("FN:A\u2028\r\n\u3000end:vCard\x0b\r".toList ++ "\n \u2029".toList) =
        .ok 7 := by
  have point : insertionPoint "FN:A\u2028\r\n\u3000end:vCard\x0b\r".toList = .ok 7 := rfl
  have blank : "\n \u2029".toList.all Text.isBlank = true := by decide
  obtain ⟨cut, stays⟩ := (insertionPoint_lies_between_lines _).2 7 point
  exact ⟨point, cut, stays _ (List.all_eq_true.mp blank)⟩

end PairedContacts.VCard
