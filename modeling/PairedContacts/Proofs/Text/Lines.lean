import PairedContacts.Text.Line

/-!
# Splitting and joining lines

Where a text can be cut so that the lines of the parts are the lines of the whole, and what happens
to lines that are joined again after some of them were left out.  Joining can pair a carriage return
with a line feed that belonged to another line; it changes lines in no other way.
-/

set_option autoImplicit false

namespace PairedContacts.Text

/-- A text in which no line ends. -/
def isUnbroken (text : List Char) : Bool :=
  text.all fun c => !isLineBreak c

/-- A line that is over: its last character is a line break. -/
def isEnded (line : List Char) : Bool :=
  line.getLast?.any isLineBreak

/-- Whether the cut between two texts parts a carriage return from its line feed. -/
def partsPair (first second : List Char) : Bool :=
  first.getLast? == some '\r' && second.head? == some '\n'

theorem isLineBreak_lineFeed : isLineBreak '\n' = true := by decide

theorem isLineBreak_carriageReturn : isLineBreak '\r' = true := by decide

theorem of_isLineBreak {holds : Char -> Bool} (listed : lineBreaks.all holds = true) {c : Char}
    (breaks : isLineBreak c = true) : holds c = true :=
  List.all_eq_true.mp listed c (List.contains_iff_mem.mp breaks)

theorem partsPair_singleton {c : Char} {rest : List Char} :
    partsPair [c] rest = false ↔ (c = '\r' → rest.head? ≠ some '\n') := by
  by_cases returns : c = '\r' <;> simp [partsPair, returns]

theorem partsPair_append {first second rest : List Char} (nonempty : second ≠ []) :
    partsPair first (second ++ rest) = partsPair first second := by
  cases second with
  | nil => exact absurd rfl nonempty
  | cons c tail => rfl

theorem not_isLineBreak_of_isUnbroken {text : List Char} (unbroken : isUnbroken text = true)
    {c : Char} (member : c ∈ text) : isLineBreak c = false := by
  simpa using List.all_eq_true.mp unbroken c member

theorem isUnbroken_of_forall {text : List Char}
    (plain : ∀ c ∈ text, ¬isLineBreak c = true) : isUnbroken text = true := by
  rw [isUnbroken, List.all_eq_true]
  intro c member
  simpa using plain c member

theorem isUnbroken_append {first second : List Char} :
    isUnbroken (first ++ second) = (isUnbroken first && isUnbroken second) :=
  List.all_append

theorem isUnbroken_cons {c : Char} {rest : List Char} :
    isUnbroken (c :: rest) = (!isLineBreak c && isUnbroken rest) :=
  rfl

theorem exists_first_break {text : List Char} (broken : isUnbroken text = false) :
    ∃ before c after, text = before ++ c :: after ∧ isUnbroken before = true ∧
      isLineBreak c = true := by
  induction text with
  | nil => simp [isUnbroken] at broken
  | cons c rest ih =>
      cases breaks : isLineBreak c with
      | true => exact ⟨[], c, rest, rfl, rfl, breaks⟩
      | false =>
          have restBroken : isUnbroken rest = false := by
            simpa [isUnbroken_cons, breaks] using broken
          obtain ⟨before, d, after, rfl, unbroken, ends⟩ := ih restBroken
          refine ⟨c :: before, d, after, rfl, ?_, ends⟩
          simp [isUnbroken_cons, breaks, unbroken]

/-! ## One character at a time -/

theorem splitLines_pair (rest : List Char) :
    splitLines ('\r' :: '\n' :: rest) = ['\r', '\n'] :: splitLines rest :=
  rfl

theorem splitLines_cons_break {c : Char} {rest : List Char} (breaks : isLineBreak c = true)
    (single : partsPair [c] rest = false) : splitLines (c :: rest) = [c] :: splitLines rest := by
  rw [splitLines.eq_3, if_pos breaks]
  rintro tail rfl rfl
  simp [partsPair] at single

theorem splitLines_cons_plain {c : Char} {rest line : List Char} {more : List (List Char)}
    (plain : isLineBreak c = false) (split : splitLines rest = line :: more) :
    splitLines (c :: rest) = (c :: line) :: more := by
  rw [splitLines.eq_3]
  · simp [plain, split]
  · rintro tail rfl rfl
    simp [isLineBreak_carriageReturn] at plain

theorem splitLines_singleton (c : Char) : splitLines [c] = [[c]] := by
  cases breaks : isLineBreak c with
  | true => exact splitLines_cons_break breaks (by simp [partsPair])
  | false => simp [splitLines, breaks]

/-- A text begins with a pair, with another line break, or with a character of its first line. -/
@[elab_as_elim]
theorem lines_induction {motive : List Char -> Prop} (nil : motive [])
    (pair : ∀ rest, motive rest -> motive ('\r' :: '\n' :: rest))
    (single : ∀ c rest, isLineBreak c = true -> partsPair [c] rest = false -> motive rest ->
      motive (c :: rest))
    (last : ∀ c, isLineBreak c = false -> motive [c])
    (plain : ∀ c rest line more, isLineBreak c = false -> splitLines rest = line :: more ->
      motive rest -> motive (c :: rest))
    (text : List Char) : motive text := by
  fun_induction splitLines text with
  | case1 => exact nil
  | case2 rest ih => exact pair rest ih
  | case3 c rest notPair breaks ih =>
      refine single c rest breaks ?_ ih
      rw [partsPair_singleton]
      intro returns starts
      obtain ⟨after, opens⟩ := List.head?_eq_some_iff.mp starts
      exact notPair after returns opens
  | case4 c rest notPair stays noLines ih =>
      rw [splitLines_eq_nil_iff] at noLines
      subst noLines
      exact last c (by simpa using stays)
  | case5 c rest notPair stays line more split ih =>
      exact plain c rest line more (by simpa using stays) split ih

theorem splitLines_unbroken_append {body rest line : List Char} {more : List (List Char)}
    (unbroken : isUnbroken body = true) (split : splitLines rest = line :: more) :
    splitLines (body ++ rest) = (body ++ line) :: more := by
  induction body with
  | nil => exact split
  | cons c tail ih =>
      rw [isUnbroken_cons, Bool.and_eq_true] at unbroken
      exact splitLines_cons_plain (by simpa using unbroken.1) (ih unbroken.2)

theorem splitLines_concat {body : List Char} (unbroken : isUnbroken body = true) (c : Char) :
    splitLines (body ++ [c]) = [body ++ [c]] :=
  splitLines_unbroken_append unbroken (splitLines_singleton c)

/-! ## Cutting between lines -/

/-- Behind a line break, and not within a pair, the lines of a text can be told apart. -/
theorem splitLines_append {first second : List Char} (ended : first = [] ∨ isEnded first = true)
    (whole : partsPair first second = false) :
    splitLines (first ++ second) = splitLines first ++ splitLines second := by
  induction first using lines_induction with
  | nil => rfl
  | pair rest ih =>
      have cut : splitLines (rest ++ second) = splitLines rest ++ splitLines second := by
        cases rest with
        | nil => rfl
        | cons d more =>
            exact ih (.inr (by simpa [isEnded] using ended)) (by simpa [partsPair] using whole)
      rw [List.cons_append, List.cons_append, splitLines_pair, splitLines_pair, cut,
        List.cons_append]
  | single c rest breaks apart ih =>
      cases rest with
      | nil =>
          rw [splitLines_singleton]
          exact splitLines_cons_break breaks whole
      | cons d more =>
          have single : partsPair [c] (d :: more ++ second) = false := by
            simpa [partsPair] using apart
          have cut := ih (.inr (by simpa [isEnded] using ended)) (by simpa [partsPair] using whole)
          rw [List.cons_append, splitLines_cons_break breaks single, cut,
            splitLines_cons_break breaks apart, List.cons_append]
  | last c plain => simp [isEnded, plain] at ended
  | plain c rest line more plain split ih =>
      cases rest with
      | nil => simp [splitLines] at split
      | cons d tail =>
          have cut := ih (.inr (by simpa [isEnded] using ended)) (by simpa [partsPair] using whole)
          rw [split] at cut
          rw [splitLines_cons_plain plain split]
          exact splitLines_cons_plain plain cut

theorem splitLines_append_of_feed {first : List Char} (feeds : first.getLast? = some '\n')
    (second : List Char) :
    splitLines (first ++ second) = splitLines first ++ splitLines second := by
  refine splitLines_append (.inr ?_) ?_
  · rw [isEnded, feeds]
    exact isLineBreak_lineFeed
  · simp [partsPair, feeds]

/-- What a text shows of its first line and of the lines behind that: either part has its lines by
itself, and they are parted behind a break, not within it. -/
structure FirstLine (line : List Char) (more : List (List Char)) : Prop where
  alone : splitLines line = [line]
  others : splitLines more.flatten = more
  ended : more ≠ [] -> isEnded line = true
  apart : partsPair line more.flatten = false

theorem firstLine_of_splitLines {text line : List Char} {more : List (List Char)}
    (split : splitLines text = line :: more) : FirstLine line more := by
  induction text using lines_induction generalizing line with
  | nil => cases split
  | pair rest ih =>
      rw [splitLines_pair] at split
      obtain ⟨rfl, rfl⟩ := List.cons.inj split
      exact ⟨rfl, by rw [flatten_splitLines], fun _ => rfl, rfl⟩
  | single c rest breaks apart ih =>
      rw [splitLines_cons_break breaks apart] at split
      obtain ⟨rfl, rfl⟩ := List.cons.inj split
      rw [← flatten_splitLines rest] at apart
      exact ⟨splitLines_singleton c, by rw [flatten_splitLines], fun _ => breaks, apart⟩
  | last c plain =>
      rw [splitLines_singleton] at split
      obtain ⟨rfl, rfl⟩ := List.cons.inj split
      exact ⟨splitLines_singleton c, rfl, fun more => absurd rfl more, by simp [partsPair]⟩
  | plain c rest first others plain split' ih =>
      rw [splitLines_cons_plain plain split'] at split
      obtain ⟨rfl, rfl⟩ := List.cons.inj split
      have tail := ih split'
      obtain ⟨d, behind, rfl⟩ : ∃ d behind, first = d :: behind :=
        List.exists_cons_of_ne_nil (ne_nil_of_mem_splitLines (by rw [split']; simp))
      refine ⟨splitLines_cons_plain plain tail.alone, tail.others, ?_, ?_⟩
      · simpa [isEnded] using tail.ended
      · simpa [partsPair] using tail.apart

theorem flatten_ne_nil {lines : List (List Char)} (kept : splitLines lines.flatten = lines)
    (nonempty : lines ≠ []) : lines.flatten ≠ [] := by
  intro empty
  rw [empty] at kept
  exact nonempty kept.symm

/-- The last lines of a text are the lines of what they concatenate to. -/
theorem splitLines_flatten_behind {text : List Char} {lines more : List (List Char)}
    (split : splitLines text = lines ++ more) : splitLines more.flatten = more := by
  induction lines generalizing text with
  | nil => rw [← List.nil_append more, ← split, flatten_splitLines]
  | cons line tail ih => exact ih (firstLine_of_splitLines split).others

/-- The first lines of a text are the lines of what they concatenate to. -/
theorem splitLines_flatten_of_append {text : List Char} {lines more : List (List Char)}
    (split : splitLines text = lines ++ more) : splitLines lines.flatten = lines := by
  induction lines generalizing text with
  | nil => rfl
  | cons line tail ih =>
      have first : FirstLine line (tail ++ more) := firstLine_of_splitLines split
      have cut : splitLines tail.flatten = tail := ih first.others
      cases tail with
      | nil => simpa using first.alone
      | cons next others =>
          have apart := first.apart
          rw [List.flatten_append, partsPair_append (flatten_ne_nil cut (by simp))] at apart
          rw [List.flatten_cons, splitLines_append (.inr (first.ended (by simp))) apart,
            first.alone, cut, List.singleton_append]

/-- What is written behind a text goes on with its last line and leaves the other lines alone. -/
theorem splitLines_append_last {text last : List Char} {front : List (List Char)}
    (split : splitLines text = front ++ [last]) (rest : List Char) :
    splitLines (text ++ rest) = front ++ splitLines (last ++ rest) := by
  induction front generalizing text with
  | nil =>
      have whole := flatten_splitLines text
      rw [split, List.nil_append, List.flatten_singleton] at whole
      rw [whole, List.nil_append]
  | cons line tail ih =>
      have first : FirstLine line (tail ++ [last]) := firstLine_of_splitLines split
      have whole : text = line ++ (tail ++ [last]).flatten := by
        rw [← flatten_splitLines text, split]
        rfl
      have apart := first.apart
      rw [← partsPair_append (flatten_ne_nil first.others (by simp))] at apart
      rw [whole, List.append_assoc, splitLines_append (.inr (first.ended (by simp))) apart,
        first.alone, ih first.others]
      rfl

/-- Only the last line of a text may lack its break. -/
theorem isEnded_of_splitLines {text line : List Char} {before after : List (List Char)}
    (split : splitLines text = before ++ line :: after) (notLast : after ≠ []) :
    isEnded line = true :=
  (firstLine_of_splitLines (splitLines_flatten_behind split)).ended notLast

theorem splitLines_line {text line : List Char} (member : line ∈ splitLines text) :
    splitLines line = [line] := by
  obtain ⟨before, after, split⟩ := List.append_of_mem member
  exact (firstLine_of_splitLines (splitLines_flatten_behind split)).alone

/-- A line is an unbroken text with at most one line break behind it. -/
theorem line_shape {text line : List Char} (member : line ∈ splitLines text) :
    ∃ body ending, line = body ++ ending ∧ isUnbroken body = true ∧
      (ending = [] ∨ ending = ['\r', '\n'] ∨ ∃ c, isLineBreak c = true ∧ ending = [c]) := by
  induction text using lines_induction generalizing line with
  | nil => simp [splitLines] at member
  | pair rest ih =>
      rw [splitLines_pair] at member
      rcases List.mem_cons.mp member with rfl | member
      · exact ⟨[], ['\r', '\n'], rfl, rfl, .inr (.inl rfl)⟩
      · exact ih member
  | single c rest breaks apart ih =>
      rw [splitLines_cons_break breaks apart] at member
      rcases List.mem_cons.mp member with rfl | member
      · exact ⟨[], [c], rfl, rfl, .inr (.inr ⟨c, breaks, rfl⟩)⟩
      · exact ih member
  | last c plain =>
      rw [splitLines_singleton] at member
      obtain rfl := List.mem_singleton.mp member
      exact ⟨[c], [], rfl, by simpa [isUnbroken] using plain, .inl rfl⟩
  | plain c rest first others plain split ih =>
      rw [splitLines_cons_plain plain split] at member
      rcases List.mem_cons.mp member with rfl | member
      · have opens : first ∈ splitLines rest := by
          rw [split]
          exact List.mem_cons_self
        obtain ⟨body, ending, rfl, unbroken, shape⟩ := ih opens
        exact ⟨c :: body, ending, rfl, by simpa [isUnbroken_cons, unbroken] using plain, shape⟩
      · exact ih (by rw [split]; simp [member])

/-- A line that lacks its break has no line break at all. -/
theorem isUnbroken_of_line {line : List Char} (alone : splitLines line = [line])
    (unended : isEnded line = false) : isUnbroken line = true := by
  obtain ⟨body, ending, rfl, unbroken, rfl | rfl | ⟨c, breaks, rfl⟩⟩ :=
    line_shape (show line ∈ splitLines line by rw [alone]; simp)
  · rwa [List.append_nil]
  · simp [isEnded, isLineBreak_lineFeed] at unended
  · simp [isEnded, breaks] at unended

/-! ## Joining lines again -/

/-- A line that ends in a carriage return takes a line feed into its break. -/
theorem splitLines_paired {line rest : List Char} (alone : splitLines line = [line])
    (returns : line.getLast? = some '\r') :
    splitLines (line ++ '\n' :: rest) = (line ++ ['\n']) :: splitLines rest := by
  have member : line ∈ splitLines line := by rw [alone]; simp
  obtain ⟨body, ending, rfl, unbroken, rfl | rfl | ⟨c, breaks, rfl⟩⟩ := line_shape member
  · rw [List.append_nil] at returns
    have plain := not_isLineBreak_of_isUnbroken unbroken (List.mem_of_getLast? returns)
    simp [isLineBreak_carriageReturn] at plain
  · simp at returns
  · obtain rfl : c = '\r' := by simpa using returns
    rw [List.append_assoc, List.append_assoc]
    exact splitLines_unbroken_append unbroken rfl

/-- Behind an ended line a text keeps its lines, except that a line feed at its front may become
part of the break of that line. -/
theorem splitLines_append_cases {first : List Char} (alone : splitLines first = [first])
    (ended : isEnded first = true) (rest : List Char) :
    splitLines (first ++ rest) = first :: splitLines rest ∨
      ∃ after, splitLines rest = ['\n'] :: after ∧
        splitLines (first ++ rest) = (first ++ ['\n']) :: after := by
  cases paired : partsPair first rest with
  | false =>
      left
      rw [splitLines_append (.inr ended) paired, alone, List.singleton_append]
  | true =>
      simp only [partsPair, Bool.and_eq_true, beq_iff_eq] at paired
      obtain ⟨returns, feeds⟩ := paired
      obtain ⟨after, rfl⟩ := List.head?_eq_some_iff.mp feeds
      refine .inr ⟨splitLines after, ?_, splitLines_paired alone returns⟩
      exact splitLines_cons_break isLineBreak_lineFeed (by simp [partsPair])

/-- A character behind a text goes on with its last line or is a line of its own. -/
theorem splitLines_append_char {text : List Char} (nonempty : text ≠ []) (c : Char) :
    ∃ front last, splitLines text = front ++ [last] ∧
      (splitLines (text ++ [c]) = front ++ [last ++ [c]] ∨
        splitLines (text ++ [c]) = front ++ [last, [c]]) := by
  rcases List.eq_nil_or_concat (splitLines text) with noLines | ⟨front, last, split⟩
  · exact absurd (splitLines_eq_nil_iff.mp noLines) nonempty
  rw [List.concat_eq_append] at split
  refine ⟨front, last, split, ?_⟩
  rw [splitLines_append_last split]
  have alone : splitLines last = [last] := splitLines_line (by rw [split]; simp)
  cases ended : isEnded last with
  | true =>
      rcases splitLines_append_cases alone ended [c] with apart | ⟨after, feeds, joined⟩
      · exact .inr (by rw [apart, splitLines_singleton])
      · rw [splitLines_singleton] at feeds
        obtain ⟨rfl, rfl⟩ : c = '\n' ∧ after = [] := by simpa using feeds
        exact .inl (by rw [joined])
  | false => exact .inl (by rw [splitLines_concat (isUnbroken_of_line alone ended)])

/-- Ended lines that are joined come back as they are, or with a line feed from the next one. -/
theorem mem_splitLines_flatten {lines : List (List Char)}
    (alone : ∀ line ∈ lines, splitLines line = [line])
    (ended : ∀ line ∈ lines, isEnded line = true)
    {line : List Char} (member : line ∈ splitLines lines.flatten) :
    line ∈ lines ∨ ∃ part ∈ lines, line = part ++ ['\n'] := by
  induction lines with
  | nil => simp [splitLines] at member
  | cons first rest ih =>
      have later : line ∈ splitLines rest.flatten →
          line ∈ first :: rest ∨ ∃ part ∈ first :: rest, line = part ++ ['\n'] := by
        intro here
        rcases ih (fun line kept => alone line (List.mem_cons_of_mem _ kept))
          (fun line kept => ended line (List.mem_cons_of_mem _ kept)) here with
          kept | ⟨part, kept, rfl⟩
        · exact .inl (List.mem_cons_of_mem _ kept)
        · exact .inr ⟨part, List.mem_cons_of_mem _ kept, rfl⟩
      rw [List.flatten_cons] at member
      rcases splitLines_append_cases (alone first (by simp)) (ended first (by simp)) rest.flatten
        with apart | ⟨after, others, joined⟩
      · rw [apart] at member
        rcases List.mem_cons.mp member with rfl | here
        · exact .inl (by simp)
        · exact later here
      · rw [joined] at member
        rcases List.mem_cons.mp member with rfl | here
        · exact .inr ⟨first, by simp, rfl⟩
        · exact later (by rw [others]; exact List.mem_cons_of_mem _ here)

/-- What is read off single lines can be read off the joined lines, if a line feed behind a line
does not matter to it. -/
theorem filterMap_splitLines_flatten {β : Type} {read : List Char -> Option β}
    {lines : List (List Char)} (alone : ∀ line ∈ lines, splitLines line = [line])
    (ended : ∀ line ∈ lines, isEnded line = true)
    (feedless : ∀ line, read (line ++ ['\n']) = read line) (silent : read ['\n'] = none) :
    (splitLines lines.flatten).filterMap read = lines.filterMap read := by
  induction lines with
  | nil => rfl
  | cons first rest ih =>
      have others := ih (fun line kept => alone line (List.mem_cons_of_mem _ kept))
        (fun line kept => ended line (List.mem_cons_of_mem _ kept))
      rw [List.flatten_cons]
      rcases splitLines_append_cases (alone first (by simp)) (ended first (by simp)) rest.flatten
        with apart | ⟨after, feeds, joined⟩
      · rw [apart, List.filterMap_cons, List.filterMap_cons, others]
      · rw [feeds, List.filterMap_cons_none silent] at others
        rw [joined, List.filterMap_cons, List.filterMap_cons, feedless, others]

end PairedContacts.Text
