import Mathlib.Data.List.Forall2
import PairedContacts.Proofs.Json.Lexeme
import PairedContacts.Proofs.Json.Reader

/-!
# Documents in files

Whatever is written of a document into a file, with its marks, its spaces and its escapes, spells the
lexemes of the document.  So a plain document that was written is read again.
-/

set_option autoImplicit false

namespace PairedContacts.Json

open Reader (feed)

variable {τ : Type} {dialect : Dialect τ}

/-! ## Marks and numbers -/

/-- A character that is always a mark, whatever comes after it. -/
structure IsMark (dialect : Dialect τ) (c : Char) (found : Lexeme τ) : Prop where
  ink : isSpace c = false
  reads : ∀ rest, lexeme dialect c rest = (found, rest)

theorem isMark_openList : IsMark dialect '[' (.mark .openList) :=
  ⟨by decide, fun _ => rfl⟩

theorem isMark_closeList : IsMark dialect ']' (.mark .closeList) :=
  ⟨by decide, fun _ => rfl⟩

theorem isMark_openMap : IsMark dialect '\x7b' (.mark .openMap) :=
  ⟨by decide, fun _ => rfl⟩

theorem isMark_closeMap : IsMark dialect '\x7d' (.mark .closeMap) :=
  ⟨by decide, fun _ => rfl⟩

theorem isMark_comma : IsMark dialect ',' (.mark .comma) :=
  ⟨by decide, fun _ => rfl⟩

theorem isMark_colon : IsMark dialect ':' (.mark .colon) :=
  ⟨by decide, fun _ => rfl⟩

theorem endsNumber_of_blank {blanks : List Char} (blank : ∀ c ∈ blanks, isSpace c = true) :
    endsNumber blanks = true := by
  cases blanks with
  | nil => rfl
  | cons c rest =>
      have space := blank c (by simp)
      simp only [isSpace, Bool.or_eq_true, decide_eq_true_eq, or_assoc] at space
      rcases space with rfl | rfl | rfl | rfl <;> rfl

theorem ne_of_isDigit {c other : Char} (digit : isDigit c = true) (strange : isDigit other = false) :
    c ≠ other := by
  rintro rfl
  rw [digit] at strange
  cases strange

theorem scanWord_digit {c : Char} (digit : isDigit c = true) (rest : List Char) :
    (scanWord (c :: rest) : Option (Lexeme τ × List Char)) = none := by
  have differs (other : Char) (strange : isDigit other = false) : ¬other = c :=
    (ne_of_isDigit digit strange).symm
  simp [scanWord, words, dropWord?, differs 'n' (by decide), differs 't' (by decide),
    differs 'f' (by decide), differs 'N' (by decide), differs 'I' (by decide),
    differs '-' (by decide)]

theorem scanWord_minus {c : Char} (digit : isDigit c = true) (rest : List Char) :
    (scanWord ('-' :: c :: rest) : Option (Lexeme τ × List Char)) = none := by
  have differs : ¬ 'I' = c := (ne_of_isDigit digit (by decide)).symm
  simp [scanWord, words, dropWord?, differs]

/-- A character that is no mark and opens no text begins a word or a number. -/
theorem lexeme_of_scanSigned {c : Char} {rest later : List Char} {found : Lexeme τ}
    (unmarked : c = '-' ∨ isDigit c = true)
    (noWord : (scanWord (c :: rest) : Option (Lexeme τ × List Char)) = none)
    (number : scanSigned dialect (c :: rest) = some (found, later)) :
    lexeme dialect c rest = (found, later) := by
  have differs (other : Char) (strange : isDigit other = false) (notMinus : '-' ≠ other) :
      c ≠ other := by
    rcases unmarked with rfl | digit
    · exact notMinus
    · exact ne_of_isDigit digit strange
  rw [lexeme]
  · rw [noWord, number]
    rfl
  all_goals exact differs _ (by decide) (by decide)

/-- A written integer is one lexeme, the one that it is scanned as. -/
theorem exists_lexeme_writeInt {n : Int} {found : Lexeme τ}
    (number : ∀ rest, endsNumber rest = true ->
      scanSigned dialect (Numeral.writeInt n ++ rest) = some (found, rest)) :
    ∃ c tail, Numeral.writeInt n = c :: tail ∧ isSpace c = false ∧
      ∀ rest, endsNumber rest = true -> lexeme dialect c (tail ++ rest) = (found, rest) := by
  have digits : ∀ c ∈ Nat.toDigits 10 n.natAbs, isDigit c = true := fun c member =>
    isDigit_of_mem_toDigits member
  cases written : Nat.toDigits 10 n.natAbs with
  | nil => exact absurd written Nat.toDigits_ne_nil
  | cons d more =>
      have digit : isDigit d = true := digits d (by rw [written]; simp)
      by_cases negative : n < 0
      · have whole : Numeral.writeInt n = '-' :: d :: more := by
          rw [Numeral.writeInt, if_pos negative, written]
          rfl
        rw [whole] at number
        exact ⟨'-', d :: more, whole, by decide, fun rest ends =>
          lexeme_of_scanSigned (.inl rfl) (scanWord_minus digit _) (number rest ends)⟩
      · have whole : Numeral.writeInt n = d :: more := by
          rw [Numeral.writeInt, if_neg negative, written]
          rfl
        rw [whole] at number
        have ink : isSpace d = false := by
          have differs (other : Char) (strange : isDigit other = false) : d ≠ other :=
            ne_of_isDigit digit strange
          simp [isSpace, differs ' ' (by decide), differs '\t' (by decide),
            differs '\n' (by decide), differs '\r' (by decide)]
        exact ⟨d, more, whole, ink, fun rest ends =>
          lexeme_of_scanSigned (.inr digit) (scanWord_digit digit _) (number rest ends)⟩

/-! ## Spelling -/

section Spelling

variable [DecidableEq τ] [Inhabited τ]

/-- A text that the reader takes as some lexemes, whatever comes after it that does not go on with
a number. -/
def Spells (dialect : Dialect τ) (text : List Char) (lexemes : List (Lexeme τ)) : Prop :=
  ∀ (total : Nat) (reader after : Reader τ) (rest : List Char),
    endsNumber rest = true -> feed dialect.maxDepth reader lexemes = .ok after ->
    run dialect total reader (text ++ rest) = run dialect total after rest

theorem run_space {c : Char} (space : isSpace c = true) (dialect : Dialect τ) (total : Nat)
    (reader : Reader τ) (rest : List Char) :
    run dialect total reader (c :: rest) = run dialect total reader rest := by
  rw [run, if_pos space]

theorem run_blank {blanks : List Char} (blank : ∀ c ∈ blanks, isSpace c = true)
    (dialect : Dialect τ) (total : Nat) (reader : Reader τ) :
    run dialect total reader blanks = run dialect total reader [] := by
  induction blanks with
  | nil => rfl
  | cons c rest ih =>
      rw [run_space (blank c (by simp))]
      exact ih fun other member => blank other (List.mem_cons_of_mem _ member)

/-- The reader takes the first of the lexemes it is to be fed from the front of the text. -/
theorem run_of_feed {c : Char} (ink : isSpace c = false) (total : Nat) {reader after : Reader τ}
    {found : Lexeme τ} {lexemes : List (Lexeme τ)} {rest later : List Char}
    (read : lexeme dialect c rest = (found, later))
    (fed : feed dialect.maxDepth reader (found :: lexemes) = .ok after) :
    ∃ middle, feed dialect.maxDepth middle lexemes = .ok after ∧
      run dialect total reader (c :: rest) = run dialect total middle later := by
  rw [feed, List.foldlM_cons] at fed
  cases taken : reader.advance dialect.maxDepth found with
  | error obstacle =>
      rw [taken] at fed
      cases fed
  | ok middle =>
      rw [taken] at fed
      refine ⟨middle, fed, ?_⟩
      rw [run, if_neg (by simp [ink]), read, taken]

theorem exists_of_feed_append {maxDepth : Option Nat} {reader after : Reader τ}
    {first second : List (Lexeme τ)} (fed : feed maxDepth reader (first ++ second) = .ok after) :
    ∃ middle, feed maxDepth reader first = .ok middle ∧ feed maxDepth middle second = .ok after := by
  cases ended : feed maxDepth reader first with
  | error obstacle =>
      rw [feed] at ended
      rw [feed, List.foldlM_append, ended] at fed
      cases fed
  | ok middle => exact ⟨middle, rfl, (Reader.feed_append ended second).symm.trans fed⟩

theorem spells_nil : Spells dialect [] [] := by
  intro total reader after rest _ fed
  cases fed
  rfl

theorem Spells.space {text : List Char} {lexemes : List (Lexeme τ)}
    (spells : Spells dialect text lexemes) {c : Char} (space : isSpace c = true) :
    Spells dialect (c :: text) lexemes := by
  intro total reader after rest ends fed
  rw [List.cons_append, run_space space]
  exact spells total reader after rest ends fed

theorem Spells.append {first second : List Char} {one other : List (Lexeme τ)}
    (here : Spells dialect first one) (there : Spells dialect second other)
    (apart : endsNumber second = true) : Spells dialect (first ++ second) (one ++ other) := by
  intro total reader after rest ends fed
  obtain ⟨middle, fedFirst, fedSecond⟩ := exists_of_feed_append fed
  rw [List.append_assoc,
    here total reader middle (second ++ rest) (endsNumber_append apart ends) fedFirst,
    there total middle after rest ends fedSecond]

theorem spells_lexeme {c : Char} {tail : List Char} {found : Lexeme τ} (ink : isSpace c = false)
    (reads : ∀ rest, endsNumber rest = true -> lexeme dialect c (tail ++ rest) = (found, rest)) :
    Spells dialect (c :: tail) [found] := by
  intro total reader after rest ends fed
  obtain ⟨middle, done, ran⟩ := run_of_feed ink total (reads rest ends) fed
  cases done
  exact ran

theorem Spells.afterMark {text : List Char} {lexemes : List (Lexeme τ)}
    (spells : Spells dialect text lexemes) {c : Char} {found : Lexeme τ}
    (mark : IsMark dialect c found) : Spells dialect (c :: text) (found :: lexemes) := by
  intro total reader after rest ends fed
  obtain ⟨middle, fedRest, ran⟩ := run_of_feed mark.ink total (mark.reads (text ++ rest)) fed
  rw [List.cons_append, ran]
  exact spells total middle after rest ends fedRest

theorem IsMark.spells {c : Char} {found : Lexeme τ} (mark : IsMark dialect c found) :
    Spells dialect [c] [found] :=
  spells_nil.afterMark mark

/-! ## Single lexemes -/

theorem spells_null : Spells dialect "null".toList [.scalar .null] :=
  spells_lexeme (by decide) fun _ _ => rfl

theorem spells_bool (flag : Bool) :
    Spells dialect (if flag then "true" else "false").toList [.scalar (.bool flag)] := by
  cases flag with
  | true => exact spells_lexeme (by decide) fun _ _ => rfl
  | false => exact spells_lexeme (by decide) fun _ _ => rfl

theorem spells_text {α : Type} {write : α -> List Char} {points : α -> List Point}
    (faithful : IsFaithful write points) {text : List α} {content : τ}
    (known : dialect.text? (.ofPoints (text.flatMap points)) = some content) :
    Spells dialect (enclose write text) [.text content] := by
  refine spells_lexeme (by decide) fun rest _ => ?_
  rw [List.append_assoc, List.singleton_append]
  exact lexeme_enclose faithful known rest

theorem spells_int {n : Int} (admitted : dialect.admits n = true) :
    Spells dialect (Numeral.writeInt n) [.scalar (.int n)] := by
  obtain ⟨c, tail, written, ink, reads⟩ :=
    exists_lexeme_writeInt fun rest ends => scanSigned_writeInt admitted ends
  rw [written]
  exact spells_lexeme ink reads

/-! ## Lists and maps on lines of their own -/

theorem Spells.onLine {text : List Char} {lexemes : List (Lexeme τ)}
    (spells : Spells dialect text lexemes) (level : Nat) :
    Spells dialect (lineStart level ++ text) lexemes := by
  have spaced : ∀ width : Nat, Spells dialect (List.replicate width ' ' ++ text) lexemes := by
    intro width
    induction width with
    | zero => exact spells
    | succ width ih => exact ih.space (by decide)
  exact (spaced (2 * level)).space (by decide)

theorem spells_further {parts : List (List Char)} {found : List (List (Lexeme τ))}
    (spelled : List.Forall₂ (Spells dialect) parts found) :
    Spells dialect (parts.flatMap fun part => [','] ++ part)
        (found.flatMap fun part => [.mark .comma] ++ part) ∧
      endsNumber (parts.flatMap fun part => [','] ++ part) = true := by
  induction spelled with
  | nil => exact ⟨spells_nil, rfl⟩
  | cons first rest ih =>
      rw [List.flatMap_cons, List.flatMap_cons]
      exact ⟨(first.append ih.1 ih.2).afterMark isMark_comma, rfl⟩

theorem spells_indentBlock {opening closing : Char} {openMark closeMark : Lexeme τ}
    (opens : IsMark dialect opening openMark) (closes : IsMark dialect closing closeMark)
    (level : Nat) {parts : List (List Char)} {found : List (List (Lexeme τ))}
    (spelled : List.Forall₂ (Spells dialect) parts found) :
    Spells dialect (indentBlock level opening closing parts)
      (openMark :: (separated found ++ [closeMark])) := by
  have lines : List.Forall₂ (Spells dialect)
      (parts.map fun part => lineStart (level + 1) ++ part) found := by
    rw [List.forall₂_map_left_iff]
    exact spelled.imp fun part lexemes spells => spells.onLine (level + 1)
  have last : Spells dialect (lineStart level ++ [closing]) [closeMark] := closes.spells.onLine level
  cases spelled with
  | nil => exact closes.spells.afterMark opens
  | cons first rest =>
      rename_i part lexemes others more
      obtain ⟨firstLine, restLines⟩ := List.forall₂_cons.mp lines
      obtain ⟨further, apart⟩ := spells_further restLines
      have all := (firstLine.append further apart).append last rfl
      rw [indentBlock, separated, flatten_intersperse_cons, List.map_cons,
        flatten_intersperse_cons]
      simpa using all.afterMark opens

end Spelling

/-! ## Documents -/

theorem spells_indentedScalar {content : Scalar}
    (plain : (Document.scalar content).isPlain Dialect.loose = true) :
    ∃ text, indentedScalar? content = some text ∧ Spells .loose text [.scalar content] := by
  cases content with
  | null => exact ⟨_, rfl, spells_null⟩
  | bool flag => exact ⟨_, rfl, spells_bool flag⟩
  | int n =>
      rw [Document.isPlain] at plain
      exact ⟨_, Numeral.writeInt?_of_short (Dialect.isTooLong_of_admits plain), spells_int plain⟩
  | real x =>
      rw [Document.isPlain] at plain
      cases plain

theorem spells_indentedText (text : JoinedText) :
    Spells .loose (enclose asciiPoint text.points) [.text text] :=
  spells_text isFaithful_asciiPoint (congrArg some text.ofPoints_split)

mutual

/-- A plain document can be written into a file, and what is written spells its lexemes. -/
theorem spells_indented : ∀ (document : Document JoinedText) (level : Nat),
    document.isPlain Dialect.loose = true ->
    ∃ text, indented? level document = some text ∧ Spells .loose text (lexemes document)
  | .scalar content, _, plain => spells_indentedScalar plain
  | .text content, _, _ => ⟨_, rfl, spells_indentedText content⟩
  | .list items, level, plain => by
      rw [Document.isPlain] at plain
      obtain ⟨parts, written, spelled⟩ := spells_indentedItems items (level + 1) plain
      refine ⟨indentBlock level '[' ']' parts, ?_,
        spells_indentBlock isMark_openList isMark_closeList level spelled⟩
      rw [indented?, written, Option.map_some]
  | .map fields, level, plain => by
      rw [Document.isPlain, Bool.and_eq_true] at plain
      obtain ⟨parts, written, spelled⟩ := spells_indentedFields fields (level + 1) plain.2
      refine ⟨indentBlock level '\x7b' '\x7d' parts, ?_,
        spells_indentBlock isMark_openMap isMark_closeMap level spelled⟩
      rw [indented?, written, Option.map_some]
termination_by structural document => document

theorem spells_indentedItems : ∀ (items : List (Document JoinedText)) (level : Nat),
    Document.arePlain Dialect.loose items = true ->
    ∃ parts, indentedItems? level items = some parts ∧
      List.Forall₂ (Spells .loose) parts (itemLexemes items)
  | [], _, _ => ⟨[], rfl, .nil⟩
  | item :: rest, level, plain => by
      rw [Document.arePlain, Bool.and_eq_true] at plain
      obtain ⟨first, here, spells⟩ := spells_indented item level plain.1
      obtain ⟨more, there, spelled⟩ := spells_indentedItems rest level plain.2
      refine ⟨first :: more, ?_, .cons spells spelled⟩
      rw [indentedItems?, here, there]
      rfl
termination_by structural items => items

theorem spells_indentedFields : ∀ (fields : List (JoinedText × Document JoinedText)) (level : Nat),
    Document.havePlain Dialect.loose fields = true ->
    ∃ parts, indentedFields? level fields = some parts ∧
      List.Forall₂ (Spells .loose) parts (fieldLexemes fields)
  | [], _, _ => ⟨[], rfl, .nil⟩
  | (key, item) :: rest, level, plain => by
      rw [Document.havePlain, Bool.and_eq_true] at plain
      obtain ⟨first, here, spells⟩ := spells_indented item level plain.1
      obtain ⟨more, there, spelled⟩ := spells_indentedFields rest level plain.2
      have spaced : Spells .loose (' ' :: first) (lexemes item) := spells.space (by decide)
      have named := (spells_indentedText key).append (spaced.afterMark isMark_colon) rfl
      refine ⟨(enclose asciiPoint key.points ++ [':', ' '] ++ first) :: more, ?_,
        .cons ?_ spelled⟩
      · rw [indentedFields?, here, there]
        rfl
      · simpa using named
termination_by structural fields => fields

end

/-- A text that spells the lexemes of a plain document is read as it, with or without blanks
behind. -/
theorem parse_of_spells [DecidableEq τ] [Inhabited τ] {document : Document τ} {text : List Char}
    (spells : Spells dialect text (lexemes document)) (plain : document.isPlain dialect = true)
    (shallow : ∀ limit, dialect.maxDepth = some limit -> document.height ≤ limit) {blanks : String}
    (blank : ∀ c ∈ blanks.toList, isSpace c = true) :
    parse dialect (String.ofList text ++ blanks) = .ok document := by
  have fed : feed dialect.maxDepth .start (lexemes document) = .ok (Reader.plug document []) :=
    Reader.feed_lexemes document [] plain fun limit bounded => by
      simpa using shallow limit bounded
  rw [parse, String.toList_append, String.toList_ofList]
  show run dialect (text ++ blanks.toList).length .start (text ++ blanks.toList) = _
  rw [spells _ .start (Reader.plug document []) _ (endsNumber_of_blank blank) fed,
    run_blank blank, Reader.plug, run]

/-- A plain document can be written into a file and is read from it again. -/
theorem exists_writeFile? {document : Document JoinedText}
    (plain : document.isPlain Dialect.loose = true) :
    ∃ text, writeFile? document = some text ∧ parse .loose text = .ok document := by
  obtain ⟨chars, written, spells⟩ := spells_indented document 0 plain
  have whole : String.ofList chars ++ "" = String.ofList chars := String.append_empty
  refine ⟨String.ofList chars, by rw [writeFile?, written, Option.map_some], ?_⟩
  rw [← whole]
  exact parse_of_spells spells plain (fun _ unlimited => by cases unlimited) (by simp)

end PairedContacts.Json
