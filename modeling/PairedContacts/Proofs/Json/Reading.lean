import PairedContacts.Proofs.Json.Reader

/-!
# What can be read

A document that is read is a text, a word, a real, an integer that the dialect has room for, or a
list or a map that was filled with such documents one after another.  So what is true of the single
ones and of empty lists and maps, and stays true as they are filled, is true of every document that
is read.
-/

set_option autoImplicit false

namespace PairedContacts.Json

variable {τ : Type} {dialect : Dialect τ}

/-! ## Scalars of lexemes -/

/-- Whether a dialect has room for a scalar. -/
def Scalar.isAdmitted (dialect : Dialect τ) : Scalar -> Bool
  | .int n => dialect.admits n
  | _ => true

theorem decimal_of_digits {digits : List Char} (all : ∀ c ∈ digits, isDigit c = true) :
    ∀ digit ∈ digits.map (fun c => c.toNat - 0x30), digit < 10 := by
  intro digit member
  obtain ⟨c, here, rfl⟩ := List.mem_map.mp member
  have digit := all c here
  simp only [isDigit, Bool.and_eq_true, decide_eq_true_eq, Char.le_def] at digit
  have most : c.toNat ≤ 0x39 := digit.2
  omega

theorem digits_of_scanWhole {text digits rest : List Char}
    (scanned : scanWhole text = some (digits, rest)) : ∀ c ∈ digits, isDigit c = true := by
  rw [scanWhole.eq_def] at scanned
  split at scanned
  · cases scanned
    simp [isDigit]
  · rename_i c rest
    split at scanned
    · rename_i digit
      cases scanned
      rw [List.forall_mem_cons]
      exact ⟨digit, fun d member => List.all_eq_true.mp List.all_takeWhile d member⟩
    · cases scanned
  · cases scanned

theorem Dialect.room_le_room_false (dialect : Dialect τ) (negative : Bool) :
    dialect.room negative ≤ dialect.room false := by
  have whole : dialect.room false = Numeral.maxDigits := rfl
  rw [whole]
  exact dialect.room_le negative

theorem admits_of_digits {negative : Bool} {digits : List Char}
    (all : ∀ c ∈ digits, isDigit c = true) (enough : digits.length ≤ dialect.room negative) :
    dialect.admits (if negative then -(digitsOf digits : Int) else digitsOf digits) = true := by
  have below := Numeral.valueOf_lt (decimal_of_digits all)
  rw [List.length_map] at below
  have bounded : digitsOf digits < tenTo (dialect.room negative) :=
    Nat.lt_of_lt_of_le below (Numeral.tenTo_le enough)
  -- A minus sign in front of nothing but zeros leaves the integer without one.
  have wider : tenTo (dialect.room negative) ≤ tenTo (dialect.room false) :=
    Numeral.tenTo_le (dialect.room_le_room_false negative)
  rw [Dialect.admits_iff]
  cases negative with
  | false =>
      have sign : ¬(digitsOf digits : Int) < 0 := by omega
      simpa [sign] using bounded
  | true =>
      by_cases zero : digitsOf digits = 0
      · simp only [zero] at bounded ⊢
        exact Nat.lt_of_lt_of_le bounded wider
      · have sign : decide (-(digitsOf digits : Int) < 0) = true := decide_eq_true (by omega)
        rw [if_pos rfl, sign, Int.natAbs_neg]
        exact bounded

theorem isAdmitted_of_scanNumber {negative : Bool} {text rest : List Char} {content : Scalar}
    (scanned : scanNumber dialect negative text = some (.scalar content, rest)) :
    content.isAdmitted dialect = true := by
  rw [scanNumber] at scanned
  cases whole : scanWhole text with
  | none =>
      rw [whole] at scanned
      cases scanned
  | some pair =>
      obtain ⟨digits, after⟩ := pair
      rw [whole] at scanned
      simp only [Option.bind_eq_bind, Option.bind_some] at scanned
      split at scanned
      · split at scanned
        · cases scanned
        · rename_i enough
          cases scanned
          exact admits_of_digits (digits_of_scanWhole whole) (Nat.not_lt.mp enough)
      · cases scanned
        rfl

theorem isAdmitted_of_scanSigned {text rest : List Char} {content : Scalar}
    (scanned : scanSigned dialect text = some (.scalar content, rest)) :
    content.isAdmitted dialect = true := by
  rw [scanSigned.eq_def] at scanned
  split at scanned
  · exact isAdmitted_of_scanNumber scanned
  · exact isAdmitted_of_scanNumber scanned

theorem isAdmitted_of_scanWord {text rest : List Char} {content : Scalar}
    (scanned : (scanWord text : Option (Lexeme τ × List Char)) = some (.scalar content, rest)) :
    content.isAdmitted dialect = true := by
  obtain ⟨word, member, result⟩ := List.exists_of_findSome?_eq_some scanned
  obtain ⟨after, -, pair⟩ := Option.map_eq_some_iff.mp result
  cases pair
  simp only [words, List.mem_cons, List.not_mem_nil, or_false] at member
  rcases member with rfl | rfl | rfl | rfl | rfl | rfl <;> rfl

theorem isAdmitted_of_lexeme {c : Char} {rest : List Char} {content : Scalar}
    (found : (lexeme dialect c rest).1 = .scalar content) : content.isAdmitted dialect = true := by
  rw [lexeme.eq_def] at found
  split at found
  case h_7 =>
    split at found
    · cases found
    · split at found <;> cases found
  case h_8 =>
    cases word : (scanWord (c :: rest) : Option (Lexeme τ × List Char)) with
    | some pair =>
        obtain ⟨read, after⟩ := pair
        rw [word] at found
        obtain rfl : read = .scalar content := found
        exact isAdmitted_of_scanWord word
    | none =>
        rw [word] at found
        cases number : scanSigned dialect (c :: rest) with
        | some pair =>
            obtain ⟨read, after⟩ := pair
            rw [number] at found
            obtain rfl : read = .scalar content := found
            exact isAdmitted_of_scanSigned number
        | none =>
            rw [number] at found
            cases found
  all_goals cases found

/-! ## Lists and maps -/

/-- The document that an open list or map becomes when it is closed. -/
def Frame.closed : Frame τ -> Document τ
  | .list done => .list done
  | .map done _ => .map done

namespace Reader

/-- Something is true of all that the reader has open, and of what it has read. -/
structure Holds (good : Document τ -> Prop) (reader : Reader τ) : Prop where
  stack : ∀ frame ∈ reader.stack, good frame.closed
  done : ∀ document, reader.mode = .done document -> good document

theorem holds_of_undone {good : Document τ -> Prop} {stack : List (Frame τ)} {mode : Mode τ}
    (inside : ∀ frame ∈ stack, good frame.closed) (undone : ∀ document, mode ≠ .done document) :
    Holds good ⟨stack, mode⟩ :=
  ⟨inside, fun document same => absurd same (undone document)⟩

theorem holds_of_setKey {good : Document τ -> Prop} {stack : List (Frame τ)} {after : Reader τ}
    {key : τ} (inside : ∀ frame ∈ stack, good frame.closed)
    (set : setKey key stack = some after) : after.Holds good := by
  rw [setKey.eq_def] at set
  split at set
  · cases set
    rw [List.forall_mem_cons] at inside
    exact holds_of_undone (List.forall_mem_cons.mpr ⟨inside.1, inside.2⟩) (by simp)
  · cases set

end Reader

variable [DecidableEq τ]

/-- What is true of documents that are lexemes, and of lists and maps as they are filled. -/
structure IsBuilt (dialect : Dialect τ) (good : Document τ -> Prop) : Prop where
  scalar : ∀ {content : Scalar}, content.isAdmitted dialect = true -> good (.scalar content)
  text : ∀ content, good (.text content)
  emptyList : good (.list [])
  item : ∀ {done document}, good (.list done) -> good document ->
    good (.list (done ++ [document]))
  emptyMap : good (.map [])
  field : ∀ {done key document}, good (.map done) -> good document ->
    good (.map (KeyedList.put done key document))

namespace Reader

variable {good : Document τ -> Prop} {stack : List (Frame τ)} {reader after : Reader τ} {c : Char}
  {rest : List Char}

theorem holds_plug (built : IsBuilt dialect good) {document : Document τ} (whole : good document)
    (inside : ∀ frame ∈ stack, good frame.closed) : (plug document stack).Holds good := by
  cases stack with
  | nil =>
      refine ⟨inside, ?_⟩
      rintro other ⟨⟩
      exact whole
  | cons frame stack =>
      rw [List.forall_mem_cons] at inside
      cases frame with
      | list done =>
          have filled : good (.list (done ++ [document])) := built.item inside.1 whole
          exact holds_of_undone (List.forall_mem_cons.mpr ⟨filled, inside.2⟩) (by simp)
      | map done key =>
          have filled : good (.map (done.put key document)) := built.field inside.1 whole
          exact holds_of_undone (List.forall_mem_cons.mpr ⟨filled, inside.2⟩) (by simp)

/-- A list or map that is closed was as it should be while it was open. -/
theorem holds_close (built : IsBuilt dialect good) {top : Frame τ}
    (inside : ∀ frame ∈ top :: stack, good frame.closed) : (plug top.closed stack).Holds good := by
  rw [List.forall_mem_cons] at inside
  exact holds_plug built inside.1 inside.2

variable [Inhabited τ]

theorem holds_of_begin? (built : IsBuilt dialect good)
    (inside : ∀ frame ∈ stack, good frame.closed)
    (begun : begin? stack (lexeme dialect c rest).1 = some after) : after.Holds good := by
  cases found : (lexeme dialect c rest).1 with
  | scalar content =>
      rw [found] at begun
      cases begun
      exact holds_plug built (built.scalar (isAdmitted_of_lexeme found)) inside
  | text content =>
      rw [found] at begun
      cases begun
      exact holds_plug built (built.text content) inside
  | mark p =>
      rw [found] at begun
      cases p with
      | openList =>
          cases begun
          exact holds_of_undone (List.forall_mem_cons.mpr ⟨built.emptyList, inside⟩) (by simp)
      | openMap =>
          cases begun
          exact holds_of_undone (List.forall_mem_cons.mpr ⟨built.emptyMap, inside⟩) (by simp)
      | _ => cases begun
  | _ =>
      rw [found] at begun
      cases begun

theorem Holds.step (holds : reader.Holds good) (built : IsBuilt dialect good)
    (stepped : reader.step (lexeme dialect c rest).1 = some after) : after.Holds good := by
  obtain ⟨stack, mode⟩ := reader
  have inside : ∀ frame ∈ stack, good frame.closed := holds.stack
  generalize found : (lexeme dialect c rest).1 = read at stepped
  -- A value begins, a list or a map is closed, a key is set, or a mark only asks for more.
  rw [Reader.step.eq_def] at stepped
  simp only at stepped
  split at stepped
  case h_1 | h_3 =>
    rw [← found] at stepped
    exact holds_of_begin? built inside stepped
  case h_2 | h_8 =>
    cases stepped
    exact holds_close built inside
  case h_4 | h_10 =>
    cases stepped
    exact holds_close built inside
  case h_5 | h_6 => exact holds_of_setKey inside stepped
  case h_7 | h_9 | h_11 =>
    cases stepped
    exact holds_of_undone inside (by simp)
  case h_12 => cases stepped

theorem Holds.advance {maxDepth : Option Nat} (holds : reader.Holds good)
    (built : IsBuilt dialect good)
    (taken : reader.advance maxDepth (lexeme dialect c rest).1 = .ok after) :
    after.Holds good := by
  rw [Reader.advance.eq_def] at taken
  split at taken
  · cases taken
  · split at taken
    · cases taken
    · cases taken
    · cases stepped : reader.step (lexeme dialect c rest).1 with
      | none =>
          rw [stepped] at taken
          cases taken
      | some next =>
          rw [stepped] at taken
          cases taken
          exact holds.step built stepped

end Reader

section Run

variable [Inhabited τ] {good : Document τ -> Prop} {document : Document τ}

theorem good_of_run (built : IsBuilt dialect good) {total : Nat} {reader : Reader τ}
    {text : List Char} (holds : reader.Holds good)
    (ran : run dialect total reader text = .ok document) : good document := by
  fun_induction run dialect total reader text with
  | case1 reader finished same =>
      cases ran
      exact holds.done _ same
  | case2 => cases ran
  | case3 reader c rest space ih => exact ih holds ran
  | case4 => cases ran
  | case5 reader c rest _ after taken ih => exact ih (holds.advance built taken) ran

/-- What is built up from lexemes is true of every document that was read. -/
theorem good_of_parse (built : IsBuilt dialect good) {text : String}
    (found : parse dialect text = .ok document) : good document :=
  good_of_run built (Reader.holds_of_undone (by simp) (by simp)) found

end Run

/-! ## Keys -/

/-- A document that is no map, or a map in which each key comes once. -/
def IsKeyed : Document τ -> Prop
  | .map fields => (KeyedList.keys fields).Nodup
  | _ => True

theorem isBuilt_isKeyed : IsBuilt dialect IsKeyed where
  scalar _ := trivial
  text _ := trivial
  emptyList := trivial
  item _ _ := trivial
  emptyMap := List.nodup_nil
  field := by
    intro done key document once _
    exact KeyedList.nodup_keys_put once key document

/-- Each key of a map that was read comes once, however often it is written. -/
theorem nodup_keys_of_parse [Inhabited τ] {text : String} {fields : KeyedList τ (Document τ)}
    (found : parse dialect text = .ok (.map fields)) : (KeyedList.keys fields).Nodup := by
  have keyed : IsKeyed (.map fields) := good_of_parse isBuilt_isKeyed found
  exact keyed

end PairedContacts.Json
