import PairedContacts.Proofs.Json.Integers
import PairedContacts.Proofs.Json.Wire

/-!
# Integers that are too long

A document with an integer that the dialect has no room for can be written on the wire, but it is
refused there, however deep the integer stands, if nothing before it is at fault.
-/

set_option autoImplicit false

namespace PairedContacts

namespace Value

/-- A value with an integer that is too long for a dialect; all that is written before it can be
read. -/
inductive IsOverlong {τ : Type} (dialect : Json.Dialect τ) : Value -> Prop where
  | int {n : Int} (long : dialect.admits n = false) : IsOverlong dialect (.int n)
  | item {before after : List Value} {item : Value} (plain : arePlain dialect before = true)
      (overlong : IsOverlong dialect item) : IsOverlong dialect (.list (before ++ item :: after))
  | field {before after : List (String × Value)} {key : String} {value : Value}
      (plain : havePlain dialect before = true) (overlong : IsOverlong dialect value) :
      IsOverlong dialect (.map (before ++ (key, value) :: after))

end Value

namespace Json

open Reader (HasRoom)

variable {τ : Type} {dialect : Dialect τ} {embed : String -> τ}

theorem height_lt_list {items : List Value} {item : Value} (member : item ∈ items) :
    (Document.ofValue embed item).height < (Document.ofValue embed (.list items)).height := by
  show _ < Document.heightOfItems (Document.ofItems embed items)
  induction items with
  | nil => cases member
  | cons first rest ih =>
      rcases List.mem_cons.mp member with rfl | later
      · exact Nat.lt_of_lt_of_le (Nat.lt_succ_self _) (Nat.le_max_left _ _)
      · exact Nat.lt_of_lt_of_le (ih later) (Nat.le_max_right _ _)

theorem height_lt_map {fields : List (String × Value)} {field : String × Value}
    (member : field ∈ fields) :
    (Document.ofValue embed field.2).height < (Document.ofValue embed (.map fields)).height := by
  show _ < Document.heightOfFields (Document.ofFields embed fields)
  induction fields with
  | nil => cases member
  | cons first rest ih =>
      rcases List.mem_cons.mp member with rfl | later
      · exact Nat.lt_of_lt_of_le (Nat.lt_succ_self _) (Nat.le_max_left _ _)
      · exact Nat.lt_of_lt_of_le (ih later) (Nat.le_max_right _ _)

/-! ## The digits -/

theorem lt_length_toDigits {n few : Nat} (long : tenTo few ≤ n) :
    few < (Nat.toDigits 10 n).length := by
  by_contra short
  have decimal := decimal_of_digits fun c member => isDigit_of_mem_toDigits (n := n) member
  have below := Numeral.valueOf_lt decimal
  rw [Numeral.valueOf_toDigits, List.length_map] at below
  have bounded := Numeral.tenTo_le (Nat.not_lt.mp short)
  omega

theorem scanNumber_long {negative : Bool} {n : Nat} (long : tenTo (dialect.room negative) ≤ n)
    {rest : List Char} (ends : endsNumber rest = true) :
    scanNumber dialect negative (Nat.toDigits 10 n ++ rest) =
      some (.longInt (Nat.toDigits 10 n).length, rest) := by
  rw [scanNumber, scanWhole_toDigits n ends]
  simp only [Option.bind_eq_bind, Option.bind_some, scanFraction_of_ends ends,
    scanExponent_of_ends ends]
  rw [if_pos ⟨rfl, rfl⟩, if_pos (lt_length_toDigits long)]

/-! ## The reader in front of the integer -/

/-- A reader that takes a value next. -/
inductive Awaits : Reader τ -> Prop where
  | value (stack : List (Frame τ)) : Awaits ⟨stack, .value⟩
  | firstItem (stack : List (Frame τ)) (done : List (Document τ)) :
      Awaits ⟨.list done :: stack, .firstItem⟩

variable [DecidableEq τ] [Inhabited τ]

/-- A reader that takes this value on the wire meets an integer that is too long. -/
def Refuses (dialect : Dialect τ) (embed : String -> τ) (value : Value) : Prop :=
  ∀ {reader : Reader τ}, Awaits reader ->
    HasRoom dialect.maxDepth reader.stack (Document.ofValue embed value).height ->
    ∀ (total : Nat) {rest : List Char}, endsNumber rest = true ->
    ∃ digits, run dialect total reader (wire value ++ rest) = .error (.longInt digits)

theorem Awaits.feed_lexemes {reader : Reader τ} (awaits : Awaits reader)
    {document : Document τ} (plain : document.isPlain dialect = true)
    (room : HasRoom dialect.maxDepth reader.stack document.height) :
    Reader.feed dialect.maxDepth reader (lexemes document) =
      .ok (Reader.plug document reader.stack) := by
  cases awaits with
  | value stack => exact Reader.feed_lexemes _ stack plain room
  | firstItem stack done =>
      rw [← List.append_nil (lexemes _), Reader.feed_firstItem room, List.append_nil]
      exact Reader.feed_lexemes _ _ plain room

theorem run_mark {c : Char} {found : Lexeme τ} (mark : IsMark dialect c found)
    {reader after : Reader τ} (taken : reader.advance dialect.maxDepth found = .ok after)
    (total : Nat) (text : List Char) :
    run dialect total reader (c :: text) = run dialect total after text := by
  rw [run, if_neg (by simp [mark.ink]), mark.reads, taken]

theorem Awaits.run_wire {reader : Reader τ} (awaits : Awaits reader)
    (reads : dialect.Reads embed) {value : Value} (plain : value.isPlain dialect = true)
    (room : HasRoom dialect.maxDepth reader.stack (Document.ofValue embed value).height)
    (total : Nat) {text : List Char} (ends : endsNumber text = true) :
    run dialect total reader (wire value ++ text) =
      run dialect total (Reader.plug (Document.ofValue embed value) reader.stack) text :=
  spells_wire reads value plain total reader _ text ends
    (awaits.feed_lexemes (isPlain_ofValue reads value plain) room)

/-- Where a value may come, a list or a map may be opened. -/
theorem Awaits.advance_open {reader : Reader τ} (awaits : Awaits reader) {height : Nat}
    (room : HasRoom dialect.maxDepth reader.stack height) :
    reader.advance dialect.maxDepth (.mark .openList) =
        .ok ⟨.list [] :: reader.stack, .firstItem⟩ ∧
      reader.advance dialect.maxDepth (.mark .openMap) =
        .ok ⟨.map [] default :: reader.stack, .firstKey⟩ := by
  cases awaits <;>
    exact ⟨Reader.advance_of_step (Reader.isTooDeep_of_hasRoom room _ _) rfl rfl,
      Reader.advance_of_step (Reader.isTooDeep_of_hasRoom room _ _) rfl rfl⟩

theorem refuses_int {n : Int} (long : dialect.admits n = false) :
    Refuses dialect embed (.int n) := by
  have beyond : tenTo (dialect.room (decide (n < 0))) ≤ n.natAbs := by
    rw [Dialect.admits, decide_eq_false_iff_not] at long
    exact Nat.not_lt.mp long
  obtain ⟨c, tail, written, ink, reads⟩ := exists_lexeme_writeInt fun rest ends =>
    scanSigned_of_scanNumber (scanNumber_long beyond ends)
  intro reader awaits room total rest ends
  refine ⟨(Nat.toDigits 10 n.natAbs).length, ?_⟩
  have refused : reader.advance dialect.maxDepth (.longInt (Nat.toDigits 10 n.natAbs).length) =
      .error (.longInt (Nat.toDigits 10 n.natAbs).length) := by
    cases awaits <;>
      · rw [Reader.advance, Reader.isTooDeep_of_hasRoom room]
        rfl
  rw [wire, written, List.cons_append, run, if_neg (by simp [ink]), reads rest ends, refused]
  rfl

/-! ## Lists and maps around the integer -/

theorem wireItems_append (before after : List Value) :
    wireItems (before ++ after) = wireItems before ++ wireItems after := by
  induction before with
  | nil => rfl
  | cons item rest ih => rw [List.cons_append, wireItems, wireItems, ih, List.cons_append]

theorem wireFields_append (before after : List (String × Value)) :
    wireFields (before ++ after) = wireFields before ++ wireFields after := by
  induction before with
  | nil => rfl
  | cons field rest ih => rw [List.cons_append, wireFields, wireFields, ih, List.cons_append]

theorem commas_append (before after : List (List Char)) (part : List Char) :
    commas (before ++ part :: after) =
      (before.flatMap fun part => part ++ [',']) ++
        (part ++ after.flatMap fun part => [','] ++ part) := by
  induction before with
  | nil => exact flatten_intersperse_cons part after [',']
  | cons first rest ih =>
      have more : commas (first :: (rest ++ part :: after)) =
          first ++ [','] ++ commas (rest ++ part :: after) := by
        cases rest with
        | nil => simp [commas]
        | cons second others => simp [commas]
      rw [List.cons_append, more, ih, List.flatMap_cons, List.append_assoc (first ++ [','])]

theorem endsNumber_further (parts : List (List Char)) (closing : Char)
    (apart : endsNumber [closing] = true) (rest : List Char) :
    endsNumber ((parts.flatMap fun part => [','] ++ part) ++ closing :: rest) = true := by
  cases parts with
  | nil => exact apart
  | cons part others => rfl

theorem exists_run_items (reads : dialect.Reads embed) {before : List Value}
    (plain : Value.arePlain dialect before = true) {stack : List (Frame τ)}
    (room : ∀ item ∈ before,
      HasRoom dialect.maxDepth stack ((Document.ofValue embed item).height + 1))
    {done : List (Document τ)} {mode : Mode τ}
    (awaits : Awaits ⟨.list done :: stack, mode⟩) (total : Nat) (text : List Char) :
    ∃ filled moved, Awaits ⟨.list filled :: stack, moved⟩ ∧
      run dialect total ⟨.list done :: stack, mode⟩
        (((wireItems before).flatMap fun part => part ++ [',']) ++ text) =
          run dialect total ⟨.list filled :: stack, moved⟩ text := by
  induction before generalizing done mode with
  | nil => exact ⟨_, _, awaits, rfl⟩
  | cons item rest ih =>
      rw [Value.arePlain, Bool.and_eq_true] at plain
      rw [List.forall_mem_cons] at room
      obtain ⟨filled, moved, later, ran⟩ :=
        ih plain.2 room.2 (.value (.list (done ++ [.ofValue embed item]) :: stack))
      refine ⟨filled, moved, later, ?_⟩
      rw [wireItems, List.flatMap_cons, List.append_assoc, List.append_assoc,
        awaits.run_wire reads plain.1 (room.1.push _) total rfl, ← ran]
      exact run_mark isMark_comma (Reader.advance_of_step (Reader.isTooDeep_of_later rfl _) rfl rfl)
        total _

/-- A reader that takes a key of a map next. -/
inductive AwaitsKey (stack : List (Frame τ)) : Reader τ -> Prop where
  | first (done : KeyedList τ (Document τ)) (old : τ) :
      AwaitsKey stack ⟨.map done old :: stack, .firstKey⟩
  | later (done : KeyedList τ (Document τ)) (old : τ) :
      AwaitsKey stack ⟨.map done old :: stack, .key⟩

variable {stack : List (Frame τ)}

theorem AwaitsKey.exists_run_key {reader : Reader τ} (awaits : AwaitsKey stack reader)
    (reads : dialect.Reads embed) {height : Nat} (room : HasRoom dialect.maxDepth stack (height + 1))
    (key : String) (total : Nat) (text : List Char) :
    ∃ done,
      run dialect total reader (enclose wireChar key.toList ++ ':' :: text) =
        run dialect total ⟨.map done (embed key) :: stack, .value⟩ text := by
  obtain ⟨done, taken⟩ : ∃ done, reader.advance dialect.maxDepth (.text (embed key)) =
      .ok ⟨.map done (embed key) :: stack, .colon⟩ := by
    cases awaits with
    | first done old =>
        exact ⟨done, Reader.advance_of_step
          (Reader.isTooDeep_of_hasRoom (room.push (.map done old)) _ _) rfl rfl⟩
    | later done old =>
        exact ⟨done, Reader.advance_of_step (Reader.isTooDeep_of_later rfl _) rfl rfl⟩
  refine ⟨done, ?_⟩
  rw [spells_wireText reads key total _ _ _ rfl (Reader.feed_cons taken [])]
  exact run_mark isMark_colon (Reader.advance_of_step (Reader.isTooDeep_of_later rfl _) rfl rfl)
    total text

theorem exists_run_fields (reads : dialect.Reads embed) {before : List (String × Value)}
    (plain : Value.havePlain dialect before = true)
    (room : ∀ field ∈ before,
      HasRoom dialect.maxDepth stack ((Document.ofValue embed field.2).height + 1))
    {reader : Reader τ} (awaits : AwaitsKey stack reader) (total : Nat) (text : List Char) :
    ∃ after, AwaitsKey stack after ∧
      run dialect total reader (((wireFields before).flatMap fun part => part ++ [',']) ++ text) =
        run dialect total after text := by
  induction before generalizing reader with
  | nil => exact ⟨reader, awaits, rfl⟩
  | cons field rest ih =>
      obtain ⟨key, value⟩ := field
      rw [Value.havePlain, Bool.and_eq_true] at plain
      rw [List.forall_mem_cons] at room
      let others := ((wireFields rest).flatMap fun part => part ++ [',']) ++ text
      obtain ⟨done, named⟩ :=
        awaits.exists_run_key reads room.1 key total (wire value ++ ',' :: others)
      obtain ⟨after, later, ran⟩ := ih plain.2 room.2 (.later (done.put (embed key) (.ofValue embed value)) (embed key))
      refine ⟨after, later, ?_⟩
      have here : ((wireFields ((key, value) :: rest)).flatMap fun part => part ++ [',']) ++ text =
          enclose wireChar key.toList ++ ':' :: (wire value ++ ',' :: others) := by
        simp [wireFields, others]
      rw [here, named, (Awaits.value _).run_wire reads plain.1 (room.1.push _) total rfl, ← ran]
      exact run_mark isMark_comma (Reader.advance_of_step (Reader.isTooDeep_of_later rfl _) rfl rfl)
        total others

theorem refuses_list (reads : dialect.Reads embed) {before after : List Value} {item : Value}
    (plain : Value.arePlain dialect before = true) (refuses : Refuses dialect embed item) :
    Refuses dialect embed (.list (before ++ item :: after)) := by
  intro reader awaits room total rest ends
  have inside (other : Value) (member : other ∈ before ++ item :: after) :
      HasRoom dialect.maxDepth reader.stack ((Document.ofValue embed other).height + 1) :=
    room.mono (height_lt_list member)
  let behind := ((wireItems after).flatMap fun part => [','] ++ part) ++ ']' :: rest
  have whole : wire (.list (before ++ item :: after)) ++ rest =
      '[' :: (((wireItems before).flatMap fun part => part ++ [',']) ++ (wire item ++ behind)) := by
    rw [wire, wireItems_append, wireItems, commas_append]
    simp [behind]
  obtain ⟨filled, moved, later, ran⟩ := exists_run_items reads plain
    (fun other member => inside other (List.mem_append_left _ member))
    (.firstItem reader.stack []) total (wire item ++ behind)
  obtain ⟨digits, refused⟩ := refuses later ((inside item (by simp)).push _) total
    (endsNumber_further (wireItems after) ']' rfl rest)
  exact ⟨digits, by rw [whole, run_mark isMark_openList (awaits.advance_open room).1, ran, refused]⟩

theorem refuses_map (reads : dialect.Reads embed) {before after : List (String × Value)} {key : String}
    {value : Value} (plain : Value.havePlain dialect before = true)
    (refuses : Refuses dialect embed value) :
    Refuses dialect embed (.map (before ++ (key, value) :: after)) := by
  intro reader awaits room total rest ends
  have inside (field : String × Value) (member : field ∈ before ++ (key, value) :: after) :
      HasRoom dialect.maxDepth reader.stack ((Document.ofValue embed field.2).height + 1) :=
    room.mono (height_lt_map member)
  have here := inside (key, value) (by simp)
  let behind := ((wireFields after).flatMap fun part => [','] ++ part) ++ '\x7d' :: rest
  have whole : wire (.map (before ++ (key, value) :: after)) ++ rest =
      '\x7b' :: (((wireFields before).flatMap fun part => part ++ [',']) ++
        (enclose wireChar key.toList ++ ':' :: (wire value ++ behind))) := by
    rw [wire, wireFields_append, wireFields, commas_append]
    simp [behind]
  obtain ⟨named, later, ran⟩ := exists_run_fields reads plain
    (fun field member => inside field (List.mem_append_left _ member))
    (.first [] default) total (enclose wireChar key.toList ++ ':' :: (wire value ++ behind))
  obtain ⟨done, keyed⟩ := later.exists_run_key reads here key total (wire value ++ behind)
  obtain ⟨digits, refused⟩ := refuses (.value _) (here.push _) total
    (endsNumber_further (wireFields after) '\x7d' rfl rest)
  refine ⟨digits, ?_⟩
  rw [whole, run_mark isMark_openMap (awaits.advance_open room).2, ran, keyed, refused]

/-- A reader that takes a value refuses one with an integer that is too long. -/
theorem refuses_wire (reads : dialect.Reads embed) {value : Value}
    (overlong : value.IsOverlong dialect) : Refuses dialect embed value := by
  induction overlong with
  | int long => exact refuses_int long
  | item plain _ ih => exact refuses_list reads plain ih
  | field plain _ ih => exact refuses_map reads plain ih

/-- A document with an integer that is too long is refused for it, if it nests no deeper than the
reader goes. -/
theorem exists_parse_overlong (reads : dialect.Reads embed) {value : Value}
    (overlong : value.IsOverlong dialect)
    (shallow : ∀ limit, dialect.maxDepth = some limit ->
      (Document.ofValue embed value).height ≤ limit) (blanks : String)
    (blank : ∀ c ∈ blanks.toList, isSpace c = true) :
    ∃ digits, parse dialect (writeWire value ++ blanks) = .error (.longInt digits) := by
  have room : HasRoom dialect.maxDepth (Reader.start : Reader τ).stack
      (Document.ofValue embed value).height := by
    intro limit bounded
    simpa [Reader.start] using shallow limit bounded
  obtain ⟨digits, refused⟩ := refuses_wire reads overlong (.value []) room
    (wire value ++ blanks.toList).length (endsNumber_of_blank blank)
  refine ⟨digits, ?_⟩
  rw [parse, writeWire, String.toList_append, String.toList_ofList]
  exact refused

theorem exists_read_overlong {dialect : Dialect String} (reads : dialect.Reads id) {value : Value}
    (overlong : value.IsOverlong dialect)
    (shallow : ∀ limit, dialect.maxDepth = some limit -> value.height ≤ limit) (blanks : String)
    (blank : ∀ c ∈ blanks.toList, isSpace c = true) :
    ∃ digits, read dialect (writeWire value ++ blanks) = .error (.longInt digits) := by
  obtain ⟨digits, refused⟩ := exists_parse_overlong reads overlong shallow blanks blank
  exact ⟨digits, by rw [read, refused, Except.map]⟩

end Json

end PairedContacts
