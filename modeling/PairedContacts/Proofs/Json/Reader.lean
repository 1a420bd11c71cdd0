import PairedContacts.Json.Reader
import PairedContacts.Proofs.Json.Lexeme
import PairedContacts.Proofs.KeyedList

/-!
# The reader on the lexemes of a document

A document stands for a sequence of lexemes, and the reader takes that sequence to the document
wherever one may come, unless lists and maps are nested too deeply.  Only a map with a key that comes
twice is read as another document.
-/

set_option autoImplicit false

namespace PairedContacts.Json

variable {τ : Type}

namespace Document

section Plain

variable [DecidableEq τ]

mutual

/-- A document that can be written and read again in a dialect: there is room for its integers, the
keys of its maps are distinct, and it has no real numbers. -/
def isPlain (dialect : Dialect τ) : Document τ -> Bool
  | .scalar (.int n) => dialect.admits n
  | .scalar (.real _) => false
  | .scalar _ | .text _ => true
  | .list items => arePlain dialect items
  | .map fields => decide (KeyedList.keys fields).Nodup && havePlain dialect fields

def arePlain (dialect : Dialect τ) : List (Document τ) -> Bool
  | [] => true
  | item :: rest => isPlain dialect item && arePlain dialect rest

def havePlain (dialect : Dialect τ) : List (τ × Document τ) -> Bool
  | [] => true
  | (_, item) :: rest => isPlain dialect item && havePlain dialect rest

end

theorem havePlain_iff {dialect : Dialect τ} {fields : List (τ × Document τ)} :
    havePlain dialect fields = true ↔ ∀ field ∈ fields, field.2.isPlain dialect = true := by
  induction fields with
  | nil => simp [havePlain]
  | cons field rest ih => rw [havePlain, Bool.and_eq_true, ih, List.forall_mem_cons]

end Plain

mutual

/-- How many lists and maps with content a document nests. -/
def height : Document τ -> Nat
  | .list items => heightOfItems items
  | .map fields => heightOfFields fields
  | _ => 0

def heightOfItems : List (Document τ) -> Nat
  | [] => 0
  | item :: rest => max (height item + 1) (heightOfItems rest)

def heightOfFields : List (τ × Document τ) -> Nat
  | [] => 0
  | (_, item) :: rest => max (height item + 1) (heightOfFields rest)

end

end Document

/-! ## The lexemes of a document -/

def separated (parts : List (List (Lexeme τ))) : List (Lexeme τ) :=
  (parts.intersperse [.mark .comma]).flatten

mutual

def lexemes : Document τ -> List (Lexeme τ)
  | .scalar content => [.scalar content]
  | .text content => [.text content]
  | .list items => .mark .openList :: (separated (itemLexemes items) ++ [.mark .closeList])
  | .map fields => .mark .openMap :: (separated (fieldLexemes fields) ++ [.mark .closeMap])

def itemLexemes : List (Document τ) -> List (List (Lexeme τ))
  | [] => []
  | item :: rest => lexemes item :: itemLexemes rest

def fieldLexemes : List (τ × Document τ) -> List (List (Lexeme τ))
  | [] => []
  | (key, item) :: rest => (.text key :: .mark .colon :: lexemes item) :: fieldLexemes rest

end

theorem flatten_intersperse_cons {α : Type} (first : List α) (rest : List (List α)) (sep : List α) :
    ((first :: rest).intersperse sep).flatten = first ++ rest.flatMap fun part => sep ++ part := by
  induction rest generalizing first with
  | nil => simp
  | cons second more ih =>
      rw [List.intersperse_cons_cons, List.flatten_cons, List.flatten_cons, ih, List.flatMap_cons,
        List.append_assoc]

/-- A lexeme that a document without faults can have. -/
def Lexeme.isWhole : Lexeme τ -> Bool
  | .mark _ | .text _ | .scalar _ => true
  | .badText _ | .longInt _ | .stray => false

/-- Whether a mode is that of a list or map that was just opened. -/
def Mode.isFirst : Mode τ -> Bool
  | .firstItem | .firstKey => true
  | _ => false

/-! ## Feeding lexemes -/

namespace Reader

/-- Whether a value can come below a stack of open lists and maps. -/
def HasRoom (maxDepth : Option Nat) (stack : List (Frame τ)) (height : Nat) : Prop :=
  ∀ limit, maxDepth = some limit -> stack.length + height ≤ limit

theorem HasRoom.mono {maxDepth : Option Nat} {stack : List (Frame τ)} {high low : Nat}
    (room : HasRoom maxDepth stack high) (below : low ≤ high) : HasRoom maxDepth stack low := by
  intro limit bounded
  have := room limit bounded
  omega

theorem HasRoom.push {maxDepth : Option Nat} {stack : List (Frame τ)} {height : Nat}
    (room : HasRoom maxDepth stack (height + 1)) (frame : Frame τ) :
    HasRoom maxDepth (frame :: stack) height := by
  intro limit bounded
  have := room limit bounded
  rw [List.length_cons]
  omega

variable {maxDepth : Option Nat}

theorem isTooDeep_of_later {stack : List (Frame τ)} {mode : Mode τ} (later : mode.isFirst = false)
    (lexeme : Lexeme τ) : isTooDeep maxDepth ⟨stack, mode⟩ lexeme = false := by
  cases mode with
  | firstItem => cases later
  | firstKey => cases later
  | _ => cases maxDepth <;> rfl

theorem isTooDeep_of_hasRoom {stack : List (Frame τ)} {height : Nat}
    (room : HasRoom maxDepth stack height) (mode : Mode τ) (lexeme : Lexeme τ) :
    isTooDeep maxDepth ⟨stack, mode⟩ lexeme = false := by
  cases maxDepth with
  | none =>
      rw [isTooDeep.eq_def]
      split <;> simp_all
  | some limit =>
      have bounded := room limit rfl
      have within : ¬limit < stack.length := by omega
      rw [isTooDeep.eq_def]
      split <;> simp_all

variable [DecidableEq τ] [Inhabited τ]

def feed (maxDepth : Option Nat) (reader : Reader τ) (lexemes : List (Lexeme τ)) :
    Except Obstacle (Reader τ) :=
  lexemes.foldlM (advance maxDepth) reader

theorem feed_cons {reader middle : Reader τ} {lexeme : Lexeme τ}
    (taken : reader.advance maxDepth lexeme = .ok middle) (rest : List (Lexeme τ)) :
    feed maxDepth reader (lexeme :: rest) = feed maxDepth middle rest := by
  rw [feed, List.foldlM_cons, taken]
  rfl

theorem feed_append {reader middle : Reader τ} {first : List (Lexeme τ)}
    (fed : feed maxDepth reader first = .ok middle) (second : List (Lexeme τ)) :
    feed maxDepth reader (first ++ second) = feed maxDepth middle second := by
  rw [feed] at fed
  rw [feed, List.foldlM_append, fed]
  rfl

theorem advance_of_step {reader after : Reader τ} {lexeme : Lexeme τ}
    (shallow : reader.isTooDeep maxDepth lexeme = false) (whole : lexeme.isWhole = true)
    (stepped : reader.step lexeme = some after) :
    reader.advance maxDepth lexeme = .ok after := by
  rw [advance.eq_def, shallow]
  cases lexeme with
  | badText offset => cases whole
  | longInt digits => cases whole
  | _ => simp [stepped]

theorem feed_later {stack : List (Frame τ)} {mode : Mode τ} {lexeme : Lexeme τ} {after : Reader τ}
    (later : mode.isFirst = false) (whole : lexeme.isWhole = true)
    (stepped : step ⟨stack, mode⟩ lexeme = some after) (rest : List (Lexeme τ)) :
    feed maxDepth ⟨stack, mode⟩ (lexeme :: rest) = feed maxDepth after rest :=
  feed_cons (advance_of_step (isTooDeep_of_later later lexeme) whole stepped) rest

theorem feed_first {stack : List (Frame τ)} {mode : Mode τ} {lexeme : Lexeme τ} {after : Reader τ}
    {height : Nat} (room : HasRoom maxDepth stack height) (whole : lexeme.isWhole = true)
    (stepped : step ⟨stack, mode⟩ lexeme = some after) (rest : List (Lexeme τ)) :
    feed maxDepth ⟨stack, mode⟩ (lexeme :: rest) = feed maxDepth after rest :=
  feed_cons (advance_of_step (isTooDeep_of_hasRoom room mode lexeme) whole stepped) rest

/-- The first item of a list is read as any other document. -/
theorem feed_firstItem {done : List (Document τ)} {stack : List (Frame τ)} {height : Nat}
    (room : HasRoom maxDepth (.list done :: stack) height) (document : Document τ) (rest : List (Lexeme τ)) :
    feed maxDepth ⟨.list done :: stack, .firstItem⟩ (lexemes document ++ rest) =
      feed maxDepth ⟨.list done :: stack, .value⟩ (lexemes document ++ rest) := by
  cases document with
  | list items =>
      rw [lexemes, List.cons_append, feed_first room rfl rfl, feed_later rfl rfl rfl]
  | map fields =>
      rw [lexemes, List.cons_append, feed_first room rfl rfl, feed_later rfl rfl rfl]
  | _ =>
      rw [lexemes, List.cons_append, feed_first room rfl rfl, feed_later rfl rfl rfl]

variable {dialect : Dialect τ}

mutual

/-- The lexemes of a plain document are read as that document. -/
theorem feed_lexemes : ∀ (document : Document τ) (stack : List (Frame τ)),
    document.isPlain dialect = true -> HasRoom maxDepth stack document.height ->
    feed maxDepth ⟨stack, .value⟩ (lexemes document) = .ok (plug document stack)
  | .scalar content, stack, _, _ => feed_later rfl rfl rfl []
  | .text content, stack, _, _ => feed_later rfl rfl rfl []
  | .list [], stack, _, room => by
      rw [lexemes, feed_later rfl rfl rfl]
      exact feed_cons rfl []
  | .list (item :: rest), stack, plain, room => by
      rw [Document.isPlain, Document.arePlain, Bool.and_eq_true] at plain
      rw [Document.height, Document.heightOfItems] at room
      have inner : HasRoom maxDepth (.list [] :: stack) item.height :=
        (room.mono (Nat.le_max_left _ _)).push _
      rw [lexemes, itemLexemes, separated, flatten_intersperse_cons, feed_later rfl rfl rfl,
        List.append_assoc, feed_firstItem inner,
        feed_append (feed_lexemes item (.list [] :: stack) plain.1 inner)]
      exact feed_items rest [item] stack plain.2 (room.mono (Nat.le_max_right _ _))
  | .map [], stack, _, room => by
      rw [lexemes, feed_later rfl rfl rfl]
      exact feed_cons rfl []
  | .map ((key, item) :: rest), stack, plain, room => by
      rw [Document.isPlain, Document.havePlain, Bool.and_eq_true, Bool.and_eq_true,
        decide_eq_true_eq] at plain
      rw [Document.height, Document.heightOfFields] at room
      have inner : HasRoom maxDepth (.map [] key :: stack) item.height :=
        (room.mono (Nat.le_max_left _ _)).push _
      have empty : HasRoom maxDepth (.map [] default :: stack) item.height :=
        (room.mono (Nat.le_max_left _ _)).push _
      rw [lexemes, fieldLexemes, separated, flatten_intersperse_cons, feed_later rfl rfl rfl,
        List.append_assoc, List.cons_append, feed_first empty rfl rfl, List.cons_append,
        feed_later rfl rfl rfl,
        feed_append (feed_lexemes item (.map [] key :: stack) plain.2.1 inner)]
      have fed := feed_fields rest [(key, item)] key stack plain.1 plain.2.2
        (room.mono (Nat.le_max_right _ _))
      exact fed
termination_by structural document => document

theorem feed_items : ∀ (items done : List (Document τ)) (stack : List (Frame τ)),
    Document.arePlain dialect items = true ->
    HasRoom maxDepth stack (Document.heightOfItems items) ->
    feed maxDepth ⟨.list done :: stack, .next⟩
        ((itemLexemes items).flatMap (fun part => [.mark .comma] ++ part) ++ [.mark .closeList]) =
      .ok (plug (.list (done ++ items)) stack)
  | [], done, stack, _, _ => by
      rw [itemLexemes, List.flatMap_nil, List.nil_append, List.append_nil]
      exact feed_later rfl rfl rfl []
  | item :: rest, done, stack, plain, room => by
      rw [Document.arePlain, Bool.and_eq_true] at plain
      rw [Document.heightOfItems] at room
      have inner : HasRoom maxDepth (.list done :: stack) item.height :=
        (room.mono (Nat.le_max_left _ _)).push _
      rw [itemLexemes, List.flatMap_cons, List.append_assoc, List.append_assoc,
        List.singleton_append, feed_later rfl rfl rfl,
        feed_append (feed_lexemes item (.list done :: stack) plain.1 inner)]
      have fed := feed_items rest (done ++ [item]) stack plain.2
        (room.mono (Nat.le_max_right _ _))
      rwa [List.append_assoc, List.singleton_append] at fed
termination_by structural items => items

theorem feed_fields : ∀ (fields done : KeyedList τ (Document τ)) (key : τ)
    (stack : List (Frame τ)), (KeyedList.keys (done ++ fields)).Nodup ->
    Document.havePlain dialect fields = true ->
    HasRoom maxDepth stack (Document.heightOfFields fields) ->
    feed maxDepth ⟨.map done key :: stack, .next⟩
        ((fieldLexemes fields).flatMap (fun part => [.mark .comma] ++ part) ++
          [.mark .closeMap]) =
      .ok (plug (.map (done ++ fields)) stack)
  | [], done, key, stack, _, _, _ => by
      rw [fieldLexemes, List.flatMap_nil, List.nil_append, List.append_nil]
      exact feed_later rfl rfl rfl []
  | (name, item) :: rest, done, key, stack, once, plain, room => by
      rw [Document.havePlain, Bool.and_eq_true] at plain
      rw [Document.heightOfFields] at room
      have inner : HasRoom maxDepth (.map done name :: stack) item.height :=
        (room.mono (Nat.le_max_left _ _)).push _
      have split : done ++ (name, item) :: rest = done ++ [(name, item)] ++ rest := by simp
      have fresh : name ∉ KeyedList.keys done := by
        rw [KeyedList.keys, List.map_append, List.map_cons] at once
        intro known
        exact (List.nodup_append.mp once).2.2 name known name (by simp) rfl
      rw [split] at once ⊢
      have fed := feed_fields rest (done ++ [(name, item)]) name stack once plain.2
        (room.mono (Nat.le_max_right _ _))
      rw [fieldLexemes, List.flatMap_cons, List.append_assoc, List.append_assoc,
        List.singleton_append, feed_later rfl rfl rfl, List.cons_append, feed_later rfl rfl rfl,
        List.cons_append, feed_later rfl rfl rfl,
        feed_append (feed_lexemes item (.map done name :: stack) plain.1 inner), plug,
        KeyedList.put_of_fresh fresh]
      exact fed
termination_by structural fields => fields

end

end Reader

end PairedContacts.Json
