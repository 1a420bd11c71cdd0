import PairedContacts.Json.Lexeme

/-!
# Reading a document

The reader is a pushdown machine over lexemes: a stack of the lists and maps that are still open,
and what may come next.  A repeated key keeps its first place and takes its last value.
-/

set_option autoImplicit false

namespace PairedContacts.Json

/-- A list or map that is still open; a map remembers the key whose value is being read. -/
inductive Frame (τ : Type) where
  | list (done : List (Document τ))
  | map (done : KeyedList τ (Document τ)) (key : τ)

inductive Mode (τ : Type) where
  /-- A value has to come. -/
  | value
  /-- A value, or the end of the list just opened. -/
  | firstItem
  /-- A key, or the end of the map just opened. -/
  | firstKey
  | key
  | colon
  /-- A comma, or the end of the innermost list or map. -/
  | next
  /-- The document is complete. -/
  | done (document : Document τ)

structure Reader (τ : Type) where
  stack : List (Frame τ)
  mode : Mode τ

inductive Fault where
  | unexpected (offset : Nat)
  | longInt (digits : Nat)
  | tooDeep
  deriving DecidableEq, Repr

inductive Obstacle where
  /-- The trouble is so far behind the beginning of the lexeme. -/
  | misplaced (inner : Nat)
  | longInt (digits : Nat)
  | tooDeep
  deriving DecidableEq, Repr

def Obstacle.fault (offset : Nat) : Obstacle -> Fault
  | misplaced inner => .unexpected (offset + inner)
  | longInt digits => .longInt digits
  | tooDeep => .tooDeep

namespace Reader

variable {τ : Type}

def start : Reader τ :=
  ⟨[], .value⟩

def plug [DecidableEq τ] (document : Document τ) : List (Frame τ) -> Reader τ
  | [] => ⟨[], .done document⟩
  | .list done :: stack => ⟨.list (done ++ [document]) :: stack, .next⟩
  | .map done key :: stack => ⟨.map (done.put key document) key :: stack, .next⟩

def setKey (key : τ) : List (Frame τ) -> Option (Reader τ)
  | .map done _ :: stack => some ⟨.map done key :: stack, .colon⟩
  | _ => none

def takesText (reader : Reader τ) : Bool :=
  match reader.mode with
  | .value | .firstItem | .firstKey | .key => true
  | _ => false

def takesValue (reader : Reader τ) : Bool :=
  match reader.mode with
  | .value | .firstItem => true
  | _ => false

/-- Whether a lexeme would be the first content of a list or map nested too deeply; an empty one
never is. -/
def isTooDeep (maxDepth : Option Nat) (reader : Reader τ) (lexeme : Lexeme τ) : Bool :=
  match maxDepth, reader.mode, lexeme with
  | _, .firstItem, .mark .closeList => false
  | _, .firstKey, .mark .closeMap => false
  | some depth, .firstItem, _ => depth < reader.stack.length
  | some depth, .firstKey, _ => depth < reader.stack.length
  | _, _, _ => false

variable [DecidableEq τ] [Inhabited τ]

def begin? (stack : List (Frame τ)) : Lexeme τ -> Option (Reader τ)
  | .scalar content => some (plug (.scalar content) stack)
  | .text content => some (plug (.text content) stack)
  | .mark .openList => some ⟨.list [] :: stack, .firstItem⟩
  | .mark .openMap => some ⟨.map [] default :: stack, .firstKey⟩
  | _ => none

def step (reader : Reader τ) (lexeme : Lexeme τ) : Option (Reader τ) :=
  match reader.mode, reader.stack, lexeme with
  | .value, stack, lexeme => begin? stack lexeme
  | .firstItem, .list done :: stack, .mark .closeList => some (plug (.list done) stack)
  | .firstItem, stack, lexeme => begin? stack lexeme
  | .firstKey, .map done _ :: stack, .mark .closeMap => some (plug (.map done) stack)
  | .firstKey, stack, .text key => setKey key stack
  | .key, stack, .text key => setKey key stack
  | .colon, stack, .mark .colon => some ⟨stack, .value⟩
  | .next, .list done :: stack, .mark .closeList => some (plug (.list done) stack)
  | .next, .list done :: stack, .mark .comma => some ⟨.list done :: stack, .value⟩
  | .next, .map done _ :: stack, .mark .closeMap => some (plug (.map done) stack)
  | .next, .map done key :: stack, .mark .comma => some ⟨.map done key :: stack, .key⟩
  | _, _, _ => none

/-- Takes a lexeme; a fault inside a text or an integer counts only where one may stand. -/
def advance (maxDepth : Option Nat) (reader : Reader τ) (lexeme : Lexeme τ) :
    Except Obstacle (Reader τ) :=
  if reader.isTooDeep maxDepth lexeme then .error .tooDeep
  else
    match lexeme with
    | .badText inner => .error (.misplaced (if reader.takesText then inner else 0))
    | .longInt digits => .error (if reader.takesValue then .longInt digits else .misplaced 0)
    | lexeme =>
        match reader.step lexeme with
        | some after => .ok after
        | none => .error (.misplaced 0)

end Reader

theorem exists_of_map_scanned {α β : Type} {make : α -> β} {scanned : Except Nat (α × List Char)}
    {result : β} {rest : List Char}
    (mapped : scanned.map (fun pair => (make pair.1, pair.2)) = .ok (result, rest)) :
    ∃ found, scanned = .ok (found, rest) := by
  cases scanned with
  | error offset => cases mapped
  | ok pair =>
      cases mapped
      exact ⟨_, rfl⟩

theorem scanText_shortens (opening offset : Nat) (text : List Char)
    {points : List Point} {rest : List Char}
    (scanned : scanText opening offset text = .ok (points, rest)) : rest.length < text.length := by
  fun_induction scanText opening offset text generalizing points rest with
  | case1 => cases scanned
  | case2 offset tail => cases scanned; simp
  | case3 => cases scanned
  | case4 => cases scanned
  | case5 offset a b c d tail unit _ _ ih =>
      obtain ⟨found, inner⟩ := exists_of_map_scanned scanned
      have := ih inner
      simp only [List.length_cons]
      omega
  | case6 => cases scanned
  | case7 => cases scanned
  | case8 => cases scanned
  | case9 offset c tail _ _ plain _ ih =>
      obtain ⟨found, inner⟩ := exists_of_map_scanned scanned
      have := ih inner
      simp only [List.length_cons]
      omega
  | case10 => cases scanned
  | case11 offset c tail _ _ _ _ _ ih =>
      obtain ⟨found, inner⟩ := exists_of_map_scanned scanned
      have := ih inner
      simp only [List.length_cons]
      omega

theorem dropWhile_length_le (drop : Char -> Bool) (text : List Char) :
    (text.dropWhile drop).length ≤ text.length :=
  (List.dropWhile_suffix drop).length_le

theorem scanWhole_shortens {text digits rest : List Char}
    (scanned : scanWhole text = some (digits, rest)) : rest.length < text.length := by
  unfold scanWhole at scanned
  split at scanned
  · cases scanned
    simp
  · split at scanned
    · cases scanned
      exact Nat.lt_succ_of_le (dropWhile_length_le isDigit _)
    · cases scanned
  · cases scanned

theorem scanFraction_length_le (text : List Char) :
    (scanFraction text).2.length ≤ text.length := by
  unfold scanFraction
  split
  · split
    · have := dropWhile_length_le isDigit
      simp only [List.length_cons]
      exact Nat.le_succ_of_le (Nat.le_succ_of_le (this _))
    · exact Nat.le_refl _
  · exact Nat.le_refl _

theorem scanPower_shortens {negative : Bool} {text rest : List Char} {power : Int}
    (scanned : scanPower negative text = some (power, rest)) : rest.length < text.length := by
  unfold scanPower at scanned
  split at scanned
  · split at scanned
    · cases scanned
      exact Nat.lt_succ_of_le (dropWhile_length_le isDigit _)
    · cases scanned
  · cases scanned

theorem scanExponent_shortens {text rest : List Char} {power : Int}
    (scanned : scanExponent text = some (power, rest)) : rest.length < text.length := by
  unfold scanExponent at scanned
  split at scanned
  · split at scanned
    · split at scanned <;> have := scanPower_shortens scanned <;> grind
    · cases scanned
  · cases scanned

section

variable {τ : Type} {dialect : Dialect τ} {text rest : List Char} {found : Lexeme τ}

theorem scanNumber_shortens {negative : Bool}
    (scanned : scanNumber dialect negative text = some (found, rest)) :
    rest.length < text.length := by
  unfold scanNumber at scanned
  cases whole : scanWhole text with
  | none => simp [whole] at scanned
  | some wholePair =>
      obtain ⟨digits, afterWhole⟩ := wholePair
      have wholeShorter := scanWhole_shortens whole
      have partLe := scanFraction_length_le afterWhole
      simp only [whole, Option.bind_eq_bind, Option.bind_some] at scanned
      cases power : scanExponent (scanFraction afterWhole).2 with
      | none => grind
      | some powerPair =>
          obtain ⟨exponent, afterPower⟩ := powerPair
          have powerShorter := scanExponent_shortens power
          grind

theorem dropWord?_length {word text rest : List Char} (dropped : dropWord? word text = some rest) :
    rest.length + word.length = text.length := by
  fun_induction dropWord? word text <;> grind

theorem scanWord_shortens (scanned : scanWord text = some (found, rest)) : rest.length < text.length := by
  obtain ⟨word, member, result⟩ := List.exists_of_findSome?_eq_some scanned
  obtain ⟨after, dropped, pair⟩ := Option.map_eq_some_iff.mp result
  cases pair
  have lengths := dropWord?_length dropped
  have nonempty : ∀ word ∈ words, 0 < word.1.length := by decide
  have := nonempty word member
  omega

theorem scanSigned_shortens (scanned : scanSigned dialect text = some (found, rest)) :
    rest.length < text.length := by
  unfold scanSigned at scanned
  split at scanned
  · have := scanNumber_shortens scanned
    simp only [List.length_cons]
    omega
  · exact scanNumber_shortens scanned

theorem lexeme_shortens (dialect : Dialect τ) (c : Char) (rest : List Char) :
    (lexeme dialect c rest).2.length ≤ rest.length := by
  unfold lexeme
  split <;> try exact Nat.le_refl _
  · split
    · exact Nat.le_refl _
    · split
      · exact Nat.le_of_lt (scanText_shortens 0 1 rest (by assumption))
      · exact Nat.le_refl _
  · cases word : (scanWord (c :: rest) : Option (Lexeme τ × List Char)) with
    | some pair =>
        obtain ⟨found, after⟩ := pair
        exact Nat.le_of_lt_succ (scanWord_shortens word)
    | none =>
        cases number : scanSigned dialect (c :: rest) with
        | some pair =>
            obtain ⟨found, after⟩ := pair
            exact Nat.le_of_lt_succ (scanSigned_shortens number)
        | none => exact Nat.le_refl _

/-- Feeds the rest of a text to a reader; `total` is the length of the whole text. -/
def run [DecidableEq τ] [Inhabited τ] (dialect : Dialect τ) (total : Nat) (reader : Reader τ)
    (text : List Char) : Except Fault (Document τ) :=
  match text with
  | [] =>
      match reader.mode with
      | .done document => .ok document
      | _ => .error (.unexpected total)
  | c :: rest =>
      if isSpace c then run dialect total reader rest
      else
        match reader.advance dialect.maxDepth (lexeme dialect c rest).1 with
        | .error obstacle => .error (obstacle.fault (total - (c :: rest).length))
        | .ok after => run dialect total after (lexeme dialect c rest).2
termination_by text.length
decreasing_by
  · simp
  · exact Nat.lt_succ_of_le (lexeme_shortens dialect c rest)

def parse [DecidableEq τ] [Inhabited τ] (dialect : Dialect τ) (text : String) :
    Except Fault (Document τ) :=
  let chars := text.toList
  run dialect chars.length .start chars

end

/-- The value that a document of texts of characters is. -/
def read (dialect : Dialect String) (text : String) : Except Fault Value :=
  (parse dialect text).map Document.value

end PairedContacts.Json
