/-!
# Lines of text

A text splits into lines after each line break: line feed, carriage return, the pair of the two,
vertical tab, form feed, the file, group and record separators, next line, and the Unicode line
and paragraph separators.  Every line keeps its break, so the lines concatenate to the text.
-/

set_option autoImplicit false

namespace PairedContacts.Text

def lineBreaks : List Char :=
  ['\n', '\r', '\x0b', '\x0c', '\x1c', '\x1d', '\x1e', '\u0085', '\u2028', '\u2029']

def isLineBreak (c : Char) : Bool :=
  lineBreaks.contains c

/-- The lines of a text, breaks included; a carriage return and the line feed after it are one
break.  The last line may have no break, and is never empty. -/
def splitLines : List Char -> List (List Char)
  | [] => []
  | '\r' :: '\n' :: rest => ['\r', '\n'] :: splitLines rest
  | c :: rest =>
      if isLineBreak c then
        [c] :: splitLines rest
      else
        match splitLines rest with
        | [] => [[c]]
        | line :: more => (c :: line) :: more

theorem flatten_splitLines (text : List Char) : (splitLines text).flatten = text := by
  fun_induction splitLines text with
  | case1 => rfl
  | case2 rest ih => simp [ih]
  | case3 c rest _ _ ih => simp [ih]
  | case4 c rest _ _ noLines ih => simp_all
  | case5 c rest _ _ line more lines ih => simp_all

theorem splitLines_eq_nil_iff {text : List Char} : splitLines text = [] ↔ text = [] := by
  constructor
  · intro noLines
    rw [← flatten_splitLines text, noLines, List.flatten_nil]
  · rintro rfl
    rfl

theorem ne_nil_of_mem_splitLines {text line : List Char} (member : line ∈ splitLines text) :
    line ≠ [] := by
  fun_induction splitLines text with
  | case1 => simp at member
  | case2 rest ih => grind
  | case3 c rest _ _ ih => grind
  | case4 c rest _ _ noLines ih => grind
  | case5 c rest _ _ line more lines ih => grind

end PairedContacts.Text
