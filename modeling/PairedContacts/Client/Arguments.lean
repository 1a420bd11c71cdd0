import PairedContacts.Net.Address
import PairedContacts.Text.DecimalDigit

/-!
# Arguments

The words on a command line of the client.  Options may come before the command, each with its value
behind it; behind the command only help can be asked for.  A long option may be cut short where that
leaves no doubt, a value may be joined to its option, and two dashes end the options.
-/

set_option autoImplicit false

namespace PairedContacts

inductive Command where
  | init
  | status
  | sync
  deriving DecidableEq, Repr

def Command.ofName? : String -> Option Command
  | "init" => some .init
  | "status" => some .status
  | "sync" => some .sync
  | _ => none

structure Arguments where
  directory : String
  server : Option String
  allowInsecure : Bool
  space : Option String
  command : Option Command
  deriving DecidableEq, Repr

inductive Dismissal where
  | help
  | refused
  deriving DecidableEq, Repr

inductive OptionName where
  | help
  | directory
  | server
  | allowInsecure
  | space
  deriving DecidableEq, Repr

namespace OptionName

def takesValue : OptionName -> Bool
  | help | allowInsecure => false
  | directory | server | space => true

end OptionName

structure OptionTable where
  names : List (List Char × OptionName)
  letters : List (Char × OptionName)

namespace OptionTable

def main : OptionTable where
  names :=
    [("help".toList, .help), ("dir".toList, .directory), ("server".toList, .server),
     ("allow-insecure-http".toList, .allowInsecure), ("namespace".toList, .space)]
  letters := [('h', .help), ('d', .directory), ('s', .server)]

def command : OptionTable where
  names := [("help".toList, .help)]
  letters := [('h', .help)]

/-- The options whose names begin with a text; a name that is the text is the only one. -/
def named (table : OptionTable) (start : List Char) : List OptionName :=
  match table.names.lookup start with
  | some name => [name]
  | none => (table.names.filter fun entry => start.isPrefixOf entry.1).map Prod.snd

def lettered? (table : OptionTable) (letter : Char) : Option OptionName :=
  table.letters.lookup letter

end OptionTable

/-- What stands in the word of an option behind the option. -/
inductive Attachment where
  | nothing
  | joined (text : String)
  | touching (text : List Char)
  deriving DecidableEq, Repr

inductive Word where
  | plain
  | separator
  | option (name : OptionName) (attachment : Attachment)
  | unknownOption
  | ambiguous
  deriving DecidableEq, Repr

namespace Word

/-- A dash and digits, perhaps with a point before the last of them. -/
def isNegativeNumber (text : List Char) : Bool :=
  match text with
  | '-' :: digits =>
      match Net.cutAt '.' digits with
      | (whole, none) => !whole.isEmpty && whole.all Text.isDecimalDigit
      | (whole, some fraction) =>
          whole.all Text.isDecimalDigit && !fraction.isEmpty && fraction.all Text.isDecimalDigit
  | _ => false

/-- The meaning of a word that begins with a dash and is no option. -/
def ofStrange (text : List Char) : Word :=
  if isNegativeNumber text || text.contains ' ' then plain else unknownOption

def joinedTo (value : Option (List Char)) : Attachment :=
  value.elim .nothing fun text => .joined (String.ofList text)

def read (table : OptionTable) (word : String) : Word :=
  let text := word.toList
  match text with
  | ['-', '-'] => separator
  | '-' :: '-' :: rest =>
      let (start, value) := Net.cutAt '=' rest
      match table.named start with
      | [name] => option name (joinedTo value)
      | [] => ofStrange text
      | _ => ambiguous
  | ['-'] => plain
  | '-' :: letter :: rest =>
      match table.lettered? letter, rest with
      | some name, [] => option name .nothing
      | some name, '=' :: value => option name (.joined (String.ofList value))
      | some name, _ => option name (.touching rest)
      | none, _ => ofStrange text
  | _ => plain

end Word

namespace Arguments

def standard : Arguments :=
  ⟨".", none, false, none, none⟩

def setValue (given : Arguments) (name : OptionName) (value : String) : Arguments :=
  match name with
  | .directory => { given with directory := value }
  | .server => { given with server := some value }
  | .space => { given with space := some value }
  | .help | .allowInsecure => given

def attachedText? : Attachment -> Option String
  | .nothing => none
  | .joined text => some text
  | .touching text => some (String.ofList text)

/-- What more letters behind the one that asks for help lead to: the last of them may want the next
word for its value. -/
def helpAmong (table : OptionTable) (hasValue : Bool) : List Char -> Dismissal
  | [] => .help
  | '-' :: _ => .refused
  | letter :: rest =>
      match table.lettered? letter with
      | none => .help
      | some name =>
          if name.takesValue then (if rest.isEmpty && !hasValue then .refused else .help)
          else if rest.head? = some '=' then .refused
          else helpAmong table hasValue rest

def dismiss (table : OptionTable) (hasValue : Bool) : Attachment -> Dismissal
  | .nothing => .help
  | .joined _ => .refused
  | .touching letters => helpAmong table hasValue letters

def isPlain (word : String) : Bool :=
  Word.read .main word == .plain

/-- What the words behind a command lead to: help, if it is asked for, and else refusal. -/
def dismissRest : List String -> Dismissal
  | [] => .refused
  | word :: rest =>
      match Word.read .command word with
      | .option _ attachment => dismiss .command false attachment
      | .separator => .refused
      | _ => dismissRest rest

/-- Takes the command and the words behind it.  Words that were not understood before are refused
only now. -/
def takeCommand (given : Arguments) (hasStrange : Bool) (name : String) (rest : List String) :
    Except Dismissal Arguments :=
  match Command.ofName? name with
  | none => .error .refused
  | some command =>
      if rest.isEmpty then
        if hasStrange then .error .refused else .ok { given with command := some command }
      else .error (dismissRest rest)

def walk (given : Arguments) (hasStrange : Bool) : List String -> Except Dismissal Arguments
  | [] => if hasStrange then .error .refused else .ok given
  | word :: rest =>
      match Word.read .main word with
      | .plain => takeCommand given hasStrange word rest
      | .separator =>
          match rest with
          | [] => .error .refused
          | name :: more => takeCommand given hasStrange name more
      | .unknownOption => walk given true rest
      | .ambiguous => .error .refused
      | .option .help attachment => .error (dismiss .main (rest.head?.any isPlain) attachment)
      | .option .allowInsecure .nothing => walk { given with allowInsecure := true } hasStrange rest
      | .option .allowInsecure _ => .error .refused
      | .option name attachment =>
          match attachedText? attachment with
          | some value => walk (given.setValue name value) hasStrange rest
          | none =>
              match rest with
              | [] => .error .refused
              | value :: more =>
                  if isPlain value then walk (given.setValue name value) hasStrange more
                  else .error .refused

def read (words : List String) : Except Dismissal Arguments :=
  let options := words.takeWhile fun word => word != "--"
  if options.any fun word => Word.read .main word == .ambiguous then .error .refused
  else walk standard false words

end Arguments

end PairedContacts
