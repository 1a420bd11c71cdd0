import PairedContacts.Text.Blank
import PairedContacts.Text.Line
import PairedContacts.Text.UpperCase
import PairedContacts.Uid

/-!
# The end of a vCard

A vCard ends with one `END:VCARD` line, in any case and with blanks around it, after which only
blank lines may come.  Metadata is written just before that line, so its offset is where the
content of the record stops.
-/

set_option autoImplicit false

namespace PairedContacts

/-- Why a text is not a record that could be split into content and metadata. -/
inductive RecordFault where
  | endMarkers (count : Nat)
  | contentAfterEnd
  | deviceLine (line : String)
  | uidOfDeviceLine (fault : UidFault)
  | timestampLine (line : String)
  | noDeviceLine
  | noTimestampLine

namespace RecordFault

def message : RecordFault -> String
  | endMarkers count => "Expected one END:VCARD line, found " ++ toString count
  | contentAfterEnd => "Content found after END:VCARD"
  | deviceLine line => "Malformed device line: " ++ Text.quote line
  | uidOfDeviceLine fault => "Malformed uID in device line: " ++ fault.message
  | timestampLine line => "Malformed timestamp line: " ++ Text.quote line
  | noDeviceLine => "Missing device/uID metadata line"
  | noTimestampLine => "Missing timestamp metadata line"

end RecordFault

namespace VCard

def endMarker : List Char :=
  ['E', 'N', 'D', ':', 'V', 'C', 'A', 'R', 'D']

def isEndMarker (line : List Char) : Bool :=
  Text.upper (Text.trim line) == endMarker

def isBlankLine (line : List Char) : Bool :=
  (Text.trim line).isEmpty

/-- The lines before the end marker of a well-ended record. -/
def linesBeforeEnd (lines : List (List Char)) : Except RecordFault (List (List Char)) :=
  let count := lines.countP isEndMarker
  if count ≠ 1 then .error (.endMarkers count)
  else if ((lines.dropWhile fun line => !isEndMarker line).drop 1).all isBlankLine then
    .ok (lines.takeWhile fun line => !isEndMarker line)
  else .error .contentAfterEnd

/-- The offset of the line with the end marker. -/
def insertionPoint (text : List Char) : Except RecordFault Nat :=
  (linesBeforeEnd (Text.splitLines text)).map fun lines => lines.flatten.length

def contentLines (text : List Char) : Except RecordFault (List (List Char)) :=
  (insertionPoint text).map fun offset => Text.splitLines (text.take offset)

end VCard

end PairedContacts
