import PairedContacts.Number.Numeral
import PairedContacts.VCard.Ending

/-!
# The metadata footer of a vCard

A vCard that is sent carries two metadata lines before its end: the device that it comes from with
the uID of the contact, and the time of its last change.

    X-KDECONNECT-ID-DEV-phone:alice
    X-KDECONNECT-TIMESTAMP:1700000000000
    END:VCARD

The word after `X-` is the namespace of the lines.  The beginnings of metadata lines are recognized
in any case; lines of another namespace are content.
-/

set_option autoImplicit false

namespace PairedContacts.VCard

/-- Where a vCard comes from, which contact it is, and when that was last changed. -/
structure Metadata where
  deviceId : String
  uid : Uid
  timestamp : Int
  deriving DecidableEq, Repr

def defaultNamespace : String := "KDECONNECT"

def deviceStart (space : List Char) : List Char :=
  ['X', '-'] ++ Text.upper space ++ ['-', 'I', 'D', '-', 'D', 'E', 'V', '-']

def timestampStart (space : List Char) : List Char :=
  ['X', '-'] ++ Text.upper space ++ ['-', 'T', 'I', 'M', 'E', 'S', 'T', 'A', 'M', 'P', ':']

def beginsAs (start line : List Char) : Bool :=
  start.isPrefixOf (Text.upper line)

def isMetadataLine (space line : List Char) : Bool :=
  beginsAs (deviceStart space) line || beginsAs (timestampStart space) line

inductive FooterFault where
  | deviceId (text : String)
  | record (fault : RecordFault)
  | longTimestamp

def FooterFault.message : FooterFault -> String
  | deviceId text => "Invalid origin device id: " ++ Text.quote text
  | record fault => fault.message
  | longTimestamp => UidFault.longInt.message

/-- A device id is one part of a line that ends at a colon. -/
def admitsDevice (deviceId : List Char) : Bool :=
  !deviceId.isEmpty && !deviceId.contains ':' && !deviceId.contains '\n'

def endWithLineFeed (body : List Char) : List Char :=
  if body.isEmpty || body.getLast? == some '\n' then body else body ++ ['\n']

def deviceLine (space : List Char) (metadata : Metadata) : List Char :=
  deviceStart space ++ metadata.deviceId.toList ++ ':' :: metadata.uid.text.toList

def timestampLine (space digits : List Char) : List Char :=
  timestampStart space ++ digits

def footer (space digits : List Char) (metadata : Metadata) : List Char :=
  deviceLine space metadata ++ '\n' :: (timestampLine space digits ++ ['\n'])

/-- Writes the footer of a record in place of any metadata that the record has in the namespace.
The record then ends at its end marker. -/
def finalize (space raw : String) (metadata : Metadata) : Except FooterFault String := do
  if !admitsDevice metadata.deviceId.toList then
    throw (.deviceId metadata.deviceId)
  let lines <- (contentLines raw.toList).mapError .record
  let body := (lines.filter fun line => !isMetadataLine space.toList line).flatten
  match Numeral.writeInt? metadata.timestamp with
  | none => throw .longTimestamp
  | some digits =>
      let lines := footer space.toList digits metadata
      return String.ofList (endWithLineFeed body ++ lines ++ endMarker)

/-- A finalized record taken apart: its content without the end, and its metadata. -/
structure Finalized where
  body : String
  metadata : Metadata
  deriving DecidableEq, Repr

inductive LineMeaning where
  | device (deviceId : String) (uid : Uid)
  | timestamp (n : Int)
  | content

namespace LineMeaning

def device? : LineMeaning -> Option (String × Uid)
  | device deviceId uid => some (deviceId, uid)
  | _ => none

def timestamp? : LineMeaning -> Option Int
  | timestamp n => some n
  | _ => none

def isContent : LineMeaning -> Bool
  | content => true
  | _ => false

end LineMeaning

/-- A line without the carriage returns and line feeds at its end. -/
def unterminated (line : List Char) : List Char :=
  Text.trimEnd (fun c => c = '\r' || c = '\n') line

def readDevice (line rest : List Char) : Except RecordFault LineMeaning :=
  let deviceId := rest.takeWhile fun c => c != ':'
  match rest.dropWhile fun c => c != ':' with
  | [] => .error (.deviceLine (String.ofList line))
  | _ :: uidText =>
      if deviceId.isEmpty then .error (.deviceLine (String.ofList line))
      else
        match Uid.ofText (String.ofList uidText) with
        | .ok uid => .ok (.device (String.ofList deviceId) uid)
        | .error fault => .error (.uidOfDeviceLine fault)

def readTimestamp (line rest : List Char) : Except RecordFault LineMeaning :=
  match Numeral.readInt (Text.trim rest) with
  | .ok n => .ok (.timestamp n)
  | .error _ => .error (.timestampLine (String.ofList line))

/-- What a line says.  Its beginning is compared in upper case, but the value is cut out of the line
as it stands, behind as many characters as the beginning has. -/
def readLine (space line : List Char) : Except RecordFault LineMeaning :=
  let bare := unterminated line
  if beginsAs (deviceStart space) bare then
    readDevice bare (bare.drop (deviceStart space).length)
  else if beginsAs (timestampStart space) bare then
    readTimestamp bare (bare.drop (timestampStart space).length)
  else .ok .content

/-- Takes a finalized record apart.  Of several metadata lines of a kind the last one counts. -/
def parseFinalized (space text : String) : Except RecordFault Finalized := do
  let lines <- contentLines text.toList
  let meanings <- lines.mapM (readLine space.toList)
  let kept := (lines.zip meanings).filter fun pair => pair.2.isContent
  match meanings.reverse.findSome? LineMeaning.device? with
  | none => throw .noDeviceLine
  | some (deviceId, uid) =>
      match meanings.reverse.findSome? LineMeaning.timestamp? with
      | none => throw .noTimestampLine
      | some timestamp =>
          return ⟨String.ofList (kept.map Prod.fst).flatten, ⟨deviceId, uid, timestamp⟩⟩

end PairedContacts.VCard
