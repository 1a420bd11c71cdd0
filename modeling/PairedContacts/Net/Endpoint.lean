import PairedContacts.Bytes.Percent
import PairedContacts.Net.Punycode
import PairedContacts.Net.Url
import PairedContacts.Number.Numeral
import PairedContacts.Text.Alphanumeric

/-!
# Endpoints

Where a request goes: the parts of a URL, all in ASCII.  A host is in lower case, the port of a
scheme is left out, steps of a path that stay or go back are taken, and a character that may not
stand in its part is written by its bytes.
-/

set_option autoImplicit false

namespace PairedContacts.Net

structure Endpoint where
  scheme : List Char
  user : List Char
  host : List Char
  port : Option Int
  path : List Char
  query : Option (List Char)
  fragment : Option (List Char)

namespace Endpoint

def maxLength : Nat := 65536

def isPrintableAscii (c : Char) : Bool :=
  0x20 ≤ c.toNat && c.toNat < 0x7F

/-- A text with the characters outside a class written by their bytes. -/
def quote (isSafe : Char -> Bool) (text : List Char) : List Char :=
  text.flatMap fun c =>
    if Percent.isPlain c || isSafe c then [c]
    else (String.utf8EncodeChar c).flatMap Percent.escapeByte

def isSafeInPath (c : Char) : Bool :=
  isPrintableAscii c &&
    !([0x20, 0x22, 0x23, 0x3C, 0x3E, 0x3F, 0x60, 0x7B, 0x7D].contains c.toNat)

def isSafeInQuery (c : Char) : Bool :=
  isPrintableAscii c && !([0x20, 0x22, 0x23, 0x3C, 0x3E].contains c.toNat)

def isSafeInFragment (c : Char) : Bool :=
  isPrintableAscii c && !([0x20, 0x22, 0x3C, 0x3E, 0x60].contains c.toNat)

def isSafeInUser (c : Char) : Bool :=
  isSafeInPath c &&
    !([0x2F, 0x3B, 0x3D, 0x40, 0x5B, 0x5C, 0x5D, 0x5E, 0x7C].contains c.toNat)

def isSafeInHost (c : Char) : Bool :=
  [0x21, 0x22, 0x24, 0x25, 0x26, 0x27, 0x28, 0x29, 0x2A, 0x2B, 0x2C, 0x3B, 0x3D, 0x5C, 0x60, 0x7B,
    0x7C, 0x7D].contains c.toNat

/-- How far a host has gone on the way of four numbers with one character between them: even stages
wait for a numeral, odd stages are in one. -/
abbrev NumberStages := List Nat

def advanceStages (stages : NumberStages) (c : Char) : NumberStages :=
  stages.flatMap fun stage =>
    (if isPlainDigit c then [if stage % 2 = 0 then stage + 1 else stage] else []) ++
      (if stage % 2 = 1 && stage < 7 then [stage + 1] else [])

/-- Whether a host looks like an address of version 4. -/
def looksNumeric (host : List Char) : Bool :=
  (host.foldl (fun stages c => (advanceStages stages c).eraseDups) [0]).contains 7

def isLabelChar (c : Char) : Bool :=
  if c.toNat < 0x80 then isPlainDigit c || ('a' ≤ c && c ≤ 'z') || c = '-'
  else Text.isAlphanumeric c

def maxLabelLength : Nat := 63

def encodeLabel? (label : List Char) : Option (List Char) :=
  let encoded :=
    if label.all Punycode.isBasic then label else "xn--".toList ++ Punycode.encode label
  if label.isEmpty || !label.all isLabelChar then none
  else if label.head? = some '-' || label.getLast? = some '-' then none
  else if maxLabelLength < encoded.length then none
  else some encoded

def joinLabels (labels : List (List Char)) : List Char :=
  (labels.intersperse ['.']).flatten

/-- A host in ASCII; an address of version 6 loses its brackets. -/
def encodeHost? (host : List Char) : Option (List Char) :=
  if looksNumeric host then
    if isVersion4 host then some host else none
  else if host.head? = some '[' && host.getLast? = some ']' then
    let inner := (host.drop 1).dropLast
    if isVersion6 inner then some inner else none
  else if host.all Punycode.isBasic then
    some (quote isSafeInHost (host.map Char.toLower))
  else ((splitAt '.' (host.map Char.toLower)).mapM encodeLabel?).map joinLabels

def standardPort? (scheme : List Char) : Option Int :=
  if scheme == "http".toList then some 80
  else if scheme == "https".toList then some 443
  else none

/-- The port behind a host; the standard port of the scheme counts as none. -/
def readPort? (scheme text : List Char) : Option (Option Int) :=
  if text.isEmpty then some none
  else
    match Numeral.readInt text with
    | .ok port => some (if some port = standardPort? scheme then none else some port)
    | .error _ => none

def splitHost (authority : List Char) : List Char × List Char :=
  if authority.head? = some '[' && authority.contains ']' then
    let after := afterLast ']' authority
    (authority.take (authority.length - after.length), after)
  else authority.span fun c => c != ':' && c != '@'

def settle (steps : List (List Char)) : List (List Char) :=
  steps.foldl (fun taken step =>
    if step == ['.'] then taken
    else if step == ['.', '.'] then (if taken == [[]] then taken else taken.dropLast)
    else taken ++ [step]) []

def normalizePath (path : List Char) : List Char :=
  ((settle (splitAt '/' path)).intersperse ['/']).flatten

def splitRest (rest : List Char) : List Char × Option (List Char) × Option (List Char) :=
  let (front, fragment) := cutAt '#' rest
  let (path, query) := cutAt '?' front
  (path, query, fragment)

def ofParts? (scheme authority path : List Char) (query fragment : Option (List Char)) :
    Option Endpoint := do
  let (user, place) :=
    match cutAt '@' authority with
    | (user, some place) => (user, place)
    | (place, none) => ([], place)
  let (host, behind) := splitHost place
  let encoded <- encodeHost? host
  let port <- readPort? scheme (if behind.head? = some ':' then behind.drop 1 else behind)
  return {
    scheme := scheme
    user := quote isSafeInUser user
    host := encoded
    port := port
    path := quote isSafeInPath (normalizePath path)
    query := query.map (quote isSafeInQuery)
    fragment := fragment.map (quote isSafeInFragment) }

def ofUrl? (url : String) : Option Endpoint :=
  let text := url.toList
  let (scheme, rest) := Url.splitScheme text
  let authority := Url.takeAuthority rest
  let behind := if authority.isEmpty && !"//".toList.isPrefixOf rest then rest
    else rest.drop (authority.length + 2)
  let (path, query, fragment) := splitRest behind
  let isControl (c : Char) : Bool := Punycode.isBasic c && !isPrintableAscii c
  if maxLength < text.length || text.any isControl then none
  else ofParts? scheme.toList authority path query fragment

def target (endpoint : Endpoint) : List Char :=
  (if endpoint.path.isEmpty then ['/'] else endpoint.path) ++
    endpoint.query.elim [] fun query => '?' :: query

def within (base : Endpoint) (relative : List Char) : Endpoint :=
  let start := if base.target.getLast? = some '/' then base.target else base.target ++ ['/']
  let (path, query) := cutAt '?' (start ++ relative)
  { base with path := quote isSafeInPath (normalizePath path), query := query }

def address (endpoint : Endpoint) : List Char :=
  (if endpoint.host.contains ':' then '[' :: (endpoint.host ++ [']']) else endpoint.host) ++
    endpoint.port.elim [] fun port => ':' :: Numeral.writeInt port

def authority (endpoint : Endpoint) : List Char :=
  (if endpoint.user.isEmpty then [] else endpoint.user ++ ['@']) ++ endpoint.address

def toText (endpoint : Endpoint) : String :=
  let start := if endpoint.authority.isEmpty then [] else '/' :: '/' :: endpoint.authority
  let query := endpoint.query.elim [] fun query => '?' :: query
  let fragment := endpoint.fragment.elim [] fun fragment => '#' :: fragment
  String.ofList (endpoint.scheme ++ ':' :: start ++ endpoint.path ++ query ++ fragment)

end Endpoint

end PairedContacts.Net
