import PairedContacts.Net.Address
import PairedContacts.Text.Quoted

/-!
# URLs

A URL is taken apart into its scheme, its authority and the rest.  Spaces and control characters in
front and line breaks and tabs anywhere do not count.  A host in brackets has to be an address of
version 6, and no character of an authority may stand for one that ends it.
-/

set_option autoImplicit false

namespace PairedContacts.Net

inductive UrlFault where
  | brackets
  | futureAddress
  | bracketedVersion4
  | notAnAddress (host : String)
  | hiddenDelimiter (authority : String)
  deriving DecidableEq, Repr

def UrlFault.message : UrlFault -> String
  | brackets => "Invalid IPv6 URL"
  | futureAddress => "IPvFuture address is invalid"
  | bracketedVersion4 => "An IPv4 address cannot be in brackets"
  | notAnAddress host => Text.quote host ++ " does not appear to be an IPv4 or IPv6 address"
  | hiddenDelimiter authority =>
      "netloc '" ++ authority ++ "' contains invalid characters under NFKC normalization"

structure Url where
  scheme : String
  authority : List Char
  deriving DecidableEq, Repr

namespace Url

def isSchemeChar (c : Char) : Bool :=
  c.isAlphanum || c = '+' || c = '-' || c = '.'

def isIgnored (c : Char) : Bool :=
  c = '\t' || c = '\r' || c = '\n'

def significant (text : List Char) : List Char :=
  (text.dropWhile fun c => c.toNat ≤ 0x20).filter fun c => !isIgnored c

/-- The scheme in lower case, and the text behind it; a text may have none. -/
def splitScheme (text : List Char) : String × List Char :=
  match cutAt ':' text with
  | (scheme, some rest) =>
      if scheme.head?.any Char.isAlpha && scheme.all isSchemeChar then
        (String.ofList (scheme.map Char.toLower), rest)
      else ("", text)
  | _ => ("", text)

def endsAuthority (c : Char) : Bool :=
  c = '/' || c = '?' || c = '#'

def takeAuthority : List Char -> List Char
  | '/' :: '/' :: rest => rest.takeWhile fun c => !endsAuthority c
  | _ => []

/-- The characters whose compatibility form holds a delimiter of URLs. -/
def hiddenDelimiters : List Nat :=
  [0x2047, 0x2048, 0x2049, 0x2100, 0x2101, 0x2105, 0x2106, 0x2A74, 0xFE13, 0xFE16, 0xFE55, 0xFE56,
   0xFE5F, 0xFE6B, 0xFF03, 0xFF0F, 0xFF1A, 0xFF1F, 0xFF20]

def hostPart (authority : List Char) : List Char :=
  afterLast '@' authority

def isFutureAddress (host : List Char) : Bool :=
  match cutAt '.' (host.drop 1) with
  | (version, some rest) =>
      !version.isEmpty && version.all (fun c => (Text.hexValue? c).isSome) && !rest.isEmpty &&
        !rest.contains '\n'
  | _ => false

def checkBracketed (host : List Char) : Except UrlFault Unit :=
  if host.head? = some 'v' then
    if isFutureAddress host then .ok () else .error .futureAddress
  else if isVersion4 host then .error .bracketedVersion4
  else if isVersion6 host then .ok ()
  else .error (.notAnAddress (String.ofList host))

/-- Checks an authority that has brackets: nothing but a port may stand beside them. -/
def checkBrackets (authority : List Char) : Except UrlFault Unit :=
  match cutAt '[' (hostPart authority) with
  | (before, some bracketed) =>
      let (host, after) := cutAt ']' bracketed
      if !before.isEmpty then .error .brackets
      else if (after.getD []).head?.any fun c => c != ':' then .error .brackets
      else checkBracketed host
  | (plain, none) => checkBracketed (cutAt ':' plain).1

def checkAuthority (authority : List Char) : Except UrlFault Unit := do
  let opens := authority.contains '['
  let closes := authority.contains ']'
  if opens != closes then
    throw .brackets
  if opens && closes then
    checkBrackets authority
  if authority.any fun c => hiddenDelimiters.contains c.toNat then
    throw (.hiddenDelimiter (String.ofList authority))

def split (text : List Char) : Except UrlFault Url := do
  let (scheme, rest) := splitScheme (significant text)
  let authority := takeAuthority rest
  checkAuthority authority
  return ⟨scheme, authority⟩

/-- The host in lower case; what names a zone keeps its case. -/
def host (url : Url) : List Char :=
  let part := hostPart url.authority
  let bare := match cutAt '[' part with
    | (_, some bracketed) => (cutAt ']' bracketed).1
    | (plain, none) => (cutAt ':' plain).1
  match cutAt '%' bare with
  | (name, none) => name.map Char.toLower
  | (name, some zone) => name.map Char.toLower ++ '%' :: zone

end Url

end PairedContacts.Net
