import PairedContacts.Http.Message

/-!
# Trusted hosts

A server answers only requests that name a host it is trusted under: one of its names, or any name
in one of its domains, which are written `*.domain`.  A pattern `*` trusts every host.
-/

set_option autoImplicit false

namespace PairedContacts

namespace TrustedHosts

inductive Verdict where
  | trusted
  /-- The name is trusted with `www.` in front of it. -/
  | moved
  | refused
  deriving DecidableEq, Repr

def everyHost : String := "*"

/-- A star may stand only alone or before the point that begins a domain. -/
def isPattern (pattern : String) : Bool :=
  match pattern.toList with
  | '*' :: '.' :: rest => !rest.contains '*'
  | ['*'] => true
  | letters => !letters.contains '*'

def matchesHost (host pattern : List Char) : Bool :=
  match pattern with
  | '*' :: domain => domain.isSuffixOf host
  | _ => host == pattern

def nameOf (host : String) : List Char :=
  (HttpRequest.lowerCase host).toList.takeWhile fun c => c != ':'

def judge (patterns : List String) (host : String) : Verdict :=
  let name := nameOf host
  let lowered := patterns.map fun pattern => (HttpRequest.lowerCase pattern).toList
  if patterns.contains everyHost then .trusted
  else if lowered.any (matchesHost name) then .trusted
  else if lowered.contains ("www.".toList ++ name) then .moved
  else .refused

end TrustedHosts

end PairedContacts
