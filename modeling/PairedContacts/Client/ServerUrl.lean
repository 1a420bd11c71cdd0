import PairedContacts.Net.Url
import PairedContacts.Text.Blank

/-!
# Server URLs

The URL that a client is given for its server.  It has to name a scheme of the web and a host, and
an unprotected connection is taken only to the machine itself, unless the user allows it.
-/

set_option autoImplicit false

namespace PairedContacts

inductive ServerUrlFault where
  | malformed (fault : Net.UrlFault)
  | incomplete
  | unprotected
  deriving DecidableEq, Repr

def ServerUrlFault.message : ServerUrlFault -> String
  | malformed fault => fault.message
  | incomplete => "Server URL must include scheme and host (e.g. https://example.com)"
  | unprotected =>
      "HTTPS is required for non-localhost servers. " ++
        "Use --allow-insecure-http only on trusted networks."

namespace ServerUrl

def loopbackHosts : List String := ["localhost", "127.0.0.1", "::1"]

/-- The URL without blanks around it and slashes at its end. -/
def normalize (url : String) : List Char :=
  Text.trimEnd (fun c => c = '/') (Text.trim url.toList)

def isWebScheme (scheme : String) : Bool :=
  scheme == "http" || scheme == "https"

def isLoopback (url : Net.Url) : Bool :=
  loopbackHosts.contains (String.ofList url.host)

def validate (url : String) (allowInsecure : Bool) : Except ServerUrlFault String := do
  let normalized := normalize url
  let parts <- (Net.Url.split normalized).mapError .malformed
  if !isWebScheme parts.scheme || parts.authority.isEmpty then
    throw .incomplete
  if parts.scheme == "http" && !allowInsecure && !isLoopback parts then
    throw .unprotected
  return String.ofList normalized

end ServerUrl

end PairedContacts
