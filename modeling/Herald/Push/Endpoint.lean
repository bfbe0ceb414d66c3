import Herald.Url.Basic
/-!
# Endpoints

The address messages are posted to, from the text it is configured with. A
text that is no absolute address of a resource cannot be used. Neither can one
without a host, one of another scheme than `http` and `https`, one whose host
holds characters that a request cannot name, or one that is too long for a
request; these are known by their normal form. Credentials do not belong to
the address, and are taken out of it.
-/

namespace Herald

/-- Where messages are posted to. -/
structure Endpoint where
  address : Url
  deriving DecidableEq, Repr

/-- Why nothing can be posted to an address. -/
inductive EndpointFault where
  /-- The text is not an absolute address. -/
  | notAbsolute
  /-- The address is no place to post to. -/
  | unsupported (url : String)
  deriving DecidableEq, Repr

namespace Endpoint

/-- The text of the address. -/
def url (e : Endpoint) : String := e.address.render

/-- What a request asks for: path and query. -/
def resource (e : Endpoint) : String :=
  String.ofList (e.address.path ++ e.address.query.elim [] ('?' :: ·))

/-- Whether a request can name a host with a character in it. -/
def isNameable (c : Char) : Bool := !(c ∈ ['\x22', '\x60', '\x7b', '\x7d'])

/-- How long an address of a request may be. -/
def longest : Nat := 65_534

/-- Whether a request can be made to an address with a host. -/
def isRequestable (u : Url) : Bool :=
  (u.scheme == "http".toList || u.scheme == "https".toList)
    && u.host?.any (·.text.all isNameable) && decide (u.text.length ≤ longest)

/-- **The endpoint a text names**, or why nothing can be posted there. -/
def ofText (s : String) : Except EndpointFault Endpoint :=
  match Url.ofText? s.toList with
  | none => .error .notAbsolute
  | some u =>
    let u := u.withoutCredentials
    if isRequestable u then .ok ⟨u⟩ else .error (.unsupported u.render)

end Endpoint

end Herald
