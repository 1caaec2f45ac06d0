import FeedHydration.Http.Headers
import FeedHydration.Http.Status
import FeedHydration.Text.Utf8
import FeedHydration.Url.Basic

/-!
One exchange with a service: the request sent, the reply that comes back after a delay, and the ways
in which an exchange fails.
-/

namespace FeedHydration

/-- A request that asks for a resource and carries no body. -/
structure HttpRequest where
  url : Url
  headers : Headers
deriving DecidableEq

structure HttpReply where
  status : Nat
  headers : Headers
  body : Bytes
deriving DecidableEq

inductive TransportError where
  | connect (reason : String)
  | timeout
  | invalidRequest (reason : String)
  | client (reason : String)
  | status (code : Nat) (body : Option Bytes)
deriving DecidableEq

namespace TransportError

/-- A reply is described by its status and, where it is text, its body. -/
def describeReply (code : Nat) (body : Option Bytes) : String :=
  "HTTP " ++ HttpStatus.describe code ++ ((body.bind Utf8.decode?).elim "" (":\n" ++ ·))

def message : TransportError → String
  | connect reason => "Connection error: " ++ reason
  | timeout => "Request timeout"
  | invalidRequest reason => "Invalid request: " ++ reason
  | client reason => "Transport error: " ++ reason
  | status code body => "Transport error: " ++ describeReply code body

def code : TransportError → String
  | connect _ => "weft_common::transport::connect"
  | timeout => "weft_common::transport::timeout"
  | invalidRequest _ => "weft_common::transport::invalid_request"
  | client _ | status .. => "weft_common::transport::other"

end TransportError

/-- How a service answers: a reply, or a failure with its reason, after some milliseconds. -/
structure Answer where
  delay : Nat
  result : Except String HttpReply

namespace HttpRequest

/-- The address of a request has at most this many bytes. -/
def maxTargetBytes : Nat := 65534

/-- A host of a url may hold quotation marks, back quotes and braces, that of an address may not. -/
def isTarget (url : Url) : Bool :=
  url.host.all fun host => !host.render.any ("\"\x60\x7b\x7d".toList.contains ·)

/-- A request for a url that asks for JSON. A fragment counts for the length of the address, but is
not sent. -/
def getJson (url : Url) : Except TransportError HttpRequest :=
  if maxTargetBytes < Text.byteSize url.render then .error (.invalidRequest "uri too long")
  else if !isTarget url then .error (.invalidRequest "invalid uri character")
  else .ok ⟨url.withoutFragment, ⟨[(HeaderName.accept, "application/json")]⟩⟩

end HttpRequest

end FeedHydration
