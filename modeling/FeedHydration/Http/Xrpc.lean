import FeedHydration.Json.Decoder
import FeedHydration.Url.Basic

/-!
The conventions of XRPC calls: where a method is found, how an error body looks, and which status
codes have a meaning.
-/

namespace FeedHydration

structure XrpcError where
  error : String
  message : Option String
deriving DecidableEq

namespace XrpcError

def ofNode? (node : JsonNode) : Option XrpcError := do
  let r ← node.record? ["error", "message"]
  let error ← r.required? "error" JsonNode.str?
  let message ← r.trailing? "message" JsonNode.str?
  some ⟨error, message⟩

def toJson (e : XrpcError) : Json :=
  Json.record [("error", some (.str e.error)), ("message", e.message.map .str)]

def ofBody? (body : Bytes) : Option XrpcError := do
  ofNode? (← JsonNode.ofBytes? body)

def describe (e : XrpcError) : String :=
  match e.message with
  | some message => e.error ++ ": " ++ message
  | none => e.error

end XrpcError

namespace Xrpc

def knownStatuses : List Nat :=
  [200, 400, 401, 403, 404, 413, 429, 500, 501, 502, 503, 504]

def isKnownStatus (status : Nat) : Bool :=
  knownStatuses.contains status

/-- The url of a method below a base url. Slashes at the end of the base are not doubled, its query
is replaced, and an empty query is left out. -/
def endpointUrl (base : Url) (method : String) (query : Option (List Char)) : Url :=
  let path := Text.trimEnd '/' base.path.render ++ "/xrpc/".toList ++ method.toList
  (base.withPath path).withQuery (query.filter (!·.isEmpty))

end Xrpc

end FeedHydration
