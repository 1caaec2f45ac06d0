import FeedHydration.Identifier.Wire
import FeedHydration.Url.Reader

/-!
Did documents, as far as they tell where the services of an account are. Members that are not
modelled are kept as they are.
-/

namespace FeedHydration

structure Service where
  id : String
  type : String
  endpoint : Option Json
  extra : List (String × Json)
deriving DecidableEq

namespace Service

def members : List String := ["id", "type", "serviceEndpoint"]

def ofNode? (node : JsonNode) : Option Service := do
  let extra ← node.extras? members
  let r ← node.record? members
  let id ← r.required? "id" JsonNode.str?
  let type ← r.required? "type" JsonNode.str?
  let endpoint ← r.trailing? "serviceEndpoint" JsonNode.toJson?
  some ⟨id, type, endpoint, extra⟩

def toJson (service : Service) : Json :=
  Json.record ([
    ("id", some (.str service.id)),
    ("type", some (.str service.type)),
    ("serviceEndpoint", service.endpoint)] ++
    service.extra.map fun member => (member.1, some member.2))

/-- The endpoint is a string, or an object with a string `url`; it must be an absolute url of the
web. -/
def url? (service : Service) : Option Url := do
  let text ←
    match ← service.endpoint with
    | .str text => some text
    | .obj members => do (← (Json.obj members).get? "url").str?
    | _ => none
  let url ← Url.parse? text
  if (url.scheme = "http" ∨ url.scheme = "https") ∧ url.host.isSome then some url else none

end Service

structure DidDocument where
  id : Did
  alsoKnownAs : Option (List String)
  service : Option (List Service)
  extra : List (String × Json)
deriving DecidableEq

namespace DidDocument

def members : List String := ["id", "alsoKnownAs", "service"]

def ofNode? (node : JsonNode) : Option DidDocument := do
  let extra ← node.extras? members
  let r ← node.record? members
  let id ← r.required? "id" Did.ofNode?
  let alsoKnownAs ← r.trailing? "alsoKnownAs" (JsonNode.list? JsonNode.str?)
  let service ← r.trailing? "service" (JsonNode.list? Service.ofNode?)
  some ⟨id, alsoKnownAs, service, extra⟩

def toJson (doc : DidDocument) : Json :=
  Json.record ([
    ("id", some doc.id.toJson),
    ("alsoKnownAs", doc.alsoKnownAs.map fun names => .arr (names.map .str)),
    ("service", doc.service.map fun services => .arr (services.map Service.toJson))] ++
    doc.extra.map fun member => (member.1, some member.2))

/-- Whether an entry is the service of this type and id; the id may be written with the document's
did before it. -/
def isService (doc : DidDocument) (id type : String) (service : Service) : Bool :=
  service.type == type && (service.id == id || service.id == doc.id.text ++ id)

/-- The endpoint of the first entry that is the service. -/
def endpoint? (doc : DidDocument) (id type : String) : Option Url := do
  let service ← (doc.service.getD []).find? (doc.isService id type)
  service.url?

/-- The personal data server of the account. -/
def pdsEndpoint? (doc : DidDocument) : Option Url :=
  doc.endpoint? "#atproto_pds" "AtprotoPersonalDataServer"

end DidDocument

end FeedHydration
