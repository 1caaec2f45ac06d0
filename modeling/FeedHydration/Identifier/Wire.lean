import FeedHydration.Identifier.AtUri
import FeedHydration.Json.Decoder
import FeedHydration.Time.Instant

/-!
The JSON forms of identifiers and instants: strings, and for a pinned record an object of two.
-/

namespace FeedHydration

def Did.ofNode? (node : JsonNode) : Option Did := do
  (Did.parse (← node.str?)).toOption

def Did.toJson (did : Did) : Json := .str did.text

def Cid.ofNode? (node : JsonNode) : Option Cid := do
  (Cid.parse (← node.str?)).toOption

def Cid.toJson (cid : Cid) : Json := .str cid.text

def AtUri.ofNode? (node : JsonNode) : Option AtUri := do
  (AtUri.parse (← node.str?)).toOption

def AtUri.toJson (uri : AtUri) : Json := .str uri.text

def Instant.ofNode? (node : JsonNode) : Option Instant := do
  Instant.parse? (← node.str?)

def Instant.toJson (t : Instant) : Json := .str t.text

namespace StrongRef

def ofNode? (node : JsonNode) : Option StrongRef := do
  let r ← node.record? ["uri", "cid"]
  let uri ← r.required? "uri" AtUri.ofNode?
  let cid ← r.required? "cid" Cid.ofNode?
  some ⟨uri, cid⟩

def toJson (ref : StrongRef) : Json :=
  Json.object [("uri", ref.uri.toJson), ("cid", ref.cid.toJson)]

end StrongRef

end FeedHydration
