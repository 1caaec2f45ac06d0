import FeedHydration.Identifier.Wire

/-!
Moderation labels. The subject of a label is an account's did or a record's uri; a negation takes an
earlier label of the same labeler and value back.
-/

namespace FeedHydration

structure Label where
  src : Did
  uri : String
  cid : Option Cid
  val : String
  neg : Bool
  cts : Instant
  exp : Option Instant
deriving DecidableEq

namespace Label

/-- A label has no effect from its expiry on. -/
def isExpired (label : Label) (now : Instant) : Bool :=
  label.exp.any (· ≤ now)

def members : List String := ["src", "uri", "cid", "val", "neg", "cts", "exp"]

def ofNode? (node : JsonNode) : Option Label := do
  let r ← node.record? members
  let src ← r.required? "src" Did.ofNode?
  let uri ← r.required? "uri" JsonNode.str?
  let cid ← r.optional? "cid" Cid.ofNode?
  let val ← r.required? "val" JsonNode.str?
  let neg ← r.defaulted? "neg" JsonNode.bool? false
  let cts ← r.required? "cts" Instant.ofNode?
  let exp ← r.optional? "exp" Instant.ofNode?
  some ⟨src, uri, cid, val, neg, cts, exp⟩

def toJson (label : Label) : Json :=
  Json.record [
    ("src", some label.src.toJson),
    ("uri", some (.str label.uri)),
    ("cid", label.cid.map Cid.toJson),
    ("val", some (.str label.val)),
    ("neg", Json.flag? label.neg),
    ("cts", some label.cts.toJson),
    ("exp", label.exp.map Instant.toJson)]

end Label

end FeedHydration
