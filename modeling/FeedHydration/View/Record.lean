import FeedHydration.View.Profile

/-!
Views of records that an embed can show: posts, feed generators and lists, and what stands in the
place of a record that is missing or hidden by a block.
-/

namespace FeedHydration

structure ListView where
  uri : AtUri
  cid : Cid
  creator : ProfileView
  name : String
  purpose : String
  description : Option String
  avatar : Option String
  indexedAt : Instant
  labels : List Label
deriving DecidableEq

namespace ListView

def members : List String :=
  ["uri", "cid", "creator", "name", "purpose", "description", "avatar", "indexedAt", "labels"]

def ofNode? (node : JsonNode) : Option ListView := do
  let r ← node.record? members
  let uri ← r.required? "uri" AtUri.ofNode?
  let cid ← r.required? "cid" Cid.ofNode?
  let creator ← r.required? "creator" ProfileView.ofNode?
  let name ← r.required? "name" JsonNode.str?
  let purpose ← r.required? "purpose" JsonNode.str?
  let description ← r.trailing? "description" JsonNode.str?
  let avatar ← r.trailing? "avatar" JsonNode.str?
  let indexedAt ← r.required? "indexedAt" Instant.ofNode?
  let labels ← r.defaulted? "labels" (JsonNode.list? Label.ofNode?) []
  some ⟨uri, cid, creator, name, purpose, description, avatar, indexedAt, labels⟩

def toJson (view : ListView) : Json :=
  Json.record [
    ("uri", some view.uri.toJson),
    ("cid", some view.cid.toJson),
    ("creator", some view.creator.toJson),
    ("name", some (.str view.name)),
    ("purpose", some (.str view.purpose)),
    ("description", view.description.map .str),
    ("avatar", view.avatar.map .str),
    ("indexedAt", some view.indexedAt.toJson),
    ("labels", Json.items? Label.toJson view.labels)]

end ListView

structure GeneratorViewer where
  like : Option AtUri
deriving DecidableEq

namespace GeneratorViewer

def ofNode? (node : JsonNode) : Option GeneratorViewer := do
  let r ← node.record? ["like"]
  let like ← r.trailing? "like" AtUri.ofNode?
  some ⟨like⟩

def toJson (view : GeneratorViewer) : Json :=
  Json.record [("like", view.like.map AtUri.toJson)]

end GeneratorViewer

structure GeneratorView where
  uri : AtUri
  cid : Cid
  did : Did
  creator : ProfileView
  displayName : String
  description : Option String
  avatar : Option String
  likeCount : Nat
  viewer : Option GeneratorViewer
  indexedAt : Instant
  labels : List Label
deriving DecidableEq

namespace GeneratorView

def members : List String :=
  ["uri", "cid", "did", "creator", "displayName", "description", "avatar", "likeCount", "viewer",
    "indexedAt", "labels"]

def ofNode? (node : JsonNode) : Option GeneratorView := do
  let r ← node.record? members
  let uri ← r.required? "uri" AtUri.ofNode?
  let cid ← r.required? "cid" Cid.ofNode?
  let did ← r.required? "did" Did.ofNode?
  let creator ← r.required? "creator" ProfileView.ofNode?
  let displayName ← r.required? "displayName" JsonNode.str?
  let description ← r.trailing? "description" JsonNode.str?
  let avatar ← r.trailing? "avatar" JsonNode.str?
  let likeCount ← r.required? "likeCount" JsonNode.count?
  let viewer ← r.trailing? "viewer" GeneratorViewer.ofNode?
  let indexedAt ← r.required? "indexedAt" Instant.ofNode?
  let labels ← r.defaulted? "labels" (JsonNode.list? Label.ofNode?) []
  some ⟨uri, cid, did, creator, displayName, description, avatar, likeCount, viewer, indexedAt,
    labels⟩

def toJson (view : GeneratorView) : Json :=
  Json.record [
    ("uri", some view.uri.toJson),
    ("cid", some view.cid.toJson),
    ("did", some view.did.toJson),
    ("creator", some view.creator.toJson),
    ("displayName", some (.str view.displayName)),
    ("description", view.description.map .str),
    ("avatar", view.avatar.map .str),
    ("likeCount", some (Json.nat view.likeCount)),
    ("viewer", view.viewer.map GeneratorViewer.toJson),
    ("indexedAt", some view.indexedAt.toJson),
    ("labels", Json.items? Label.toJson view.labels)]

end GeneratorView

/-- An embedded post. What it embeds itself is left inside `value`. -/
structure QuoteView where
  uri : AtUri
  cid : Cid
  author : ProfileView
  value : Json
  labels : List Label
  replyCount : Nat
  repostCount : Nat
  likeCount : Nat
  indexedAt : Instant
deriving DecidableEq

namespace QuoteView

def members : List String :=
  ["uri", "cid", "author", "value", "labels", "replyCount", "repostCount", "likeCount",
    "indexedAt"]

def ofNode? (node : JsonNode) : Option QuoteView := do
  let r ← node.record? members
  let uri ← r.required? "uri" AtUri.ofNode?
  let cid ← r.required? "cid" Cid.ofNode?
  let author ← r.required? "author" ProfileView.ofNode?
  let value ← r.required? "value" JsonNode.toJson?
  let labels ← r.defaulted? "labels" (JsonNode.list? Label.ofNode?) []
  let replyCount ← r.required? "replyCount" JsonNode.count?
  let repostCount ← r.required? "repostCount" JsonNode.count?
  let likeCount ← r.required? "likeCount" JsonNode.count?
  let indexedAt ← r.required? "indexedAt" Instant.ofNode?
  some ⟨uri, cid, author, value, labels, replyCount, repostCount, likeCount, indexedAt⟩

def toJson (view : QuoteView) : Json :=
  Json.record [
    ("uri", some view.uri.toJson),
    ("cid", some view.cid.toJson),
    ("author", some view.author.toJson),
    ("value", some view.value),
    ("labels", Json.items? Label.toJson view.labels),
    ("replyCount", some (Json.nat view.replyCount)),
    ("repostCount", some (Json.nat view.repostCount)),
    ("likeCount", some (Json.nat view.likeCount)),
    ("indexedAt", some view.indexedAt.toJson)]

end QuoteView

/-- Stands for a record that is not there. -/
structure MissingRecord where
  uri : AtUri
  notFound : Bool := true
deriving DecidableEq

namespace MissingRecord

def ofNode? (node : JsonNode) : Option MissingRecord := do
  let r ← node.record? ["uri", "notFound"]
  let uri ← r.required? "uri" AtUri.ofNode?
  let notFound ← r.required? "notFound" JsonNode.bool?
  some ⟨uri, notFound⟩

def toJson (view : MissingRecord) : Json :=
  Json.object [("uri", view.uri.toJson), ("notFound", .bool view.notFound)]

end MissingRecord

/-- Stands for a record whose author and the viewer are apart by a block. -/
structure BlockedRecord where
  uri : AtUri
  blocked : Bool := true
  author : BlockedAuthor
deriving DecidableEq

namespace BlockedRecord

def ofNode? (node : JsonNode) : Option BlockedRecord := do
  let r ← node.record? ["uri", "blocked", "author"]
  let uri ← r.required? "uri" AtUri.ofNode?
  let blocked ← r.required? "blocked" JsonNode.bool?
  let author ← r.required? "author" BlockedAuthor.ofNode?
  some ⟨uri, blocked, author⟩

def toJson (view : BlockedRecord) : Json :=
  Json.object [
    ("uri", view.uri.toJson),
    ("blocked", .bool view.blocked),
    ("author", view.author.toJson)]

end BlockedRecord

/-- The place of an embedded record. -/
inductive RecordSlot where
  | quote (view : QuoteView)
  | missing (view : MissingRecord)
  | blocked (view : BlockedRecord)
  | generator (view : GeneratorView)
  | list (view : ListView)
deriving DecidableEq

namespace RecordSlot

def variants : List String :=
  ["app.bsky.embed.record#viewRecord", "app.bsky.embed.record#viewNotFound",
    "app.bsky.embed.record#viewBlocked", "app.bsky.feed.defs#generatorView",
    "app.bsky.graph.defs#listView"]

def ofNode? (form : JsonNode.TagForm) (node : JsonNode) : Option RecordSlot := do
  let ⟨tag, content⟩ ← node.tagged? form variants
  match tag with
  | "app.bsky.embed.record#viewRecord" => quote <$> QuoteView.ofNode? content
  | "app.bsky.embed.record#viewNotFound" => missing <$> MissingRecord.ofNode? content
  | "app.bsky.embed.record#viewBlocked" => blocked <$> BlockedRecord.ofNode? content
  | "app.bsky.feed.defs#generatorView" => generator <$> GeneratorView.ofNode? content
  | "app.bsky.graph.defs#listView" => list <$> ListView.ofNode? content
  | _ => none

def toJson : RecordSlot → Json
  | quote view => view.toJson.tagged "app.bsky.embed.record#viewRecord"
  | missing view => view.toJson.tagged "app.bsky.embed.record#viewNotFound"
  | blocked view => view.toJson.tagged "app.bsky.embed.record#viewBlocked"
  | generator view => view.toJson.tagged "app.bsky.feed.defs#generatorView"
  | list view => view.toJson.tagged "app.bsky.graph.defs#listView"

/-- The uri of the record, whether it is shown or not. -/
def uri : RecordSlot → AtUri
  | quote view => view.uri
  | missing view => view.uri
  | blocked view => view.uri
  | generator view => view.uri
  | list view => view.uri

end RecordSlot

end FeedHydration
