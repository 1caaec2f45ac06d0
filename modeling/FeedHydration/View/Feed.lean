import FeedHydration.View.Embed

/-!
Views of posts in a feed, each with the posts it replies to and the reason why it is there, and the
page that they make up.
-/

namespace FeedHydration

structure PostViewer where
  repost : Option AtUri
  like : Option AtUri
deriving DecidableEq

namespace PostViewer

def ofNode? (node : JsonNode) : Option PostViewer := do
  let r ← node.record? ["repost", "like"]
  let repost ← r.trailing? "repost" AtUri.ofNode?
  let like ← r.trailing? "like" AtUri.ofNode?
  some ⟨repost, like⟩

def toJson (view : PostViewer) : Json :=
  Json.record [
    ("repost", view.repost.map AtUri.toJson),
    ("like", view.like.map AtUri.toJson)]

end PostViewer

/-- A post; `record` is its body as stored. -/
structure PostView where
  uri : AtUri
  cid : Cid
  author : ProfileView
  record : Json
  embed : Option EmbedView
  replyCount : Nat
  repostCount : Nat
  likeCount : Nat
  indexedAt : Instant
  viewer : Option PostViewer
  labels : List Label
deriving DecidableEq

namespace PostView

def members : List String :=
  ["uri", "cid", "author", "record", "embed", "replyCount", "repostCount", "likeCount",
    "indexedAt", "viewer", "labels"]

def ofNode? (form : JsonNode.TagForm) (node : JsonNode) : Option PostView := do
  let r ← node.record? members
  let uri ← r.required? "uri" AtUri.ofNode?
  let cid ← r.required? "cid" Cid.ofNode?
  let author ← r.required? "author" ProfileView.ofNode?
  let record ← r.required? "record" JsonNode.toJson?
  let embed ← r.trailing? "embed" (EmbedView.ofNode? form)
  let replyCount ← r.required? "replyCount" JsonNode.count?
  let repostCount ← r.required? "repostCount" JsonNode.count?
  let likeCount ← r.required? "likeCount" JsonNode.count?
  let indexedAt ← r.required? "indexedAt" Instant.ofNode?
  let viewer ← r.trailing? "viewer" PostViewer.ofNode?
  let labels ← r.defaulted? "labels" (JsonNode.list? Label.ofNode?) []
  some ⟨uri, cid, author, record, embed, replyCount, repostCount, likeCount, indexedAt, viewer,
    labels⟩

def toJson (view : PostView) : Json :=
  Json.record [
    ("uri", some view.uri.toJson),
    ("cid", some view.cid.toJson),
    ("author", some view.author.toJson),
    ("record", some view.record),
    ("embed", view.embed.map EmbedView.toJson),
    ("replyCount", some (Json.nat view.replyCount)),
    ("repostCount", some (Json.nat view.repostCount)),
    ("likeCount", some (Json.nat view.likeCount)),
    ("indexedAt", some view.indexedAt.toJson),
    ("viewer", view.viewer.map PostViewer.toJson),
    ("labels", Json.items? Label.toJson view.labels)]

end PostView

/-- The place of a post that is replied to. -/
inductive ReplySlot where
  | post (view : PostView)
  | missing (view : MissingRecord)
  | blocked (view : BlockedRecord)
deriving DecidableEq

namespace ReplySlot

def variants : List String :=
  ["app.bsky.feed.defs#postView", "app.bsky.feed.defs#notFoundPost",
    "app.bsky.feed.defs#blockedPost"]

def ofNode? (form : JsonNode.TagForm) (node : JsonNode) : Option ReplySlot := do
  let ⟨tag, content⟩ ← node.tagged? form variants
  match tag with
  | "app.bsky.feed.defs#postView" => post <$> PostView.ofNode? .nameOrIndex content
  | "app.bsky.feed.defs#notFoundPost" => missing <$> MissingRecord.ofNode? content
  | "app.bsky.feed.defs#blockedPost" => blocked <$> BlockedRecord.ofNode? content
  | _ => none

def toJson : ReplySlot → Json
  | post view => view.toJson.tagged "app.bsky.feed.defs#postView"
  | missing view => view.toJson.tagged "app.bsky.feed.defs#notFoundPost"
  | blocked view => view.toJson.tagged "app.bsky.feed.defs#blockedPost"

/-- The uri of the post, whether it is shown or not. -/
def uri : ReplySlot → AtUri
  | post view => view.uri
  | missing view => view.uri
  | blocked view => view.uri

end ReplySlot

/-- What a post replies to: the start of the thread and the post above. -/
structure ReplyView where
  root : ReplySlot
  parent : ReplySlot
deriving DecidableEq

namespace ReplyView

def ofNode? (form : JsonNode.TagForm) (node : JsonNode) : Option ReplyView := do
  let r ← node.record? ["root", "parent"]
  let root ← r.required? "root" (ReplySlot.ofNode? form)
  let parent ← r.required? "parent" (ReplySlot.ofNode? form)
  some ⟨root, parent⟩

def toJson (view : ReplyView) : Json :=
  Json.object [("root", view.root.toJson), ("parent", view.parent.toJson)]

end ReplyView

/-- Who put a post of someone else into the feed, and when. -/
structure RepostReason where
  reposter : ProfileView
  indexedAt : Instant
deriving DecidableEq

namespace RepostReason

def variants : List String := ["app.bsky.feed.defs#reasonRepost"]

def ofNode? (form : JsonNode.TagForm) (node : JsonNode) : Option RepostReason := do
  let ⟨tag, content⟩ ← node.tagged? form variants
  match tag with
  | "app.bsky.feed.defs#reasonRepost" =>
    let r ← content.record? ["by", "indexedAt"]
    let reposter ← r.required? "by" ProfileView.ofNode?
    let indexedAt ← r.required? "indexedAt" Instant.ofNode?
    some ⟨reposter, indexedAt⟩
  | _ => none

def toJson (view : RepostReason) : Json :=
  (Json.object [("by", view.reposter.toJson), ("indexedAt", view.indexedAt.toJson)]).tagged
    "app.bsky.feed.defs#reasonRepost"

end RepostReason

/-- An entry of a feed. -/
structure FeedEntry where
  post : PostView
  reply : Option ReplyView
  reason : Option RepostReason
  feedContext : Option String
deriving DecidableEq

namespace FeedEntry

def ofNode? (node : JsonNode) : Option FeedEntry := do
  let r ← node.record? ["post", "reply", "reason", "feedContext"]
  let post ← r.required? "post" (PostView.ofNode? .name)
  let reply ← r.trailing? "reply" (ReplyView.ofNode? .name)
  let reason ← r.trailing? "reason" (RepostReason.ofNode? .name)
  let feedContext ← r.trailing? "feedContext" JsonNode.str?
  some ⟨post, reply, reason, feedContext⟩

def toJson (view : FeedEntry) : Json :=
  Json.record [
    ("post", some view.post.toJson),
    ("reply", view.reply.map ReplyView.toJson),
    ("reason", view.reason.map RepostReason.toJson),
    ("feedContext", view.feedContext.map .str)]

end FeedEntry

/-- A page of a feed. What the generator sent beside the feed and the cursor is handed on. -/
structure FeedPage where
  passthrough : List (String × Json)
  feed : List FeedEntry
  cursor : Option String
deriving DecidableEq

namespace FeedPage

def members : List String := ["feed", "cursor"]

def ofNode? (node : JsonNode) : Option FeedPage := do
  let passthrough ← node.extras? members
  let r ← node.record? members
  let feed ← r.required? "feed" (JsonNode.list? FeedEntry.ofNode?)
  let cursor ← r.trailing? "cursor" JsonNode.str?
  some ⟨passthrough, feed, cursor⟩

def toJson (page : FeedPage) : Json :=
  Json.record (page.passthrough.map (fun member => (member.1, some member.2)) ++ [
    ("feed", some (.arr (page.feed.map FeedEntry.toJson))),
    ("cursor", page.cursor.map .str)])

end FeedPage

end FeedHydration
