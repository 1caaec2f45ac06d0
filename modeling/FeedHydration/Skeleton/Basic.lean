import FeedHydration.Feed.Error
import FeedHydration.Http.Xrpc
import FeedHydration.Identifier.Wire

/-!
Skeletons: what a generator answers, a list of posts to show, each by itself or because someone
reposted it. A reply is read as a whole; one entry that is not right makes it no skeleton.
-/

namespace FeedHydration

structure SkeletonItem where
  post : AtUri
  repost : Option AtUri
  feedContext : Option String
deriving DecidableEq

namespace SkeletonItem

def author (item : SkeletonItem) : Did :=
  item.post.authority

/-- The account that reposted the post. -/
def originator? (item : SkeletonItem) : Option Did :=
  item.repost.map (·.authority)

def reasonVariants : List String := ["app.bsky.feed.defs#skeletonReasonRepost"]

/-- The repost record of a reason; other reasons have none. -/
def reason? (node : JsonNode) : Option (Option AtUri) := do
  let ⟨tag, content⟩ ← node.tagged? .name reasonVariants
  match tag with
  | "app.bsky.feed.defs#skeletonReasonRepost" =>
    let r ← content.record? ["repost"]
    some <$> r.required? "repost" AtUri.ofNode?
  | _ => if content.isBareContent then some none else none

def ofNode? (node : JsonNode) : Option SkeletonItem := do
  let r ← node.record? ["post", "reason", "feedContext"]
  let post ← r.required? "post" AtUri.ofNode?
  let reason ← r.trailing? "reason" reason?
  let feedContext ← r.trailing? "feedContext" JsonNode.str?
  some ⟨post, reason.join, feedContext⟩

end SkeletonItem

/-- `passthrough` is what the generator sent beside the entries and the cursor. -/
structure Skeleton where
  items : List SkeletonItem
  cursor : Option String
  passthrough : List (String × Json)
  contentLanguage : Option String
deriving DecidableEq

namespace Skeleton

def members : List String := ["feed", "cursor"]

def ofNode? (contentLanguage : Option String) (node : JsonNode) : Option Skeleton := do
  let passthrough ← node.extras? members
  let r ← node.record? members
  let items ← r.required? "feed" (JsonNode.list? SkeletonItem.ofNode?)
  let cursor ← r.trailing? "cursor" JsonNode.str?
  some ⟨items, cursor, passthrough, contentLanguage⟩

/-- What a refusal of the generator means. -/
def refusal (status : Nat) (body : Bytes) : FeedError :=
  match XrpcError.ofBody? body with
  | some e =>
    if status = HttpStatus.badRequest ∧ e.error = "UnknownFeed" then .unknownFeed e.message
    else .refused status e.error e.message
  | none => .refused status ((HttpStatus.reason? status).getD "Unknown") none

/-- A status without a meaning says that the generator is not there; any other than 200 is a
refusal; and what comes with 200 must be a skeleton. -/
def ofReply (reply : HttpReply) : Except FeedError Skeleton :=
  if !Xrpc.isKnownStatus reply.status then
    .error (.feedUnavailable (.status reply.status (some reply.body)))
  else if reply.status ≠ HttpStatus.ok then .error (refusal reply.status reply.body)
  else
    match (JsonNode.ofBytes? reply.body).bind
        (ofNode? (reply.headers.first? HeaderName.contentLanguage)) with
    | some skeleton => .ok skeleton
    | none => .error (.invalidFeedResponse "not a feed skeleton")

end Skeleton

end FeedHydration
