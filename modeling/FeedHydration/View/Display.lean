import FeedHydration.Hydration.Entity
import FeedHydration.Label.Set
import FeedHydration.Url.Image
import FeedHydration.View.Feed

/-!
Showing entities as views. A display knows where images are found and which labels the request has.
A stored body that is no JSON cannot be shown; nothing else can fail.
-/

namespace FeedHydration

structure Display where
  images : ImageService
  labels : LabelSet

namespace Display

def avatar (d : Display) (did : Did) (cid : Option Cid) : Option String :=
  cid.map (d.images.address .avatar did)

def listSummary (d : Display) (list : AccountList) : ListSummary where
  uri := list.uri
  cid := list.cid
  name := list.name
  purpose := list.purpose
  avatar := d.avatar list.creator list.avatar
  indexedAt := some list.indexedAt

/-- What the viewer and an account are to each other; nothing if there is no viewer. -/
def profileViewer (d : Display) (actor : Actor) : Option ProfileViewer :=
  actor.relationship.map fun r => {
    muted := r.isMuted
    mutedByList := actor.mutedByList.map d.listSummary
    blockedBy := r.blockedBy
    blocking := r.blocking
    following := r.following
    followedBy := r.followedBy }

def profile (d : Display) (actor : Actor) : ProfileView where
  did := actor.did
  handle := actor.handle
  displayName := actor.displayName
  avatar := d.avatar actor.did actor.avatar
  viewer := d.profileViewer actor
  labels := actor.labels.getD (d.labels.get actor.did.text)

/-- The author of a record that is hidden: only the block is shown. -/
def blockedAuthor (did : Did) (actor : Option Actor) : BlockedAuthor where
  did := did
  viewer := (actor.bind (·.relationship)).map fun r => {
    muted := false
    mutedByList := none
    blockedBy := r.blockedBy
    blocking := r.blocking
    following := none
    followedBy := none }

def listView (d : Display) (list : AccountList) (creator : Actor) : ListView where
  uri := list.uri
  cid := list.cid
  creator := d.profile creator
  name := list.name
  purpose := list.purpose
  description := list.description
  avatar := d.avatar list.creator list.avatar
  indexedAt := list.indexedAt
  labels := d.labels.get list.uri.text

def generatorView (d : Display) (generator : Generator) (creator : Actor) : GeneratorView where
  uri := generator.uri
  cid := generator.cid
  did := generator.serviceDid
  creator := d.profile creator
  displayName := generator.displayName
  description := generator.description
  avatar := d.avatar generator.creator generator.avatar
  likeCount := generator.likeCount
  viewer := generator.viewerLike.map fun like => ⟨some like⟩
  indexedAt := generator.indexedAt
  labels := d.labels.get generator.uri.text

def postViewer (post : Post) : Option PostViewer :=
  if post.viewerLike.isSome || post.viewerRepost.isSome then
    some ⟨post.viewerRepost, post.viewerLike⟩
  else none

def postView? (d : Display) (post : Post) (author : Actor) (embed : Option EmbedView) :
    Option PostView := do
  let record ← Json.ofBytes? post.body
  return {
    uri := post.uri
    cid := post.cid
    author := d.profile author
    record := record
    embed := embed
    replyCount := post.replyCount
    repostCount := post.repostCount
    likeCount := post.likeCount
    indexedAt := post.indexedAt
    viewer := postViewer post
    labels := d.labels.get post.uri.text }

def quoteView? (d : Display) (post : Post) (author : Actor) : Option QuoteView := do
  let value ← Json.ofBytes? post.body
  return {
    uri := post.uri
    cid := post.cid
    author := d.profile author
    value := value
    labels := d.labels.get post.uri.text
    replyCount := post.replyCount
    repostCount := post.repostCount
    likeCount := post.likeCount
    indexedAt := post.indexedAt }

/-- An image that an account has posted. -/
def image (d : Display) (did : Did) (posted : PostedImage) : ImageView where
  thumb := d.images.address .feedThumbnail did posted.image.cid
  fullsize := d.images.address .feedFullsize did posted.image.cid
  alt := posted.alt
  aspectRatio := posted.aspectRatio

def link (d : Display) (did : Did) (posted : PostedLink) : LinkView where
  uri := posted.uri
  title := posted.title
  description := posted.description
  thumb := posted.thumb.map fun blob => d.images.address .feedThumbnail did blob.cid

def media (d : Display) (did : Did) : PostedMedia → MediaView
  | .images images => .images (images.map (d.image did))
  | .external link => .external (d.link did link)

end Display

end FeedHydration
