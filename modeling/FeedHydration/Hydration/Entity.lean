import FeedHydration.Hydration.Relationship

/-!
What a request knows about accounts, posts, reposts, feed generators and lists once they are loaded.
Only what may be shown becomes an entity: taken down rows and rows of hidden accounts do not.
-/

namespace FeedHydration

structure AccountList where
  uri : AtUri
  cid : Cid
  creator : Did
  name : String
  purpose : String
  description : Option String
  avatar : Option Cid
  indexedAt : Instant
  viewerMuted : Bool
  viewerBlocked : Option AtUri
deriving DecidableEq

def AccountList.ofRow (uri : AtUri) (row : ListRow) : AccountList where
  uri := uri
  cid := row.cid
  creator := uri.authority
  name := row.name
  purpose := row.purpose
  description := row.description
  avatar := row.avatar
  indexedAt := row.indexedAt
  viewerMuted := row.viewerMuted
  viewerBlocked := row.viewerBlocked

/-- An account. Without a viewer it has no relationship; `labels` is absent if the labels of the
request are kept apart from the accounts. -/
structure Actor where
  did : Did
  handle : String
  displayName : Option String
  description : Option String
  avatar : Option Cid
  indexedAt : Option Instant
  relationship : Option Relationship
  mutedByList : Option AccountList
  labels : Option (List Label)
deriving DecidableEq

namespace Actor

/-- The handle of an account whose handle was not verified. -/
def invalidHandle : String := "handle.invalid"

def hasBlock (actor : Actor) : Bool :=
  actor.relationship.any Relationship.hasBlock

def isBlockedByViewer (actor : Actor) : Bool :=
  actor.relationship.any (·.blocking.isSome)

def isMuted (actor : Actor) : Bool :=
  actor.relationship.any Relationship.isMuted

end Actor

structure Post where
  uri : AtUri
  cid : Cid
  author : Did
  body : Bytes
  createdAt : Instant
  indexedAt : Instant
  replyRoot : Option StrongRef
  replyParent : Option StrongRef
  likeCount : Nat
  repostCount : Nat
  replyCount : Nat
  viewerLike : Option AtUri
  viewerRepost : Option AtUri
deriving DecidableEq

namespace Post

def ofRow (uri : AtUri) (row : PostRow) : Post where
  uri := uri
  cid := row.cid
  author := uri.authority
  body := row.record
  createdAt := row.createdAt
  indexedAt := row.indexedAt
  replyRoot := row.replyRoot
  replyParent := row.replyParent
  likeCount := row.likeCount
  repostCount := row.repostCount
  replyCount := row.replyCount
  viewerLike := row.viewerLike
  viewerRepost := row.viewerRepost

/-- The posts that a reply leads to. -/
structure Ancestors where
  root : AtUri
  parent : AtUri
deriving DecidableEq

/-- A post with a parent is a reply; its thread starts at the parent if no root is stored. -/
def ancestors? (post : Post) : Option Ancestors :=
  post.replyParent.map fun parent => ⟨(post.replyRoot.getD parent).uri, parent.uri⟩

end Post

structure Repost where
  uri : AtUri
  originator : Did
  subject : StrongRef
  indexedAt : Instant
deriving DecidableEq

def Repost.ofRow (uri : AtUri) (row : RepostRow) : Repost where
  uri := uri
  originator := uri.authority
  subject := row.subject
  indexedAt := row.indexedAt

structure Generator where
  uri : AtUri
  cid : Cid
  creator : Did
  serviceDid : Did
  displayName : String
  description : Option String
  avatar : Option Cid
  likeCount : Nat
  viewerLike : Option AtUri
  indexedAt : Instant
deriving DecidableEq

def Generator.ofRow (uri : AtUri) (row : GeneratorRow) : Generator where
  uri := uri
  cid := row.cid
  creator := uri.authority
  serviceDid := row.serviceDid
  displayName := row.displayName
  description := row.description
  avatar := row.avatar
  likeCount := row.likeCount
  viewerLike := row.viewerLike
  indexedAt := row.indexedAt

end FeedHydration
