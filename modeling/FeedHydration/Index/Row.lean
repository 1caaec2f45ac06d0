import FeedHydration.Identifier.AtUri
import FeedHydration.Text.Utf8
import FeedHydration.Time.Instant

/-!
Rows of the index: what is stored about accounts, posts, reposts, feed generators and lists, and the
edges of the social graph. A row stands in its table under its did or uri and does not repeat it.
The viewer's part of a row is filled in when the row is read.
-/

namespace FeedHydration

/-- An account. Its handle is absent if it was not verified. -/
structure ActorRow where
  handle : Option String
  displayName : Option String
  description : Option String
  avatar : Option Cid
  indexedAt : Option Instant
  takenDown : Bool
  softDeleted : Bool
deriving DecidableEq

/-- Whether an account may be shown at all. -/
def ActorRow.isVisible (row : ActorRow) : Bool :=
  !row.takenDown && !row.softDeleted

/-- A post; `record` is its body as stored. -/
structure PostRow where
  cid : Cid
  record : Bytes
  createdAt : Instant
  indexedAt : Instant
  replyRoot : Option StrongRef
  replyParent : Option StrongRef
  likeCount : Nat
  repostCount : Nat
  replyCount : Nat
  viewerLike : Option AtUri
  viewerRepost : Option AtUri
  takenDown : Bool
deriving DecidableEq

structure RepostRow where
  subject : StrongRef
  indexedAt : Instant
deriving DecidableEq

/-- A feed generator; the service with this did answers for it. -/
structure GeneratorRow where
  cid : Cid
  serviceDid : Did
  displayName : String
  description : Option String
  avatar : Option Cid
  likeCount : Nat
  viewerLike : Option AtUri
  indexedAt : Instant
  takenDown : Bool
deriving DecidableEq

structure ListRow where
  cid : Cid
  name : String
  purpose : String
  description : Option String
  avatar : Option Cid
  indexedAt : Instant
  viewerMuted : Bool
  viewerBlocked : Option AtUri
  takenDown : Bool
deriving DecidableEq

/-- A record by which one account blocks or follows another. -/
structure GraphEdge where
  uri : AtUri
  creator : Did
  subject : Did
deriving DecidableEq

structure Mute where
  creator : Did
  subject : Did
deriving DecidableEq

/-- A subscriber mutes everyone on a list. -/
structure Subscription where
  subscriber : Did
  list : AtUri
deriving DecidableEq

structure ListItem where
  list : AtUri
  member : Did
deriving DecidableEq

/-- A record by which an account likes another record. -/
structure Like where
  creator : Did
  subject : AtUri
  uri : AtUri
deriving DecidableEq

end FeedHydration
