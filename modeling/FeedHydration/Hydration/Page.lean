import FeedHydration.Hydration.Embed
import FeedHydration.Skeleton.Basic

/-!
Hydrating a page of skeleton items. Posts and reposts are loaded first, since only the stored posts
tell what they reply to; then the posts replied to, the accounts, and the labels of all of them;
last the embeds of every post that was loaded.
-/

namespace FeedHydration

open Std (ExtTreeMap)

/-- All that is known about a page of items. -/
structure Hydration where
  posts : ExtTreeMap AtUri Post
  reposts : ExtTreeMap AtUri Repost
  actors : ExtTreeMap Did Actor
  labels : LabelSet
  embeds : ExtTreeMap AtUri EmbedView

namespace Hydration

def empty : Hydration := ⟨∅, ∅, ∅, LabelSet.empty, ∅⟩

/-- The posts that some posts reply to and that are not among them. -/
def ancestors (posts : ExtTreeMap AtUri Post) : List AtUri :=
  ((posts.values.filterMap Post.ancestors?).flatMap fun a => [a.root, a.parent]).filter
    (!posts.contains ·)

/-- The accounts that matter to a page: authors, reposters, and those who are replied to. -/
def accounts (items : List SkeletonItem) (reposts : ExtTreeMap AtUri Repost)
    (ancestors : List AtUri) : List Did :=
  items.map (·.author) ++ reposts.values.map (·.originator) ++ ancestors.map (·.authority)

/-- What is looked up for labels. -/
def labelSubjects (accounts : List Did) (posts ancestors : List AtUri) : List String :=
  accounts.map (·.text) ++ posts.map (·.text) ++ ancestors.map (·.text)

end Hydration

namespace Fetch

def hydrate (images : ImageService) (nameBytes : Nat) (items : List SkeletonItem)
    (viewer : Option Did) : Fetch Hydration := do
  if items.isEmpty then return Hydration.empty
  let uris := items.map (·.post)
  let posts ← loadPosts uris viewer
  let reposts ← loadReposts (items.filterMap (·.repost))
  let ancestors := Hydration.ancestors posts
  let accounts := Hydration.accounts items reposts ancestors
  let ancestorPosts ← loadPosts ancestors viewer
  let actors ← loadActors nameBytes accounts viewer .withoutLabels
  let labels ← labelSet (Hydration.labelSubjects accounts uris ancestors)
  let posts := posts ∪ ancestorPosts
  let embeds ← embeds images nameBytes posts.values viewer actors labels
  return ⟨posts, reposts, actors, labels, embeds⟩

end Fetch

end FeedHydration
