import FeedHydration.Feed.Outcome
import FeedHydration.Hydration.Page

/-!
Which items of a skeleton may be shown. An item is dropped if anything of its own is missing; else
if a block stands between the viewer and its author or reposter, or the viewer blocks someone it
replies to; else if the viewer mutes its author or reposter. The order of the items stays.
-/

namespace FeedHydration

inductive Verdict where
  | keep
  | notHydrated
  | blocked
  | muted
deriving DecidableEq

namespace Hydration

/-- The account that reposted an item. -/
def reposter? (h : Hydration) (repost : AtUri) : Option Actor := do
  h.actors[(← h.reposts[repost]?).originator]?

/-- Whether the viewer blocks the owner of a record. -/
def ownerIsBlocked (h : Hydration) (uri : AtUri) : Bool :=
  h.actors[uri.authority]?.any Actor.isBlockedByViewer

def repliesToBlocked (h : Hydration) (post : Post) : Bool :=
  post.ancestors?.any fun a => h.ownerIsBlocked a.root || h.ownerIsBlocked a.parent

/-- The verdict on a post of an author, reposted by some of `reposters`. -/
def judgePost (h : Hydration) (post : Post) (author : Actor) (reposters : List Actor) : Verdict :=
  if author.hasBlock || reposters.any Actor.hasBlock then .blocked
  else if h.repliesToBlocked post then .blocked
  else if author.isMuted || reposters.any Actor.isMuted then .muted
  else .keep

def judge (h : Hydration) (item : SkeletonItem) : Verdict :=
  match h.posts[item.post]? with
  | none => .notHydrated
  | some post =>
    match h.actors[post.author]? with
    | none => .notHydrated
    | some author =>
      match item.repost with
      | none => h.judgePost post author []
      | some repost =>
        match h.reposter? repost with
        | none => .notHydrated
        | some reposter => h.judgePost post author [reposter]

end Hydration

/-- The items that may be shown, and how many of the others were dropped, by reason. -/
structure Filtered where
  items : List SkeletonItem
  omitted : OmittedCounts
deriving DecidableEq

def Hydration.applyRules (h : Hydration) (items : List SkeletonItem) : Filtered where
  items := items.filter fun item => h.judge item = .keep
  omitted := {
    notHydrated := items.countP fun item => h.judge item = .notHydrated
    blocked := items.countP fun item => h.judge item = .blocked
    muted := items.countP fun item => h.judge item = .muted
    malformed := 0 }

end FeedHydration
