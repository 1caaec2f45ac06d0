import FeedHydration.Feed.Rules
import FeedHydration.Skeleton.Request

/-!
Assembling a page: the items that may be shown become entries, up to the limit of the page. An item
that cannot be shown after all is passed over and counted.
-/

namespace FeedHydration

namespace Hydration

def display (h : Hydration) (images : ImageService) : Display :=
  ⟨images, h.labels⟩

/-- What is shown in the place of a post that is replied to. -/
def replySlot (h : Hydration) (images : ImageService) (uri : AtUri) : ReplySlot :=
  match h.posts[uri]? with
  | none => .missing { uri := uri }
  | some post =>
    match h.actors[post.author]? with
    | none => .missing { uri := uri }
    | some author =>
      if author.hasBlock then
        .blocked { uri := uri, author := Display.blockedAuthor post.author (some author) }
      else
        match (h.display images).postView? post author h.embeds[uri]? with
        | some view => .post view
        | none => .missing { uri := uri }

/-- Who reposted an item and when; an item that is no repost has no reason. -/
def reason? (h : Hydration) (images : ImageService) (item : SkeletonItem) :
    Option (Option RepostReason) :=
  match item.repost with
  | none => some none
  | some uri => do
    let repost ← h.reposts[uri]?
    let reposter ← h.actors[repost.originator]?
    some (some ⟨(h.display images).profile reposter, repost.indexedAt⟩)

def entryOf? (h : Hydration) (images : ImageService) (item : SkeletonItem) : Option FeedEntry := do
  let post ← h.posts[item.post]?
  let author ← h.actors[post.author]?
  let view ← (h.display images).postView? post author h.embeds[post.uri]?
  let reply := post.ancestors?.map fun a =>
    ⟨h.replySlot images a.root, h.replySlot images a.parent⟩
  let reason ← h.reason? images item
  some ⟨view, reply, reason, item.feedContext⟩

end Hydration

/-- The entries of a page, and how many items were passed over before it was full. -/
structure Assembled where
  entries : List FeedEntry
  malformed : Nat

/-- Takes entries until there are `limit` of them. -/
def Assembled.ofItems (entryOf? : SkeletonItem → Option FeedEntry) :
    (limit : Nat) → List SkeletonItem → Assembled
  | 0, _ => ⟨[], 0⟩
  | _ + 1, [] => ⟨[], 0⟩
  | limit + 1, item :: items =>
    match entryOf? item with
    | some entry =>
      let rest := ofItems entryOf? limit items
      ⟨entry :: rest.entries, rest.malformed⟩
    | none =>
      let rest := ofItems entryOf? (limit + 1) items
      ⟨rest.entries, rest.malformed + 1⟩

namespace FeedOutcome

/-- Headers for the client: how long the stages took, and the language the generator answered in. -/
def headersOf (timings : StageTimings) (contentLanguage : Option String) : Headers :=
  ⟨(HeaderName.serverTiming, timings.serverTiming) ::
    (contentLanguage.map fun language => (HeaderName.contentLanguage, language)).toList⟩

def assemble (images : ImageService) (skeleton : Skeleton) (filtered : Filtered) (h : Hydration)
    (limit : Nat) (timings : StageTimings) : FeedOutcome :=
  let assembled := Assembled.ofItems (h.entryOf? images) limit filtered.items
  { page := ⟨skeleton.passthrough, assembled.entries, skeleton.cursor⟩
    headers := headersOf timings skeleton.contentLanguage
    omitted := { filtered.omitted with
      malformed := filtered.omitted.malformed + assembled.malformed }
    timings := timings }

end FeedOutcome

/-- A service that turns skeletons into pages. -/
structure FeedService where
  options : FeedOptions
  images : ImageService

namespace FeedService

def hydrate (service : FeedService) (items : List SkeletonItem) (viewer : Option Did) :
    Fetch Hydration :=
  Fetch.hydrate service.images service.options.displayNameBytes items viewer

/-- A page of a feed: skeleton, hydration, rules and assembly. -/
def page (service : FeedService) (request : FeedRequest) : Serve FeedOutcome := do
  let limit := service.options.clampLimit request.limit
  let skeleton ← Serve.skeleton service.options request limit
  let h ← Serve.fetch (service.hydrate skeleton.items request.viewer)
  let s ← Serve.surroundings
  return FeedOutcome.assemble service.images skeleton (h.applyRules skeleton.items) h limit
    s.timings

/-- A page of a feed for a client that may give up. -/
def serve (service : FeedService) (request : FeedRequest) : Serve FeedOutcome :=
  Serve.unlessGivenUp (service.page request)

end FeedService

end FeedHydration
