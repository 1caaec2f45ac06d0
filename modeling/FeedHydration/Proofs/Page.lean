import FeedHydration.Feed.Assembly
import FeedHydration.Proofs.Allowed
import FeedHydration.Proofs.Hydration

/-!
# Pages

A page that is served is allowed: every entry passed the rules and holds nothing but what the index
says, whichever reads failed on the way to it.
-/

namespace FeedHydration

open Std (ExtTreeMap)

namespace Hydration

variable {index : Index} {images : ImageService} {nameBytes : Nat} {viewer : Option Did}
  {items : List SkeletonItem} {item : SkeletonItem} {h : Hydration}

theorem judgePost_eq_keep {post : Post} {author : Actor} {reposters : List Actor} :
    h.judgePost post author reposters = .keep ↔
      IsAdmitted author ∧ (∀ reposter ∈ reposters, IsAdmitted reposter) ∧
        h.repliesToBlocked post = false := by
  unfold judgePost
  constructor
  · intro hkeep
    split at hkeep
    · cases hkeep
    · split at hkeep
      · cases hkeep
      · split at hkeep
        · cases hkeep
        · rename_i hblock hreply hmute
          simp only [Bool.not_eq_true, Bool.or_eq_false_iff, List.any_eq_false]
            at hblock hreply hmute
          exact ⟨⟨hblock.1, hmute.1⟩, fun reposter hmem =>
            ⟨hblock.2 reposter hmem, hmute.2 reposter hmem⟩, hreply⟩
  · rintro ⟨⟨hblock, hmute⟩, hreposters, hreply⟩
    have hblocks : reposters.any Actor.hasBlock = false :=
      List.any_eq_false.2 fun reposter hmem => by simp [(hreposters reposter hmem).block]
    have hmutes : reposters.any Actor.isMuted = false :=
      List.any_eq_false.2 fun reposter hmem => by simp [(hreposters reposter hmem).mute]
    simp [hblock, hmute, hblocks, hmutes, hreply]

/-- What an item that is kept must have, and what must not stand against it. -/
theorem judge_eq_keep :
    h.judge item = .keep ↔
      ∃ post author, h.posts[item.post]? = some post ∧ h.actors[post.author]? = some author ∧
        IsAdmitted author ∧
        (∀ uri, item.repost = some uri →
          ∃ reposter, h.reposter? uri = some reposter ∧ IsAdmitted reposter) ∧
        h.repliesToBlocked post = false := by
  unfold judge
  cases hpost : h.posts[item.post]? with
  | none => simp
  | some post =>
    cases hauthor : h.actors[post.author]? with
    | none => simp [hauthor]
    | some author =>
      cases hrepost : item.repost with
      | none => simp [hauthor, judgePost_eq_keep]
      | some uri =>
        cases hreposter : h.reposter? uri with
        | none => simp [hauthor, hreposter]
        | some reposter => simp [hauthor, hreposter, judgePost_eq_keep]

theorem admitted_of_judge (hkeep : h.judge item = .keep) :
    ∃ post author, h.posts[item.post]? = some post ∧ h.actors[post.author]? = some author ∧
      IsAdmitted author ∧ ∀ uri reposter, item.repost = some uri →
        h.reposter? uri = some reposter → IsAdmitted reposter := by
  obtain ⟨post, author, hpost, hauthor, hadmitted, hreposter, -⟩ := judge_eq_keep.1 hkeep
  refine ⟨post, author, hpost, hauthor, hadmitted, fun uri reposter huri hfound => ?_⟩
  obtain ⟨reposter', hfound', hadmitted'⟩ := hreposter uri huri
  rw [hfound] at hfound'
  cases hfound'
  exact hadmitted'

/-- The repost that stands behind a reason. -/
theorem reason_of_reason? {reason : RepostReason}
    (hreason : h.reason? images item = some (some reason)) :
    ∃ uri repost reposter, item.repost = some uri ∧ h.reposts[uri]? = some repost ∧
      h.actors[repost.originator]? = some reposter ∧
      reason = ⟨(h.display images).profile reposter, repost.indexedAt⟩ := by
  unfold reason? at hreason
  cases huri : item.repost with
  | none => simp [huri] at hreason
  | some uri =>
    simp only [huri, Option.bind_eq_bind, Option.bind_eq_some_iff] at hreason
    obtain ⟨repost, hrepost, reposter, hreposter, hreason⟩ := hreason
    cases hreason
    exact ⟨uri, repost, reposter, rfl, hrepost, hreposter, rfl⟩

/-- What the entry of an item is made of. -/
structure IsMadeOf (h : Hydration) (images : ImageService) (item : SkeletonItem)
    (entry : FeedEntry) (post : Post) (author : Actor) : Prop where
  post_eq : h.posts[item.post]? = some post
  author_eq : h.actors[post.author]? = some author
  view_eq : (h.display images).postView? post author h.embeds[post.uri]? = some entry.post
  reply : ∀ slot ∈ entry.replySlots, ∃ uri, slot = h.replySlot images uri
  reason_eq : h.reason? images item = some entry.reason
  context_eq : entry.feedContext = item.feedContext

theorem exists_isMadeOf {entry : FeedEntry} (hentry : h.entryOf? images item = some entry) :
    ∃ post author, h.IsMadeOf images item entry post author := by
  simp only [entryOf?, Option.bind_eq_bind, Option.bind_eq_some_iff, Option.some.injEq] at hentry
  obtain ⟨post, hpost, author, hauthor, view, hview, reason, hreason, rfl⟩ := hentry
  refine ⟨post, author, hpost, hauthor, hview, fun slot hslot => ?_, hreason, rfl⟩
  cases ha : post.ancestors? with
  | none => simp [FeedEntry.replySlots, ha] at hslot
  | some a =>
    simp only [FeedEntry.replySlots, ha, Option.map_some, Option.elim_some, List.mem_cons,
      List.not_mem_nil, or_false] at hslot
    obtain rfl | rfl := hslot
    · exact ⟨a.root, rfl⟩
    · exact ⟨a.parent, rfl⟩

theorem IsMadeOf.exists_repost {entry : FeedEntry} {post : Post} {author : Actor}
    {reason : RepostReason} (hmade : h.IsMadeOf images item entry post author)
    (hreason : entry.reason = some reason) :
    ∃ uri repost reposter, item.repost = some uri ∧ h.reposts[uri]? = some repost ∧
      h.actors[repost.originator]? = some reposter ∧
      reason = ⟨(h.display images).profile reposter, repost.indexedAt⟩ :=
  reason_of_reason? (hreason ▸ hmade.reason_eq)

section Sound

variable (hpage : h.IsOf index images nameBytes viewer items)

include hpage

theorem isPostOf {uri : AtUri} {post : Post} {author : Actor} {view : PostView}
    (hpost : h.posts[uri]? = some post) (hauthor : h.actors[uri.authority]? = some author)
    (hview : (h.display images).postView? post author h.embeds[uri]? = some view) :
    IsPostOf index nameBytes viewer (h.display images) uri author view := by
  obtain ⟨-, -, hembed⟩ := Display.fields_of_postView? hview
  refine ⟨⟨post, _, hpage.posts.value_eq hpost, hview⟩, hpage.actors.value_eq hauthor,
    fun slot hslot => ?_⟩
  rw [PostView.slot?, hembed] at hslot
  obtain ⟨embed, hembed, hslot⟩ := Option.bind_eq_some_iff.1 hslot
  exact hpage.embeds uri embed slot hembed hslot

theorem isReplySlotOf (uri : AtUri) :
    IsReplySlotOf index nameBytes viewer (h.display images) uri (h.replySlot images uri) := by
  unfold replySlot
  cases hpost : h.posts[uri]? with
  | none => exact .missing
  | some post =>
    have hvalue := hpage.posts.value_eq hpost
    simp only [Tables.author_of_post? hvalue]
    cases hauthor : h.actors[uri.authority]? with
    | none => exact .missing
    | some author =>
      dsimp only
      by_cases hblock : author.hasBlock = true
      · rw [if_pos hblock]
        exact .blocked hvalue (hpage.actors.value_eq hauthor) hblock
      · rw [if_neg hblock]
        cases hview : (h.display images).postView? post author h.embeds[uri]? with
        | none => exact .missing
        | some view =>
          exact .post (isPostOf hpage hpost hauthor hview) (eq_false_of_ne_true hblock)

/-- **Entries are sound.** What becomes of an item that the rules let pass is allowed. -/
theorem isEntryOf {entry : FeedEntry} (hkeep : h.judge item = .keep)
    (hentry : h.entryOf? images item = some entry) :
    IsEntryOf index nameBytes viewer (h.display images) item entry := by
  obtain ⟨post, author, hmade⟩ := exists_isMadeOf hentry
  obtain ⟨post', author', hpost, hauthor, hadmitted, hreposter⟩ := admitted_of_judge hkeep
  obtain rfl : post = post' := Option.some.inj (hmade.post_eq.symm.trans hpost)
  obtain rfl : author = author' := Option.some.inj (hmade.author_eq.symm.trans hauthor)
  have hvalue := hpage.posts.value_eq hpost
  have hview := hmade.view_eq
  rw [Tables.author_of_post? hvalue] at hauthor
  rw [Tables.uri_of_post? hvalue] at hview
  refine ⟨⟨author, isPostOf hpage hpost hauthor hview, hadmitted⟩, ?_, ?_⟩
  · intro slot hslot
    obtain ⟨uri, rfl⟩ := hmade.reply slot hslot
    exact ⟨uri, isReplySlotOf hpage uri⟩
  · intro reason hreason
    obtain ⟨uri, repost, reposter, huri, hrepost, hactor, rfl⟩ := hmade.exists_repost hreason
    have hfound : h.reposter? uri = some reposter := by simp [reposter?, hrepost, hactor]
    exact ⟨_, reposter, hpage.actors.value_eq hactor, rfl, hreposter uri reposter huri hfound⟩

end Sound

end Hydration

/-! ### Serving a page -/

/-- A page takes the first entries there are. -/
theorem entries_ofItems (entryOf? : SkeletonItem → Option FeedEntry) (limit : Nat)
    (items : List SkeletonItem) :
    (Assembled.ofItems entryOf? limit items).entries = (items.filterMap entryOf?).take limit := by
  induction items generalizing limit with
  | nil => cases limit <;> rfl
  | cons item items ih =>
    cases limit with
    | zero => rfl
    | succ limit =>
      cases hentry : entryOf? item with
      | none => simp only [Assembled.ofItems, hentry, List.filterMap_cons_none, ih]
      | some entry =>
        simp only [Assembled.ofItems, hentry, List.filterMap_cons_some hentry, List.take_succ_cons,
          ih]

theorem feed_assemble (images : ImageService) (skeleton : Skeleton) (h : Hydration)
    (items : List SkeletonItem) (limit : Nat) (timings : StageTimings) :
    (FeedOutcome.assemble images skeleton (h.applyRules items) h limit timings).page.feed =
      ((items.filter fun item => h.judge item = .keep).filterMap (h.entryOf? images)).take limit :=
  entries_ofItems _ _ _

namespace FeedService

variable {service : FeedService}

/-- What is left to do for a page once its skeleton is there. -/
def present (service : FeedService) (skeleton : Skeleton) (viewer : Option Did) (limit : Nat)
    (timings : StageTimings) : Fetch FeedOutcome := do
  let h ← service.hydrate skeleton.items viewer
  return FeedOutcome.assemble service.images skeleton (h.applyRules skeleton.items) h limit timings

theorem gives_page {request : FeedRequest} {s : Surroundings} {outcome : FeedOutcome} :
    (service.page request).Gives s outcome ↔
      ∃ skeleton,
        (Serve.skeleton service.options request
          (service.options.clampLimit request.limit)).Gives s skeleton ∧
        (service.present skeleton request.viewer (service.options.clampLimit request.limit)
          s.timings).Gives s.index outcome := by
  simp only [page, present, Serve.gives_bind, Serve.gives_fetch, Serve.gives_surroundings,
    Serve.gives_pure, Fetch.gives_bind, Fetch.gives_pure]
  constructor
  · rintro ⟨skeleton, hskeleton, h, hh, _, rfl, rfl⟩
    exact ⟨skeleton, hskeleton, h, hh, rfl⟩
  · rintro ⟨skeleton, hskeleton, h, hh, rfl⟩
    exact ⟨skeleton, hskeleton, h, hh, s, rfl, rfl⟩

/-- Every entry of a page that is served is that of an item which the rules let pass. -/
theorem exists_item_of_gives_page {request : FeedRequest} {s : Surroundings} {outcome : FeedOutcome}
    {entry : FeedEntry} (h : (service.page request).Gives s outcome)
    (hentry : entry ∈ outcome.page.feed) :
    ∃ items page item, (service.hydrate items request.viewer).Gives s.index page ∧ item ∈ items ∧
      page.judge item = .keep ∧ page.entryOf? service.images item = some entry := by
  obtain ⟨skeleton, -, hpresent⟩ := gives_page.1 h
  obtain ⟨page, hpage, hgives⟩ := Fetch.gives_bind.1 hpresent
  rw [Fetch.gives_pure] at hgives
  subst hgives
  rw [feed_assemble] at hentry
  obtain ⟨item, hitem, hentry⟩ := List.mem_filterMap.1 (List.mem_of_mem_take hentry)
  obtain ⟨hmem, hkeep⟩ := List.mem_filter.1 hitem
  exact ⟨skeleton.items, page, item, hpage, hmem, of_decide_eq_true hkeep, hentry⟩

/-- **Pages are sound.** Every entry of a page that is served passed the rules and is allowed. -/
theorem isAllowed_of_gives_page {request : FeedRequest} {s : Surroundings} {outcome : FeedOutcome}
    (h : (service.page request).Gives s outcome) :
    outcome.page.IsAllowed s.index service.options.displayNameBytes request.viewer := by
  intro entry hentry
  obtain ⟨_, page, item, hpage, -, hkeep, hentry⟩ := exists_item_of_gives_page h hentry
  exact ⟨_, item, Hydration.isEntryOf (Fetch.hydrate_isOf hpage) hkeep hentry⟩

end FeedService

/-! ### A small index

A friend has posted a feed generator of a foe, and the foe has posted something too. The viewer
blocks the foe, and mutes them by way of a list. -/

namespace Sample

def viewer : Did := ⟨"did:plc:viewer", by decide, by decide⟩

def friend : Did := ⟨"did:plc:friend", by decide, by decide⟩

def foe : Did := ⟨"did:plc:foe", by decide, by decide⟩

def friendPost : AtUri := ⟨friend, Collection.post, "1", by decide, by decide, by decide⟩

def foePost : AtUri := ⟨foe, Collection.post, "1", by decide, by decide, by decide⟩

def friendGenerator : AtUri := ⟨friend, Collection.generator, "1", by decide, by decide, by decide⟩

def foeGenerator : AtUri := ⟨foe, Collection.generator, "1", by decide, by decide, by decide⟩

def muteList : AtUri := ⟨friend, Collection.list, "1", by decide, by decide, by decide⟩

def block : AtUri := ⟨viewer, "app.bsky.graph.block", "1", by decide, by decide, by decide⟩

def cid : Cid := ⟨"baaaaaaaa", by decide, by decide⟩

def noon : Instant := ⟨2024, 1, 1, 12, 0, 0, 0, by decide, by decide⟩

def account : ActorRow := ⟨none, none, none, none, none, false, false⟩

def generatorRow : GeneratorRow := ⟨cid, friend, "", none, none, 0, none, noon, false⟩

def postRow (body : String) : PostRow :=
  ⟨cid, Utf8.encode body.toList, noon, noon, none, none, 0, 0, 0, none, none, false⟩

/-- A body that embeds the generator of the foe. -/
def embedding : String :=
  "\x7b\"embed\":\x7b\"$type\":\"app.bsky.embed.record\",\"record\":\x7b\"uri\":\"" ++
    foeGenerator.text ++ "\",\"cid\":\"" ++ cid.text ++ "\"\x7d\x7d\x7d"

def tables : Tables :=
  { Tables.empty with
    actors := ExtTreeMap.ofList [(friend, account), (foe, account)]
    posts := ExtTreeMap.ofList [(friendPost, postRow embedding), (foePost, postRow "\x7b\x7d")]
    generators := ExtTreeMap.ofList [(friendGenerator, generatorRow), (foeGenerator, generatorRow)]
    blocks := [⟨block, viewer, foe⟩]
    subscriptions := [⟨viewer, muteList⟩]
    listItems := [⟨muteList, foe⟩] }

def index : Index := ⟨tables, none, noon⟩

def service : FeedService := ⟨{}, ⟨"https://cdn.test"⟩⟩

def request : FeedRequest := ⟨friendGenerator, none, none, some viewer, ⟨[]⟩⟩

def skeleton : Skeleton :=
  ⟨[⟨friendPost, none, none⟩, ⟨foePost, none, none⟩], none, [], none⟩

/-- The generator answers with both posts. -/
def reply : HttpReply :=
  ⟨200, ⟨[]⟩, Utf8.encode ("\x7b\"feed\":[\x7b\"post\":\"" ++ friendPost.text ++
    "\"\x7d,\x7b\"post\":\"" ++ foePost.text ++ "\"\x7d]\x7d").toList⟩

def surroundings : Surroundings where
  index := index
  resolver did := .ok ⟨did, none, some [
    ⟨"#bsky_fg", "BskyFeedGenerator", some (.str "https://feed.test"), []⟩], []⟩
  generator _ := ⟨0, .ok reply⟩
  timings := ⟨0, 0⟩
  giveUp := none

theorem any_page : ((service.page request).run surroundings).result.toOption.any
    (fun outcome => !outcome.page.slots.isEmpty) = true := by
  decide +kernel

/-- The post of the friend makes it to a page, with its embed. -/
theorem exists_page :
    ∃ outcome, (service.page request).Gives surroundings outcome ∧ outcome.page.slots ≠ [] := by
  obtain ⟨outcome, hgives, hslots⟩ := Serve.exists_gives any_page
  exact ⟨outcome, hgives, by simpa using hslots⟩

end Sample

end FeedHydration
