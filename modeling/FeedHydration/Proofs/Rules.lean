import FeedHydration.Proofs.Accounting
import FeedHydration.Proofs.Item

/-!
# The rules

Which items the rules keep can be read off the index. An author or a reposter must be there, and
neither a block nor a mute may stand between them and the viewer. Those who are replied to are held
to less: one whom the viewer blocks stands in the way only while their account is there. A reply to
an account that is taken down, deleted or not indexed is kept, however the viewer has blocked it.
-/

namespace FeedHydration

open Std (ExtTreeMap)

/-- The posts that a stored post replies to: where its thread starts, and its parent. -/
def PostRow.thread (row : PostRow) : List AtUri :=
  row.replyParent.elim [] fun parent => [(row.replyRoot.getD parent).uri, parent.uri]

namespace Tables

def Blocks (t : Tables) (viewer did : Did) : Prop :=
  ∃ edge ∈ t.blocks, edge.creator = viewer ∧ edge.subject = did

/-- An account that may put something on a page of the viewer. -/
structure Welcomes (t : Tables) (viewer did : Did) : Prop where
  account : t.HasAccount did
  block : did ≠ viewer → ¬ t.HasBlock viewer did
  mute : did ≠ viewer → ¬ t.Mutes viewer did

/-- The viewer blocks the owner of a post, and the account of the owner is there. -/
structure Shuns (t : Tables) (viewer : Did) (uri : AtUri) : Prop where
  account : t.HasAccount uri.authority
  other : uri.authority ≠ viewer
  block : t.Blocks viewer uri.authority

/-- An item that the rules keep. -/
structure Admits (t : Tables) (viewer : Did) (item : SkeletonItem) : Prop where
  post : ∃ row, t.posts[item.post]? = some row ∧ row.takenDown = false ∧
    ∀ uri ∈ row.thread, ¬ t.Shuns viewer uri
  author : t.Welcomes viewer item.author
  reposter : ∀ uri, item.repost = some uri →
    (∃ row, t.reposts[uri]? = some row) ∧ t.Welcomes viewer uri.authority

end Tables

/-! ### Accounts -/

namespace Index

variable {index : Index} {nameBytes : Nat} {viewer did : Did} {mode : Fetch.LabelMode}
  {actor : Actor}

theorem relationship_of_viewer
    (h : index.actor? nameBytes (some viewer) mode viewer = some actor) :
    actor.relationship = some Relationship.none := by
  rw [relationship_of_actor? h, Tables.relationship?, Option.map_some, Tables.relationship,
    if_pos rfl]

theorem isBlockedByViewer_actor?_iff
    (h : index.actor? nameBytes (some viewer) mode did = some actor) :
    actor.isBlockedByViewer = true ↔ did ≠ viewer ∧ index.tables.Blocks viewer did := by
  by_cases hviewer : did = viewer
  · subst hviewer
    simp [Actor.isBlockedByViewer, relationship_of_viewer h, Relationship.none]
  · rw [Actor.isBlockedByViewer, relationship_of_actor? h, Tables.relationship?, Option.map_some,
      Option.any_some, Tables.relationship, if_neg hviewer, Tables.isSome_edge?]
    exact (and_iff_right hviewer).symm

theorem isAdmitted_actor?_iff
    (h : index.actor? nameBytes (some viewer) mode did = some actor) :
    IsAdmitted actor ↔ index.tables.Welcomes viewer did := by
  have haccount : index.tables.HasAccount did := exists_actor?_iff.1 ⟨actor, h⟩
  by_cases hviewer : did = viewer
  · subst hviewer
    have hblock : actor.hasBlock = false := by rw [Actor.hasBlock, relationship_of_viewer h]; rfl
    have hmute : actor.isMuted = false := by rw [Actor.isMuted, relationship_of_viewer h]; rfl
    exact ⟨fun _ => ⟨haccount, fun hne => absurd rfl hne, fun hne => absurd rfl hne⟩,
      fun _ => ⟨hblock, hmute⟩⟩
  · have hblock := (hasBlock_actor?_iff hviewer h).not
    have hmute := (isMuted_actor?_iff hviewer h).not
    rw [Bool.not_eq_true] at hblock hmute
    constructor
    · intro hadmitted
      exact ⟨haccount, fun _ => hblock.1 hadmitted.block, fun _ => hmute.1 hadmitted.mute⟩
    · intro hwelcomes
      exact ⟨hblock.2 (hwelcomes.block hviewer), hmute.2 (hwelcomes.mute hviewer)⟩

theorem exists_admitted_iff :
    (∃ actor, index.actor? nameBytes (some viewer) mode did = some actor ∧ IsAdmitted actor) ↔
      index.tables.Welcomes viewer did := by
  constructor
  · rintro ⟨actor, hactor, hadmitted⟩
    exact (isAdmitted_actor?_iff hactor).1 hadmitted
  · intro hwelcomes
    obtain ⟨actor, hactor⟩ := exists_actor?_iff.2 hwelcomes.account
    exact ⟨actor, hactor, (isAdmitted_actor?_iff hactor).2 hwelcomes⟩

end Index

/-! ### Verdicts -/

theorem Tables.thread_of_post? {t : Tables} {viewer : Option Did} {uri : AtUri} {row : PostRow}
    {post : Post} (hrow : t.posts[uri]? = some row) (h : t.post? viewer uri = some post) :
    post.ancestors?.elim [] (fun a => [a.root, a.parent]) = row.thread := by
  obtain ⟨row', hrow', rfl⟩ := Option.map_eq_some_iff.1 h
  rw [visible?_eq_some_iff, hrow, Option.some.injEq] at hrow'
  obtain ⟨rfl, -⟩ := hrow'
  unfold Post.ancestors? PostRow.thread
  cases row.replyParent <;> rfl

namespace Hydration

variable {index : Index} {images : ImageService} {nameBytes : Nat} {viewer : Did}
  {items : List SkeletonItem} {item : SkeletonItem} {h : Hydration}
  (hpage : h.IsOf index images nameBytes (some viewer) items)

include hpage

theorem ownerIsBlocked_iff {uri : AtUri}
    (huri : uri ∈ index.tables.reached (some viewer) items) :
    h.ownerIsBlocked uri = true ↔ index.tables.Shuns viewer uri := by
  rw [ownerIsBlocked, hpage.actors.getElem?_of_mem (authority_mem_involved huri),
    Option.any_eq_true]
  constructor
  · rintro ⟨owner, howner, hblocked⟩
    obtain ⟨hother, hblock⟩ := (Index.isBlockedByViewer_actor?_iff howner).1 hblocked
    exact ⟨Index.exists_actor?_iff.1 ⟨owner, howner⟩, hother, hblock⟩
  · intro hshuns
    obtain ⟨owner, howner⟩ := Index.exists_actor?_iff.2 hshuns.account
    exact ⟨owner, howner, (Index.isBlockedByViewer_actor?_iff howner).2
      ⟨hshuns.other, hshuns.block⟩⟩

theorem repliesToBlocked_iff (hitem : item ∈ items) {row : PostRow} {post : Post}
    (hrow : index.tables.posts[item.post]? = some row)
    (hpost : index.tables.post? (some viewer) item.post = some post) :
    h.repliesToBlocked post = true ↔ ∃ uri ∈ row.thread, index.tables.Shuns viewer uri := by
  rw [← Tables.thread_of_post? hrow hpost, repliesToBlocked]
  cases ha : post.ancestors? with
  | none => simp
  | some a =>
    simp [ownerIsBlocked_iff hpage (ancestor_mem_reached hitem hpost ha (Or.inl rfl)),
      ownerIsBlocked_iff hpage (ancestor_mem_reached hitem hpost ha (Or.inr rfl))]

theorem reposter?_admitted_iff (hitem : item ∈ items) {uri : AtUri}
    (huri : item.repost = some uri) :
    (∃ reposter, h.reposter? uri = some reposter ∧ IsAdmitted reposter) ↔
      (∃ row, index.tables.reposts[uri]? = some row) ∧
        index.tables.Welcomes viewer uri.authority := by
  have hrepost : h.reposts[uri]? = index.tables.repost? uri :=
    hpage.reposts.getElem?_of_mem (List.mem_filterMap.2 ⟨item, hitem, huri⟩)
  cases hrow : index.tables.reposts[uri]? with
  | none =>
    rw [Tables.repost?_of_none hrow] at hrepost
    simp [reposter?, hrepost]
  | some row =>
    have hstored : index.tables.repost? uri = some (Repost.ofRow uri row) := by
      rw [Tables.repost?, hrow]
      rfl
    have hreposter : h.reposter? uri =
        index.actor? nameBytes (some viewer) .withoutLabels uri.authority := by
      rw [reposter?, hrepost, hstored]
      exact hpage.actors.getElem?_of_mem (originator_mem_involved hitem huri hstored)
    rw [hreposter, Index.exists_admitted_iff]
    exact (and_iff_right ⟨row, rfl⟩).symm

/-- **The rules, read off the index.** -/
theorem judge_eq_keep_iff (hitem : item ∈ items) :
    h.judge item = .keep ↔ index.tables.Admits viewer item := by
  have hreached : item.post ∈ index.tables.reached (some viewer) items := post_mem_reached hitem
  have hauthors : h.actors[item.author]? =
      index.actor? nameBytes (some viewer) .withoutLabels item.author :=
    hpage.actors.getElem?_of_mem (authority_mem_involved hreached)
  rw [judge_eq_keep, hpage.posts.getElem?_of_mem hreached]
  constructor
  · rintro ⟨post, author, hpost, hauthor, hadmitted, hreposters, hreply⟩
    rw [Tables.author_of_post? hpost, ← SkeletonItem.author, hauthors] at hauthor
    obtain ⟨row, hvisible, -⟩ := Option.map_eq_some_iff.1 hpost
    obtain ⟨hrow, hstands, -⟩ := Tables.visible?_eq_some_iff.1 hvisible
    refine ⟨⟨row, hrow, hstands, fun uri huri hshuns => ?_⟩,
      (Index.isAdmitted_actor?_iff hauthor).1 hadmitted,
      fun uri huri => (reposter?_admitted_iff hpage hitem huri).1 (hreposters uri huri)⟩
    rw [(repliesToBlocked_iff hpage hitem hrow hpost).2 ⟨uri, huri, hshuns⟩] at hreply
    cases hreply
  · rintro ⟨⟨row, hrow, hstands, hthread⟩, hauthor, hreposters⟩
    obtain ⟨post, hpost⟩ : ∃ post, index.tables.post? (some viewer) item.post = some post :=
      Tables.exists_map_visible?_iff.2 ⟨row, hrow, hstands, hauthor.account⟩
    obtain ⟨author, hfound, hadmitted⟩ := Index.exists_admitted_iff.2 hauthor
    refine ⟨post, author, hpost, ?_, hadmitted,
      fun uri huri => (reposter?_admitted_iff hpage hitem huri).2 (hreposters uri huri), ?_⟩
    · rw [Tables.author_of_post? hpost, ← SkeletonItem.author, hauthors, hfound]
    · rw [← Bool.not_eq_true, repliesToBlocked_iff hpage hitem hrow hpost]
      rintro ⟨uri, huri, hshuns⟩
      exact hthread uri huri hshuns

end Hydration

/-! ### Pages -/

/-- **Replies to blocked accounts.** No entry of a page replies to an account that the viewer blocks
and that is there; an account that is not there stands in no one's way. Which items are kept depends
on nothing else that the index says of those who are replied to. -/
theorem FeedService.page_respects_threads {service : FeedService} {request : FeedRequest}
    {s : Surroundings} {outcome : FeedOutcome} {viewer : Did}
    (hviewer : request.viewer = some viewer) (h : (service.page request).Gives s outcome) :
    (∀ entry ∈ outcome.page.feed, ∃ row, s.index.tables.posts[entry.post.uri]? = some row ∧
      ∀ uri ∈ row.thread, uri.authority ≠ viewer →
        s.index.tables.Blocks viewer uri.authority →
          ¬ s.index.tables.HasAccount uri.authority) ∧
    ∃ skeleton page,
      (Serve.skeleton service.options request
        (service.options.clampLimit request.limit)).Gives s skeleton ∧
      (service.hydrate skeleton.items (some viewer)).Gives s.index page ∧
      ∀ item ∈ skeleton.items, page.judge item = .keep ↔ s.index.tables.Admits viewer item := by
  obtain ⟨skeleton, page, reached, hskeleton, hpage, hreached, hfeed, -⟩ :=
    exists_reached_of_gives_page h
  rw [hviewer] at hpage
  have hjudge : ∀ item ∈ skeleton.items,
      page.judge item = .keep ↔ s.index.tables.Admits viewer item := fun item hitem =>
    Hydration.judge_eq_keep_iff (Fetch.hydrate_isOf hpage) hitem
  refine ⟨fun entry hmem => ?_, skeleton, page, hskeleton, hpage, hjudge⟩
  rw [hfeed] at hmem
  obtain ⟨item, hitem, hentry⟩ := List.mem_filterMap.1 hmem
  obtain ⟨hitem, hkeep⟩ := List.mem_filter.1 (hreached.start.subset hitem)
  obtain ⟨row, hrow, -, hthread⟩ := ((hjudge item hitem).1 (of_decide_eq_true hkeep)).post
  rw [(Hydration.isFor_of_entryOf? (Fetch.hydrate_isOf hpage) hentry).post]
  exact ⟨row, hrow, fun uri huri hother hblock haccount =>
    hthread uri huri ⟨haccount, hother, hblock⟩⟩

namespace Sample

/-- The small index, but the friend replies to the post of the foe, and the foe is taken down. -/
def deserted : Surroundings :=
  { surroundings with
    index := { index with
      tables := { tables with
        actors := ExtTreeMap.ofList [(friend, account), (foe, { account with takenDown := true })]
        posts := ExtTreeMap.ofList
          [(friendPost, { postRow "\x7b\x7d" with replyParent := some ⟨foePost, cid⟩ })] } } }

theorem any_deserted : ((service.page request).run deserted).result.toOption.any
    (fun outcome => outcome.page.feed.map (·.post.uri) = [friendPost]) = true := by
  decide +kernel

/-- The viewer is shown a reply to the foe, whom they block, for the foe is no longer there. -/
theorem page_respects_deserted :
    deserted.index.tables.Blocks viewer foe ∧
    ∃ outcome, (service.page request).Gives deserted outcome ∧
      ∃ entry ∈ outcome.page.feed, ∃ row,
        deserted.index.tables.posts[entry.post.uri]? = some row ∧ foePost ∈ row.thread ∧
        ¬ deserted.index.tables.HasAccount foe := by
  have hblock : deserted.index.tables.Blocks viewer foe :=
    ⟨⟨block, viewer, foe⟩, List.mem_cons_self, rfl, rfl⟩
  have hviewer : request.viewer = some viewer := rfl
  have hother : foePost.authority ≠ viewer := by decide
  obtain ⟨outcome, hgives, hcheck⟩ := Serve.exists_gives any_deserted
  have hmem : friendPost ∈ outcome.page.feed.map (·.post.uri) := by
    rw [of_decide_eq_true hcheck]
    exact List.mem_cons_self
  obtain ⟨entry, hentry, huri⟩ := List.mem_map.1 hmem
  obtain ⟨row, hrow, hthread⟩ := (FeedService.page_respects_threads hviewer hgives).1 entry hentry
  have hstored : deserted.index.tables.posts[friendPost]? =
      some { postRow "\x7b\x7d" with replyParent := some ⟨foePost, cid⟩ } := by
    decide +kernel
  have hreply : foePost ∈ row.thread := by
    rw [huri, hstored, Option.some.injEq] at hrow
    rw [← hrow]
    exact List.mem_cons_self
  exact ⟨hblock, outcome, hgives, entry, hentry, row, hrow, hreply,
    hthread foePost hreply hother hblock⟩

end Sample

end FeedHydration
