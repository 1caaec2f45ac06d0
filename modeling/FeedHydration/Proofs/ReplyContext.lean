import FeedHydration.Proofs.Batch
import FeedHydration.Proofs.EmbedContent

/-!
# What an entry replies to

An entry has a reply exactly if its post is stored with a parent, and each place above it is told by
the index: the post of the parent, and that of the root or else of the parent again. It makes no
difference whether the posts above were loaded as items of their own or as ancestors. An owner
hidden above a reply is never one whom the viewer blocks, for such a reply is no entry at all.
-/

namespace FeedHydration

open Std (ExtTreeMap)

section Exact

variable (index : Index) (images : ImageService) (nameBytes : Nat) (viewer : Option Did)

/-- What stands in the place of a post that is replied to. -/
inductive IsExactReplySlot (uri : AtUri) : ReplySlot → Prop where
  | blocked {r : Relationship} (hpost : index.tables.HidesPost viewer uri)
      (howner : index.tables.relationship? viewer uri.authority = some r) :
      IsExactReplySlot uri (.blocked { uri := uri, author := .ofBlock uri.authority r })
  | post {row : PostRow} {body : Json} {author : ProfileView}
      (hpost : index.tables.ShowsPost viewer uri row body)
      (hauthor : index.profile? images nameBytes viewer uri.authority = some author) :
      IsExactReplySlot uri (.post {
        uri := uri
        cid := row.cid
        author := author
        record := body
        embed := index.embed? images nameBytes viewer uri
        replyCount := row.replyCount
        repostCount := row.repostCount
        likeCount := row.likeCount
        indexedAt := row.indexedAt
        viewer := Display.postViewer (.ofRow uri (index.tables.seenRow viewer uri row))
        labels := index.labelsOf uri.text })
  | missing (hpost : index.tables.LacksPost viewer uri) :
      IsExactReplySlot uri (.missing { uri := uri })

/-- The reply of an entry whose post is stored in a row. -/
inductive IsExactReply (row : PostRow) : Option ReplyView → Prop where
  | noReply (hparent : row.replyParent = none) : IsExactReply row none
  | reply {parent : StrongRef} {reply : ReplyView} (hparent : row.replyParent = some parent)
      (parent_exact : IsExactReplySlot index images nameBytes viewer parent.uri reply.parent)
      (root_exact : IsExactReplySlot index images nameBytes viewer
        (row.replyRoot.getD parent).uri reply.root) :
      IsExactReply row (some reply)

end Exact

section Read

variable {index : Index} {images : ImageService} {nameBytes : Nat} {viewer : Option Did}

theorem IsExactReplySlot.uri_eq {uri : AtUri} {slot : ReplySlot}
    (h : IsExactReplySlot index images nameBytes viewer uri slot) : slot.uri = uri := by
  cases h <;> rfl

/-- A post is hidden in its place exactly if it stands behind a block. -/
theorem IsExactReplySlot.exists_blocked_iff {uri : AtUri} {slot : ReplySlot}
    (h : IsExactReplySlot index images nameBytes viewer uri slot) :
    (∃ view, slot = .blocked view) ↔ index.tables.HidesPost viewer uri := by
  constructor
  · rintro ⟨view, rfl⟩
    cases h with
    | blocked hhides => exact hhides
  · intro hhides
    cases h with
    | blocked => exact ⟨_, rfl⟩
    | post hshows => exact absurd hhides.parts hshows.parts
    | missing hlacks => exact absurd hhides hlacks.hides

theorem IsExactReply.exists_of_parent {row : PostRow} {parent : StrongRef}
    {reply : Option ReplyView} (h : IsExactReply index images nameBytes viewer row reply)
    (hparent : row.replyParent = some parent) :
    ∃ view, reply = some view ∧
      IsExactReplySlot index images nameBytes viewer parent.uri view.parent ∧
      IsExactReplySlot index images nameBytes viewer (row.replyRoot.getD parent).uri view.root := by
  cases h with
  | noReply hnone =>
    rw [hparent] at hnone
    cases hnone
  | reply hsome parent_exact root_exact =>
    rw [hparent] at hsome
    cases hsome
    exact ⟨_, rfl, parent_exact, root_exact⟩

end Read

/-- A block that is not the viewer's is the other account's. -/
theorem Relationship.blockedBy_of_hasBlock {r : Relationship} (h : r.hasBlock = true)
    (hblocking : r.blocking = Option.none) : r.blockedBy = true := by
  rwa [hasBlock, hblocking, Option.isSome_none, Bool.false_or] at h

namespace Hydration

variable {index : Index} {images : ImageService} {nameBytes : Nat} {viewer : Option Did}
  {items : List SkeletonItem} {item : SkeletonItem} {h : Hydration}

/-- The owner of a post that a page reaches. -/
theorem exists_owner (hpage : h.IsOf index images nameBytes viewer items) {uri : AtUri}
    (huri : uri ∈ index.tables.reached viewer items)
    (haccount : index.tables.HasAccount uri.authority) :
    ∃ actor, h.actors[uri.authority]? = some actor ∧
      IsSeenAs index images nameBytes viewer (h.display images) uri.authority actor := by
  obtain ⟨actor, hactor⟩ := Index.exists_actor?_iff.2 haccount
  refine ⟨actor, ?_, isSeenAs_of_actor? hactor rfl ?_⟩
  · rw [hpage.actors.getElem?_of_mem (authority_mem_involved huri), hactor]
  · apply hpage.labels.get_of_mem
    exact List.mem_append_left _ (List.mem_map_of_mem (authority_mem_involved huri))

theorem isExactReplySlot_replySlot (hpage : h.IsOf index images nameBytes viewer items)
    (hout : index.outage = none) {uri : AtUri} (huri : uri ∈ index.tables.reached viewer items) :
    IsExactReplySlot index images nameBytes viewer uri (h.replySlot images uri) := by
  unfold replySlot
  rw [hpage.posts.getElem?_of_mem huri]
  cases index.tables.standing viewer uri with
  | absent hpost hlacks =>
    rw [hpost]
    exact .missing hlacks
  | hidden row hpost hhides =>
    obtain ⟨owner, hfound, howner⟩ := exists_owner hpage huri hhides.stands.owner
    obtain ⟨r, hr, -⟩ := Tables.parts_iff.1 hhides.parts
    simp only [hpost, Post.ofRow, hfound, if_pos (howner.hasBlock_iff.2 hhides.parts),
      Display.blockedAuthor_eq_ofBlock (howner.relationship.trans hr)]
    exact .blocked hhides hr
  | shown row body hpost hshows =>
    obtain ⟨owner, hfound, howner⟩ := exists_owner hpage huri hshows.account
    have hlabels : h.labels.get uri.text = index.labelsOf uri.text :=
      hpage.labels.get_of_mem (List.mem_append_right _ (List.mem_map_of_mem huri))
    simp only [hpost, Post.ofRow, hfound, if_neg (howner.hasBlock_iff.not.2 hshows.parts),
      Display.postView?, Tables.seenRow, hshows.body,
      (hpage.wholeEmbeds hout).getElem?_of_mem huri, display, hlabels]
    exact .post hshows howner.profile
  | malformed row hpost haccount hparts hbody hlacks =>
    obtain ⟨owner, hfound, howner⟩ := exists_owner hpage huri haccount
    simp only [hpost, Post.ofRow, hfound, if_neg (howner.hasBlock_iff.not.2 hparts),
      Display.postView?, Tables.seenRow, hbody]
    exact .missing hlacks

theorem exists_reply_of_entryOf? {entry : FeedEntry}
    (hentry : h.entryOf? images item = some entry) :
    ∃ post, h.posts[item.post]? = some post ∧
      entry.reply = post.ancestors?.map fun a =>
        ⟨h.replySlot images a.root, h.replySlot images a.parent⟩ := by
  simp only [entryOf?, Option.bind_eq_bind, Option.bind_eq_some_iff, Option.some.injEq] at hentry
  obtain ⟨post, hpost, author, -, view, -, reason, -, rfl⟩ := hentry
  exact ⟨post, hpost, rfl⟩

/-- The post of an entry is stored, and its row tells what the entry replies to. -/
theorem isExactReply_of_entryOf? (hpage : h.IsOf index images nameBytes viewer items)
    (hout : index.outage = none) (hitem : item ∈ items) {entry : FeedEntry}
    (hentry : h.entryOf? images item = some entry) :
    ∃ row, index.tables.posts[item.post]? = some row ∧
      IsExactReply index images nameBytes viewer row entry.reply := by
  obtain ⟨post, hfound, hreply⟩ := exists_reply_of_entryOf? hentry
  have hpost := hpage.posts.value_eq hfound
  obtain ⟨row, hvisible, rfl⟩ := Option.map_eq_some_iff.1 hpost
  refine ⟨row, (Tables.visible?_eq_some_iff.1 hvisible).1, ?_⟩
  rw [hreply]
  cases hparent : row.replyParent with
  | none =>
    simp only [Post.ancestors?, Post.ofRow, Option.map_none]
    exact .noReply hparent
  | some parent =>
    have hancestors :
        Post.ancestors? (.ofRow item.post (index.tables.seenRow viewer item.post row)) =
          some ⟨(row.replyRoot.getD parent).uri, parent.uri⟩ := by
      simp only [Post.ancestors?, Post.ofRow, Tables.seenRow, hparent, Option.map_some]
    have hreached : ∀ uri, uri = (row.replyRoot.getD parent).uri ∨ uri = parent.uri →
        uri ∈ index.tables.reached viewer items := fun uri huri =>
      ancestor_mem_reached hitem hpost hancestors huri
    simp only [Post.ancestors?, Post.ofRow, Option.map_some]
    exact .reply hparent (isExactReplySlot_replySlot hpage hout (hreached _ (Or.inr rfl)))
      (isExactReplySlot_replySlot hpage hout (hreached _ (Or.inl rfl)))

/-- An owner whom a page does not take for blocked by the viewer is not. -/
theorem blocking_eq_none (hpage : h.IsOf index images nameBytes viewer items) {uri : AtUri}
    (huri : uri ∈ index.tables.reached viewer items)
    (haccount : index.tables.HasAccount uri.authority) (hfree : h.ownerIsBlocked uri = false)
    {r : Relationship} (hr : index.tables.relationship? viewer uri.authority = some r) :
    r.blocking = none := by
  obtain ⟨owner, hfound, howner : IsSeenAs index images nameBytes viewer (h.display images)
    uri.authority owner⟩ := exists_owner hpage huri haccount
  rw [ownerIsBlocked, hfound, Option.any_some, Actor.isBlockedByViewer, howner.relationship, hr,
    Option.any_some] at hfree
  exact Option.isNone_iff_eq_none.1 (Option.isSome_eq_false_iff.1 hfree)

/-- A kept item replies to no one whom the viewer blocks; what is hidden above it is hidden by the
other side. -/
theorem blockedBy_of_mem_replySlots (hpage : h.IsOf index images nameBytes viewer items)
    (hout : index.outage = none) (hitem : item ∈ items) (hkeep : h.judge item = .keep)
    {entry : FeedEntry} (hentry : h.entryOf? images item = some entry) {view : BlockedRecord}
    (hview : .blocked view ∈ entry.replySlots) :
    ∃ v, view.author.viewer = some v ∧ v.blockedBy = true ∧ v.blocking = none := by
  obtain ⟨post, hfound, hreply⟩ := exists_reply_of_entryOf? hentry
  obtain ⟨post', -, hfound', -, -, -, hfree⟩ := judge_eq_keep.1 hkeep
  obtain rfl : post = post' := Option.some.inj (hfound.symm.trans hfound')
  rw [FeedEntry.replySlots, hreply] at hview
  rw [repliesToBlocked] at hfree
  cases ha : post.ancestors? with
  | none => simp [ha] at hview
  | some a =>
    simp only [ha, Option.any_some, Bool.or_eq_false_iff] at hfree
    simp only [ha, Option.map_some, Option.elim_some, List.mem_cons, List.not_mem_nil,
      or_false] at hview
    obtain ⟨uri, huri, hslot, hfree⟩ : ∃ uri, (uri = a.root ∨ uri = a.parent) ∧
        .blocked view = h.replySlot images uri ∧ h.ownerIsBlocked uri = false := by
      obtain hroot | hparent := hview
      · exact ⟨a.root, Or.inl rfl, hroot, hfree.1⟩
      · exact ⟨a.parent, Or.inr rfl, hparent, hfree.2⟩
    have hreached : uri ∈ index.tables.reached viewer items :=
      ancestor_mem_reached hitem (hpage.posts.value_eq hfound) ha huri
    have hexact := isExactReplySlot_replySlot hpage hout hreached
    rw [← hslot] at hexact
    cases hexact with
    | blocked hhides hr =>
      have hblocking := blocking_eq_none hpage hreached hhides.stands.owner hfree hr
      obtain ⟨r', hr', hblock⟩ := Tables.parts_iff.1 hhides.parts
      obtain rfl := Option.some.inj (hr.symm.trans hr')
      exact ⟨_, rfl, Relationship.blockedBy_of_hasBlock hblock hblocking, hblocking⟩

end Hydration

namespace FeedService

/-- **Replies are exact.** Without an outage, each entry of a page has the reply that the row of its
post tells, and each place in the reply is what the index says of the post that stands there. An
owner who is hidden there blocks the viewer, and is not blocked by them. -/
theorem present_replies_exact {index : Index} (hout : index.outage = none) (service : FeedService)
    (skeleton : Skeleton) (viewer : Option Did) (limit : Nat) (timings : StageTimings) :
    ∃ outcome, (service.present skeleton viewer limit timings).Gives index outcome ∧
      ∀ entry ∈ outcome.page.feed, ∃ item ∈ skeleton.items, ∃ row,
        entry.post.uri = item.post ∧ index.tables.posts[item.post]? = some row ∧
        IsExactReply index service.images service.options.displayNameBytes viewer row
          entry.reply ∧
        ∀ view, .blocked view ∈ entry.replySlots →
          ∃ v, view.author.viewer = some v ∧ v.blockedBy = true ∧ v.blocking = none := by
  obtain ⟨h, hgives⟩ := Fetch.answers_hydrate hout service.images
    service.options.displayNameBytes skeleton.items viewer
  have hpage := Fetch.hydrate_isOf hgives
  refine ⟨_, Fetch.gives_bind.2 ⟨h, hgives, Fetch.gives_pure.2 rfl⟩, fun entry hmem => ?_⟩
  rw [feed_assemble] at hmem
  obtain ⟨item, hitem, hentry⟩ := List.mem_filterMap.1 (List.mem_of_mem_take hmem)
  obtain ⟨hitem, hkeep⟩ := List.mem_filter.1 hitem
  obtain ⟨row, hrow, hreply⟩ := Hydration.isExactReply_of_entryOf? hpage hout hitem hentry
  exact ⟨item, hitem, row, (Hydration.isFor_of_entryOf? hpage hentry).post, hrow, hreply,
    fun view hview => Hydration.blockedBy_of_mem_replySlots hpage hout hitem
      (of_decide_eq_true hkeep) hentry hview⟩

end FeedService

namespace Sample

/-- The small index, but the foe blocks the viewer and not the other way round, and the friend
replies to the foe. -/
def shunned : Index :=
  { index with
    tables := { tables with
      posts := tables.posts.insert friendPost
        { postRow "\x7b\x7d" with replyParent := some ⟨foePost, cid⟩ }
      blocks := [⟨block, foe, viewer⟩] } }

theorem any_shunned : ((service.present skeleton (some viewer) 1 ⟨0, 0⟩).run
    shunned).result.toOption.any
      (fun outcome => outcome.page.feed.map (·.post.uri) = [friendPost]) = true := by
  decide +kernel

theorem hidesPost_shunned : shunned.tables.HidesPost (some viewer) foePost where
  stands := ⟨postRow "\x7b\x7d", by decide +kernel, rfl, account, by decide +kernel, rfl, rfl⟩
  parts := ⟨viewer, rfl, by decide, ⟨block, foe, viewer⟩, List.mem_cons_self, Or.inr ⟨rfl, rfl⟩⟩

/-- The viewer is shown the reply to the foe, and in place of the foe's post that the foe blocks
them. -/
theorem present_replies_shunned :
    shunned.outage = none ∧
    ∃ outcome, (service.present skeleton (some viewer) 1 ⟨0, 0⟩).Gives shunned outcome ∧
      ∃ entry ∈ outcome.page.feed, ∃ reply view v, entry.reply = some reply ∧
        reply.parent = .blocked view ∧ view.uri = foePost ∧ view.author.viewer = some v ∧
        v.blockedBy = true ∧ v.blocking = none := by
  have hout : shunned.outage = none := rfl
  obtain ⟨outcome, hgives, hfeed⟩ := Fetch.exists_gives any_shunned
  obtain ⟨outcome', hgives', hexact⟩ :=
    FeedService.present_replies_exact hout service skeleton (some viewer) 1 ⟨0, 0⟩
  cases hgives.unique hgives'
  have hmem : friendPost ∈ outcome.page.feed.map (·.post.uri) := by
    rw [of_decide_eq_true hfeed]
    exact List.mem_cons_self
  obtain ⟨entry, hentry, huri⟩ := List.mem_map.1 hmem
  obtain ⟨item, -, row, hitem, hrow, hreply, hhidden⟩ := hexact entry hentry
  have hstored : shunned.tables.posts[friendPost]? =
      some { postRow "\x7b\x7d" with replyParent := some ⟨foePost, cid⟩ } := by
    decide +kernel
  rw [← hitem, huri, hstored, Option.some.injEq] at hrow
  subst hrow
  obtain ⟨reply, hsome, hparent, -⟩ := hreply.exists_of_parent rfl
  obtain ⟨view, hslot⟩ := hparent.exists_blocked_iff.2 hidesPost_shunned
  have hview : .blocked view ∈ entry.replySlots := by
    rw [FeedEntry.replySlots, hsome, Option.elim_some, ← hslot]
    exact List.mem_cons_of_mem _ List.mem_cons_self
  obtain ⟨v, hv, hblockedBy, hblocking⟩ := hhidden view hview
  rw [hslot] at hparent
  exact ⟨hout, outcome, hgives, entry, hentry, reply, view, v, hsome, hslot, hparent.uri_eq, hv,
    hblockedBy, hblocking⟩

end Sample

end FeedHydration
