import FeedHydration.Proofs.Page

/-!
# Blocks and mutes

No post by an account that a block parts from the viewer is on a page, whether as an entry, above a
reply or quoted, and no such account reposts one; nor does a muted account have an entry. The feed
generators and lists of a blocked account are another matter: an embed shows them.
-/

namespace FeedHydration

open Std (ExtTreeMap)

/-! ### Pages -/

section Pages

variable {index : Index} {nameBytes : Nat} {viewer did : Did} {d : Display} {author : Actor}

theorem IsPostOf.author_did {uri : AtUri} {view : PostView}
    (h : IsPostOf index nameBytes (some viewer) d uri author view) :
    view.author.did = uri.authority := by
  rw [h.author_eq]
  exact Index.did_of_actor? h.owner

theorem did_ne_of_hasBlock {did' : Did}
    (hactor : index.actor? nameBytes (some viewer) .withoutLabels did' = some author)
    (hallowed : author.hasBlock = false) (hne : did ≠ viewer)
    (hblock : index.tables.HasBlock viewer did) : did' ≠ did := by
  rintro rfl
  rw [(Index.hasBlock_actor?_iff hne hactor).2 hblock] at hallowed
  cases hallowed

theorem did_ne_of_isMuted {did' : Did}
    (hactor : index.actor? nameBytes (some viewer) .withoutLabels did' = some author)
    (hallowed : author.isMuted = false) (hne : did ≠ viewer)
    (hmute : index.tables.Mutes viewer did) : did' ≠ did := by
  rintro rfl
  rw [(Index.isMuted_actor?_iff hne hactor).2 hmute] at hallowed
  cases hallowed

variable {page : FeedPage} (h : page.IsAllowed index nameBytes (some viewer))

include h

theorem post_author_ne (hne : did ≠ viewer) (hblock : index.tables.HasBlock viewer did)
    {view : PostView} (hmem : view ∈ page.posts) : view.author.did ≠ did := by
  obtain ⟨d, uri, author, hpost, hallowed⟩ := h.post hmem
  rw [hpost.author_did]
  exact did_ne_of_hasBlock hpost.owner hallowed hne hblock

theorem quote_author_ne (hne : did ≠ viewer) (hblock : index.tables.HasBlock viewer did)
    {view : QuoteView} (hmem : .quote view ∈ page.slots) : view.author.did ≠ did := by
  obtain ⟨d, target, hslot⟩ := h.slot hmem
  cases hslot with
  | quote _ hauthor hallowed hview =>
    rw [(Display.fields_of_quoteView? hview).2]
    rw [← Index.did_of_actor? hauthor] at hauthor
    exact did_ne_of_hasBlock hauthor hallowed hne hblock

theorem reposter_ne (hne : did ≠ viewer) (hblock : index.tables.HasBlock viewer did)
    {profile : ProfileView} (hmem : profile ∈ page.reposters) : profile.did ≠ did := by
  obtain ⟨d, did', reposter, hactor, rfl, hallowed⟩ := h.reposter hmem
  rw [← Index.did_of_actor? hactor] at hactor
  exact did_ne_of_hasBlock hactor hallowed.block hne hblock

theorem entry_ne_of_mute (hne : did ≠ viewer) (hmute : index.tables.Mutes viewer did)
    {entry : FeedEntry} (hmem : entry ∈ page.feed) :
    entry.post.author.did ≠ did ∧
      ∀ reason, entry.reason = some reason → reason.reposter.did ≠ did := by
  obtain ⟨d, item, hentry⟩ := h entry hmem
  obtain ⟨author, hpost, hallowed⟩ := hentry.post
  refine ⟨?_, fun reason hreason => ?_⟩
  · rw [hpost.author_did]
    exact did_ne_of_isMuted hpost.owner hallowed.mute hne hmute
  · obtain ⟨did', reposter, hactor, hprofile, hallowed⟩ := hentry.reason reason hreason
    rw [hprofile]
    rw [← Index.did_of_actor? hactor] at hactor
    exact did_ne_of_isMuted hactor hallowed.mute hne hmute

end Pages

/-- **Blocks and mutes are respected.** Whatever the index holds and whichever of its reads fail,
whatever the generator answers: a page that is served shows the viewer no post and no repost by an
account that a block parts from the viewer, and no entry by an account that the viewer mutes. -/
theorem FeedService.page_respects_blocks_and_mutes {service : FeedService} {request : FeedRequest}
    {s : Surroundings} {outcome : FeedOutcome} {viewer did : Did}
    (hviewer : request.viewer = some viewer) (h : (service.page request).Gives s outcome)
    (hne : did ≠ viewer) :
    (s.index.tables.HasBlock viewer did →
      (∀ view ∈ outcome.page.posts, view.author.did ≠ did) ∧
      (∀ view, .quote view ∈ outcome.page.slots → view.author.did ≠ did) ∧
      ∀ profile ∈ outcome.page.reposters, profile.did ≠ did) ∧
    (s.index.tables.Mutes viewer did →
      ∀ entry ∈ outcome.page.feed, entry.post.author.did ≠ did ∧
        ∀ reason, entry.reason = some reason → reason.reposter.did ≠ did) := by
  have hallowed := isAllowed_of_gives_page h
  rw [hviewer] at hallowed
  refine ⟨fun hblock => ⟨?_, ?_, ?_⟩, fun hmute entry hmem => ?_⟩
  · intro view hmem
    exact post_author_ne hallowed hne hblock hmem
  · intro view hmem
    exact quote_author_ne hallowed hne hblock hmem
  · intro profile hmem
    exact reposter_ne hallowed hne hblock hmem
  · exact entry_ne_of_mute hallowed hne hmute hmem

/-- The viewer of the small index sees nothing by the foe, whom they block and mute. -/
theorem Sample.page_respects_foe :
    ∃ outcome, (Sample.service.page Sample.request).Gives Sample.surroundings outcome ∧
      outcome.page.slots ≠ [] ∧
      (∀ view ∈ outcome.page.posts, view.author.did ≠ Sample.foe) ∧
      (∀ view, .quote view ∈ outcome.page.slots → view.author.did ≠ Sample.foe) ∧
      (∀ profile ∈ outcome.page.reposters, profile.did ≠ Sample.foe) ∧
      ∀ entry ∈ outcome.page.feed, entry.post.author.did ≠ Sample.foe := by
  obtain ⟨outcome, hgives, hslots⟩ := Sample.exists_page
  have hblock : Sample.index.tables.HasBlock Sample.viewer Sample.foe :=
    ⟨⟨Sample.block, Sample.viewer, Sample.foe⟩, List.mem_cons_self, Or.inl ⟨rfl, rfl⟩⟩
  have hmute : Sample.index.tables.Mutes Sample.viewer Sample.foe :=
    Or.inr ⟨Sample.muteList, List.mem_cons_self, List.mem_cons_self⟩
  have hviewer : Sample.request.viewer = some Sample.viewer := rfl
  have hne : Sample.foe ≠ Sample.viewer := by decide
  have hrespects := FeedService.page_respects_blocks_and_mutes hviewer hgives hne
  obtain ⟨hposts, hquotes, hreposters⟩ := hrespects.1 hblock
  exact ⟨outcome, hgives, hslots, hposts, hquotes, hreposters, fun entry hmem =>
    (hrespects.2 hmute entry hmem).1⟩

/-! ### Embedded records -/

/-- A feed generator or a list that stands. -/
def Tables.HasCard (t : Tables) (uri : AtUri) : Prop :=
  (uri.collection = Collection.generator ∧ t.HasRecord t.generators (·.takenDown) uri) ∨
    (uri.collection = Collection.list ∧ t.HasRecord t.lists (·.takenDown) uri)

namespace EmbedContext

variable {index : Index} {nameBytes : Nat} {viewer : Did} {c : EmbedContext} {uri : AtUri}

/-- A slot behind a block shows at most a generator or a list. -/
theorem owner?_eq_none_of_hasBlock {d : Display} {slot : RecordSlot}
    (h : IsSlotOf index nameBytes (some viewer) d uri slot) (hne : uri.authority ≠ viewer)
    (hblock : index.tables.HasBlock viewer uri.authority)
    (hcard : ¬ index.tables.HasCard uri) : slot.owner? = none := by
  cases h with
  | missing => rfl
  | blocked => rfl
  | quote _ hauthor hallowed _ =>
    rw [(Index.hasBlock_actor?_iff hne hauthor).2 hblock] at hallowed
    cases hallowed
  | generator hcollection hgenerator _ =>
    have hrecord := Tables.exists_map_visible?_iff.1 ⟨_, hgenerator⟩
    exact absurd (Or.inl ⟨hcollection, hrecord⟩) hcard
  | list hcollection hlist _ =>
    have hrecord := Tables.exists_map_visible?_iff.1 ⟨_, hlist⟩
    exact absurd (Or.inr ⟨hcollection, hrecord⟩) hcard

theorem owner?_slot_of_hasCard (h : c.Knows index nameBytes (some viewer) uri)
    (hcard : index.tables.HasCard uri) :
    ∃ owner, (c.slot uri).owner? = some owner ∧ owner.did = uri.authority := by
  obtain ⟨hcollection, hrecord⟩ | ⟨hcollection, hrecord⟩ := hcard
  · obtain ⟨generator, creator, hdid, hslot⟩ := slot_of_known_generator h hcollection hrecord
    rw [hslot]
    exact ⟨_, rfl, hdid⟩
  · obtain ⟨list, creator, hdid, hslot⟩ := slot_of_known_list h hcollection hrecord
    rw [hslot]
    exact ⟨_, rfl, hdid⟩

end EmbedContext

/-- **What a block hides in embeds.** A record whose owner a block parts from the viewer is shown
just if it is a feed generator or a list that stands; anything else, and every post, is reported
blocked or missing. -/
theorem Fetch.embeds_behind_block {index : Index} {images : ImageService} {nameBytes : Nat}
    {viewer : Did} {posts : List Post} {known : ExtTreeMap Did Actor} {labels : LabelSet}
    {views : ExtTreeMap AtUri EmbedView} {uri : AtUri} {view : EmbedView} {slot : RecordSlot}
    (hknown : IsPart known (index.actor? nameBytes (some viewer) .withoutLabels))
    (h : (embeds images nameBytes posts (some viewer) known labels).Gives index views)
    (hview : views[uri]? = some view) (hslot : view.slot? = some slot)
    (hne : slot.uri.authority ≠ viewer)
    (hblock : index.tables.HasBlock viewer slot.uri.authority) :
    (¬ index.tables.HasCard slot.uri → slot.owner? = none) ∧
      (index.outage = none → index.tables.HasCard slot.uri →
        ∃ owner, slot.owner? = some owner ∧ owner.did = slot.uri.authority) := by
  obtain ⟨c, hc, host, hhost, -, hembed⟩ := mem_embeds h hview
  obtain ⟨target, htarget, rfl⟩ := EmbedContext.slot_of_embedView? hembed hslot
  have hallowed := EmbedContext.isSlotOf_slot (embedContext_sound hknown hc) target.uri
  rw [hallowed.uri_eq] at hne hblock ⊢
  refine ⟨EmbedContext.owner?_eq_none_of_hasBlock hallowed hne hblock, fun hout hcard => ?_⟩
  exact EmbedContext.owner?_slot_of_hasCard (embedContext_knows hout hknown hc hhost htarget)
    hcard

theorem Sample.any_embeds :
    ((Fetch.embeds Sample.service.images 64 [Post.ofRow Sample.friendPost
        (Sample.postRow Sample.embedding)] (some Sample.viewer) ∅ LabelSet.empty).run
      Sample.index).result.toOption.any (fun views =>
        (views[Sample.friendPost]?.bind (·.slot?)).any (·.uri = Sample.foeGenerator)) = true := by
  decide +kernel

/-- The generator of the foe is shown to the viewer, who blocks them. -/
theorem Sample.foeGenerator_shown :
    Sample.index.tables.HasBlock Sample.viewer Sample.foe ∧
    ∃ views view slot owner, (Fetch.embeds Sample.service.images 64 [Post.ofRow Sample.friendPost
        (Sample.postRow Sample.embedding)] (some Sample.viewer) ∅ LabelSet.empty).Gives
          Sample.index views ∧
      views[Sample.friendPost]? = some view ∧ view.slot? = some slot ∧
      slot.owner? = some owner ∧ owner.did = Sample.foe := by
  have hblock : Sample.index.tables.HasBlock Sample.viewer Sample.foe :=
    ⟨⟨Sample.block, Sample.viewer, Sample.foe⟩, List.mem_cons_self, Or.inl ⟨rfl, rfl⟩⟩
  have hcard : Sample.index.tables.HasCard Sample.foeGenerator :=
    Or.inl ⟨rfl, Sample.generatorRow, by decide +kernel, rfl, Sample.account, by decide +kernel,
      rfl, rfl⟩
  obtain ⟨views, hgives, hslot⟩ := Fetch.exists_gives Sample.any_embeds
  obtain ⟨slot, hslot, huri⟩ := (Option.any_eq_true _ _).1 hslot
  obtain ⟨view, hview, hslot⟩ := Option.bind_eq_some_iff.1 hslot
  have huri : slot.uri = Sample.foeGenerator := of_decide_eq_true huri
  have hshown := Fetch.embeds_behind_block (IsPart.empty _) hgives hview hslot
    (by rw [huri]; decide) (by rw [huri]; exact hblock)
  rw [huri] at hshown
  obtain ⟨owner, howner, hdid⟩ := hshown.2 rfl hcard
  exact ⟨hblock, views, view, slot, owner, hgives, hview, hslot, howner, hdid⟩

end FeedHydration
