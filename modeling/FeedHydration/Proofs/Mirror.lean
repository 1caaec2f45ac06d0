import FeedHydration.Proofs.ReplyContext

/-!
# Both ends of a relationship

What one account is to another is the mirror image of what the other is to it: the same rows are
read from both ends, and of several rows both ends settle on the same one. So a block hides the
posts of both from each other, and without one none are hidden.
-/

namespace FeedHydration

open Std (ExtTreeMap)

/-! ### Relationships -/

/-- What is said at one end, seen from the other. A block is named at the end that made it and only
known at the other; a follow is named at both. -/
structure Relationship.Mirrors (r r' : Relationship) : Prop where
  blocking : r.blocking.isSome = r'.blockedBy
  blockedBy : r.blockedBy = r'.blocking.isSome
  following : r.following = r'.followedBy
  followedBy : r.followedBy = r'.following

theorem Relationship.Mirrors.hasBlock_eq {r r' : Relationship} (h : r.Mirrors r') :
    r.hasBlock = r'.hasBlock := by
  rw [hasBlock, hasBlock, h.blocking, h.blockedBy, Bool.or_comm]

theorem Tables.mirrors_relationship (t : Tables) {did did' : Did} (hne : did ≠ did') :
    (t.relationship did did').Mirrors (t.relationship did' did) := by
  rw [relationship, if_neg hne.symm, relationship, if_neg hne]
  exact ⟨rfl, rfl, rfl, rfl⟩

theorem Tables.parts_viewer_iff {t : Tables} {viewer did : Did} :
    t.Parts (some viewer) did ↔ (t.relationship viewer did).hasBlock = true := by
  simp [parts_iff, relationship?]

/-! ### Pages -/

namespace Hydration

/-- A post that a page keeps back: it is hidden where it is replied to, no embed quotes it, and no
item with it is kept. -/
structure Hides (h : Hydration) (images : ImageService) (uri : AtUri) : Prop where
  reply : ∃ view, h.replySlot images uri = .blocked view
  quotes : ∀ (host : AtUri) (view : EmbedView) (slot : RecordSlot), h.embeds[host]? = some view →
    view.slot? = some slot → slot.uri = uri → ∀ quote, slot ≠ .quote quote
  items : ∀ item : SkeletonItem, item.post = uri → h.judge item ≠ .keep

/-- A post that a page keeps back nowhere because of a block: not where it is replied to, not in an
embed, and not as an item of its own, unless it is a repost or a reply and so has others to ask. -/
structure Spares (h : Hydration) (images : ImageService) (uri : AtUri) : Prop where
  reply : ∀ view, h.replySlot images uri ≠ .blocked view
  quotes : ∀ (host : AtUri) (view : EmbedView) (slot : RecordSlot), h.embeds[host]? = some view →
    view.slot? = some slot → slot.uri = uri → ∀ blocked, slot ≠ .blocked blocked
  items : ∀ item : SkeletonItem, item.post = uri → item.repost = none →
    (∀ post, h.posts[uri]? = some post → post.ancestors? = none) → h.judge item ≠ .blocked

theorem Hides.not_spares {h : Hydration} {images : ImageService} {uri : AtUri}
    (hhides : h.Hides images uri) : ¬ h.Spares images uri := by
  obtain ⟨view, hview⟩ := hhides.reply
  exact fun hspares => hspares.reply view hview

variable {index : Index} {images : ImageService} {nameBytes : Nat} {viewer : Option Did}
  {items : List SkeletonItem} {h : Hydration} {uri : AtUri} {post : Post}

theorem judgePost_eq_blocked {author : Actor} {reposters : List Actor} :
    h.judgePost post author reposters = .blocked ↔ author.hasBlock = true ∨
      reposters.any Actor.hasBlock = true ∨ h.repliesToBlocked post = true := by
  rw [← or_assoc, ← Bool.or_eq_true]
  unfold judgePost
  constructor
  · intro hblocked
    split at hblocked
    · exact Or.inl ‹_›
    · split at hblocked
      · exact Or.inr ‹_›
      · split at hblocked <;> cases hblocked
  · rintro (hblock | hreply)
    · rw [if_pos hblock]
    · rw [if_pos hreply, ite_self]

theorem hasBlock_author_iff (hpage : h.IsOf index images nameBytes viewer items)
    (hpost : h.posts[uri]? = some post) {author : Actor}
    (hauthor : h.actors[post.author]? = some author) :
    author.hasBlock = true ↔ index.tables.Parts viewer uri.authority := by
  rw [Tables.author_of_post? (hpage.posts.value_eq hpost)] at hauthor
  exact Actor.hasBlock_iff_parts (Index.relationship_of_actor? (hpage.actors.value_eq hauthor))

theorem isExactSlot_of_embeds (hpage : h.IsOf index images nameBytes viewer items)
    (hout : index.outage = none) {host : AtUri} {view : EmbedView} {slot : RecordSlot}
    (hview : h.embeds[host]? = some view) (hslot : view.slot? = some slot) (huri : slot.uri = uri) :
    IsExactSlot index images nameBytes viewer uri slot := by
  have hembed := (hpage.wholeEmbeds hout).value_eq hview
  obtain ⟨post, -, hembed⟩ := Option.bind_eq_some_iff.1 hembed
  obtain ⟨host, -, hembed⟩ := Option.bind_eq_some_iff.1 hembed
  obtain ⟨target, -, rfl⟩ := EmbedContext.slot_of_embedView? hembed hslot
  have hexact := EmbedContext.isExactSlot_slot
    (EmbedContext.isWhole_embedContext index images nameBytes viewer target.uri)
  rwa [← huri, hexact.uri_eq]

section Page

variable (hpage : h.IsOf index images nameBytes viewer items) (hout : index.outage = none)
  (hpost : h.posts[uri]? = some post)

include hpage hout hpost

theorem hides_of_parts (hparts : index.tables.Parts viewer uri.authority) :
    h.Hides images uri where
  reply := by
    have hexact := isExactReplySlot_replySlot hpage hout (hpage.posts.mem hpost)
    exact hexact.exists_blocked_iff.2
      ⟨Tables.exists_map_visible?_iff.1 ⟨post, hpage.posts.value_eq hpost⟩, hparts⟩
  quotes := by
    rintro host view slot hview hslot huri quote rfl
    cases isExactSlot_of_embeds hpage hout hview hslot huri with
    | quote _ hshows => exact hshows.parts hparts
  items := by
    rintro item rfl hkeep
    obtain ⟨post', author, hpost', hauthor, ⟨hblock, -⟩, -⟩ := judge_eq_keep.1 hkeep
    obtain rfl : post = post' := Option.some.inj (hpost.symm.trans hpost')
    rw [(hasBlock_author_iff hpage hpost hauthor).2 hparts] at hblock
    cases hblock

theorem spares_of_not_parts (hparts : ¬ index.tables.Parts viewer uri.authority) :
    h.Spares images uri where
  reply := by
    intro view hview
    have hexact := isExactReplySlot_replySlot hpage hout (hpage.posts.mem hpost)
    exact hparts (hexact.exists_blocked_iff.1 ⟨view, hview⟩).parts
  quotes := by
    rintro host view slot hview hslot huri blocked rfl
    cases isExactSlot_of_embeds hpage hout hview hslot huri with
    | blocked _ hhides => exact hparts hhides.parts
  items := by
    rintro item rfl hrepost hancestors
    unfold judge
    simp only [hpost, hrepost]
    cases hauthor : h.actors[post.author]? with
    | none => exact Verdict.noConfusion
    | some author =>
      dsimp only
      rw [Ne, judgePost_eq_blocked, hasBlock_author_iff hpage hpost hauthor, repliesToBlocked,
        hancestors post hpost]
      simp [hparts]

/-- A page keeps back a post that stands exactly if a block parts its owner from the viewer. -/
theorem hides_iff : h.Hides images uri ↔ index.tables.Parts viewer uri.authority := by
  constructor
  · intro hhides
    by_contra hparts
    exact hhides.not_spares (spares_of_not_parts hpage hout hpost hparts)
  · exact hides_of_parts hpage hout hpost

theorem spares_iff : h.Spares images uri ↔ ¬ index.tables.Parts viewer uri.authority := by
  constructor
  · intro hspares hparts
    exact (hides_of_parts hpage hout hpost hparts).not_spares hspares
  · exact spares_of_not_parts hpage hout hpost

end Page

end Hydration

namespace Fetch

/-- **Both ends mirror each other.** Without an outage, two accounts have a relationship to each
other, and each is the mirror image of the other: a block that is named at one end is known at the
other, and the same records of follows are named. So there is a block at both ends or at none, and a
page for one keeps back the posts of the other exactly if every page for the other keeps back
theirs. -/
theorem relationships_mirror {index : Index} (hout : index.outage = none) {viewer other : Did}
    (hne : viewer ≠ other) :
    ∃ found found' r r', (relationships [other] (some viewer)).Gives index found ∧
      (relationships [viewer] (some other)).Gives index found' ∧
      found[other]? = some r ∧ found'[viewer]? = some r' ∧ r.Mirrors r' ∧
      r.hasBlock = r'.hasBlock ∧
      ∀ (images : ImageService) (nameBytes : Nat) (items items' : List SkeletonItem)
        (page page' : Hydration),
        (hydrate images nameBytes items (some viewer)).Gives index page →
        (hydrate images nameBytes items' (some other)).Gives index page' →
        ∀ uri ∈ page.posts, ∀ uri' ∈ page'.posts, uri.authority = other → uri'.authority = viewer →
          (page.Hides images uri ↔ page'.Hides images uri') ∧
          (page.Hides images uri ↔ r.hasBlock = true) ∧
          (page.Spares images uri ↔ r.hasBlock = false) := by
  obtain ⟨found, hfound⟩ := answers_relationships hout [other] (some viewer)
  obtain ⟨found', hfound'⟩ := answers_relationships hout [viewer] (some other)
  have hmirrors := index.tables.mirrors_relationship hne
  refine ⟨found, found', _, _, hfound, hfound',
    (relationships_isLookup hfound).getElem?_of_mem List.mem_cons_self,
    (relationships_isLookup hfound').getElem?_of_mem List.mem_cons_self, hmirrors,
    hmirrors.hasBlock_eq, ?_⟩
  intro images nameBytes items items' page page' hpage hpage' uri huri uri' huri' howner howner'
  obtain ⟨post, hpost⟩ := Option.isSome_iff_exists.1 (ExtTreeMap.mem_iff_isSome_getElem?.1 huri)
  obtain ⟨post', hpost'⟩ := Option.isSome_iff_exists.1 (ExtTreeMap.mem_iff_isSome_getElem?.1 huri')
  have hhides := Hydration.hides_iff (hydrate_isOf hpage) hout hpost
  have hhides' := Hydration.hides_iff (hydrate_isOf hpage') hout hpost'
  have hspares := Hydration.spares_iff (hydrate_isOf hpage) hout hpost
  rw [howner, Tables.parts_viewer_iff] at hhides hspares
  rw [howner', Tables.parts_viewer_iff, ← hmirrors.hasBlock_eq] at hhides'
  exact ⟨hhides.trans hhides'.symm, hhides, hspares.trans (by rw [Bool.not_eq_true])⟩

end Fetch

namespace Sample

def viewerPost : AtUri :=
  { foePost with authority := viewer, fits := by decide }

/-- The small index, but the viewer, who blocks the foe, has an account and a post too. -/
def feud : Index :=
  { index with
    tables := { tables with
      actors := tables.actors.insert viewer account
      posts := tables.posts.insert viewerPost (postRow "\x7b\x7d") } }

/-- What a page says about one post. -/
def pageOf (uri : AtUri) (did : Did) : Fetch Hydration :=
  Fetch.hydrate service.images 64 [⟨uri, none, none⟩] (some did)

theorem any_foePost : ((pageOf foePost viewer).run feud).result.toOption.any
    (·.posts.contains foePost) = true := by
  decide +kernel

theorem any_viewerPost : ((pageOf viewerPost foe).run feud).result.toOption.any
    (·.posts.contains viewerPost) = true := by
  decide +kernel

/-- The viewer blocks the foe, and neither sees the other's post. -/
theorem relationships_mirror_feud :
    feud.outage = none ∧ viewer ≠ foe ∧
    ∃ page page', (pageOf foePost viewer).Gives feud page ∧
      (pageOf viewerPost foe).Gives feud page' ∧
      page.Hides service.images foePost ∧ page'.Hides service.images viewerPost := by
  have hout : feud.outage = none := rfl
  have hne : viewer ≠ foe := by decide
  obtain ⟨page, hpage, hmem⟩ := Fetch.exists_gives any_foePost
  obtain ⟨page', hpage', hmem'⟩ := Fetch.exists_gives any_viewerPost
  obtain ⟨found, -, r, -, hfound, -, hr, -, -, -, hposts⟩ := Fetch.relationships_mirror hout hne
  obtain ⟨hboth, hhides, -⟩ := hposts service.images 64 _ _ page page' hpage hpage' foePost
    (ExtTreeMap.contains_iff_mem.1 hmem) viewerPost (ExtTreeMap.contains_iff_mem.1 hmem') rfl rfl
  have hblock : r.hasBlock = true := by
    obtain rfl := Option.some.inj ((Fetch.relationships_isLookup hfound).value_eq hr)
    rw [Tables.hasBlock_relationship_iff hne.symm]
    exact ⟨⟨block, viewer, foe⟩, List.mem_cons_self, Or.inl ⟨rfl, rfl⟩⟩
  have hhidden : page.Hides service.images foePost := hhides.2 hblock
  exact ⟨hout, hne, page, page', hpage, hpage', hhidden, hboth.1 hhidden⟩

end Sample

end FeedHydration
