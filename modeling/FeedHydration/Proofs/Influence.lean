import FeedHydration.Proofs.Batch
import FeedHydration.Proofs.Block

/-!
# Influence

The posts of a blocked account are loaded like all others, and so are the records that they embed.
But the block is looked at before a body is: whatever such posts say, however often they are liked,
and whatever labels they bear, the viewer's page stays the same. Labels on a uri under which a feed
generator or a list stands too are another matter, since these are shown in spite of a block.
-/

namespace FeedHydration

open Std (ExtTreeMap)

/-- The same post as far as its thread and its moderation go. -/
def PostRow.Reworded (row row' : PostRow) : Prop :=
  row' = { row with
    cid := row'.cid
    record := row'.record
    createdAt := row'.createdAt
    indexedAt := row'.indexedAt
    likeCount := row'.likeCount
    repostCount := row'.repostCount
    replyCount := row'.replyCount }

/-- Tables that differ only in what the posts of an account say and in the labels on them. Labels on
the uri of a feed generator or a list that stands are labels of that one, so they are the same. -/
structure Tables.Reworded (did : Did) (t t' : Tables) : Prop where
  rest : t' = { t with posts := t'.posts, labels := t'.labels }
  others : ∀ uri : AtUri, uri.authority ≠ did → t.posts[uri]? = t'.posts[uri]?
  own : ∀ uri : AtUri, uri.authority = did →
    Option.Rel PostRow.Reworded t.posts[uri]? t'.posts[uri]?
  labels : ∀ subject, (∀ uri : AtUri, uri.text = subject → uri.authority = did → t.HasCard uri) →
    t.labels[subject]? = t'.labels[subject]?

def Index.withTables (index : Index) (t : Tables) : Index :=
  { index with tables := t }

/-- Posts of one author, in one place of a thread. -/
structure Post.Reworded (post post' : Post) : Prop where
  author : post.author = post'.author
  ancestors : post.ancestors? = post'.ancestors?

theorem Post.Reworded.refl (post : Post) : post.Reworded post :=
  ⟨rfl, rfl⟩

namespace Hydration

variable {h h' : Hydration} (hreposts : h.reposts = h'.reposts) (hactors : h.actors = h'.actors)

include hactors

theorem repliesToBlocked_of_reworded {post post' : Post} (hpost : post.Reworded post') :
    h.repliesToBlocked post = h'.repliesToBlocked post' := by
  unfold repliesToBlocked
  rw [hpost.ancestors]
  unfold ownerIsBlocked
  rw [hactors]

include hreposts

/-- The rules look at no more of a post than its author and what it replies to. -/
theorem judge_of_reworded (item : SkeletonItem)
    (hpost : Option.Rel Post.Reworded h.posts[item.post]? h'.posts[item.post]?) :
    h.judge item = h'.judge item := by
  unfold judge
  generalize h.posts[item.post]? = found, h'.posts[item.post]? = found' at hpost ⊢
  cases hpost with
  | none => rfl
  | some hpost =>
    rename_i post post'
    have hjudge : h.judgePost post = h'.judgePost post' := by
      funext author reposters
      rw [judgePost, judgePost, repliesToBlocked_of_reworded hactors hpost]
    have hreposter : h.reposter? = h'.reposter? := by
      funext uri
      rw [reposter?, reposter?, hreposts, hactors]
    simp only [hpost.author, hactors, hjudge, hreposter]

end Hydration

namespace Tables.Reworded

variable {index : Index} {t' : Tables} {did : Did} {images : ImageService} {nameBytes : Nat}
  {viewer : Option Did} {uri : AtUri} (h : index.tables.Reworded did t')

include h

/-! ### What stays -/

theorem actor?_eq : (index.withTables t').actor? nameBytes viewer .withoutLabels =
    index.actor? nameBytes viewer .withoutLabels := by
  rw [h.rest]
  rfl

theorem generator?_eq :
    (index.withTables t').tables.generator? viewer = index.tables.generator? viewer := by
  rw [h.rest]
  rfl

theorem list?_eq : (index.withTables t').tables.list? viewer = index.tables.list? viewer := by
  rw [h.rest]
  rfl

theorem post?_eq_of_ne (hne : uri.authority ≠ did) :
    (index.withTables t').tables.post? viewer uri = index.tables.post? viewer uri := by
  have hrow : index.tables.posts[uri]? = (index.withTables t').tables.posts[uri]? :=
    h.others uri hne
  unfold Tables.post? Tables.visible?
  rw [← hrow, h.rest]
  rfl

/-- No post comes or goes, and each stays where it was in its thread. -/
theorem rel_post? (viewer : Option Did) (uri : AtUri) :
    Option.Rel Post.Reworded (index.tables.post? viewer uri)
      ((index.withTables t').tables.post? viewer uri) := by
  by_cases hown : uri.authority = did
  · have hrow : Option.Rel PostRow.Reworded index.tables.posts[uri]?
        (index.withTables t').tables.posts[uri]? := h.own uri hown
    have hlive : (index.withTables t').tables.isLive = index.tables.isLive := by
      rw [h.rest]
      rfl
    unfold Tables.post? Tables.visible?
    rw [hlive]
    generalize index.tables.posts[uri]? = found,
      (index.withTables t').tables.posts[uri]? = found' at hrow ⊢
    cases hrow with
    | none => exact .none
    | some hrow =>
      rename_i row row'
      rw [hrow]
      by_cases hshown : (!row.takenDown && index.tables.isLive uri.authority) = true
      · simp only [Option.filter_some, hshown, if_true]
        exact .some ⟨rfl, rfl⟩
      · simp only [Option.filter_some, hshown]
        exact .none
  · rw [h.post?_eq_of_ne hown]
    cases index.tables.post? viewer uri with
    | none => exact .none
    | some post => exact .some (.refl post)

theorem post?_cases_of_eq (viewer : Option Did) (hown : uri.authority = did) :
    (index.tables.post? viewer uri = none ∧
        (index.withTables t').tables.post? viewer uri = none) ∨
      ∃ post post', index.tables.post? viewer uri = some post ∧
        (index.withTables t').tables.post? viewer uri = some post' ∧
        post.author = did ∧ post'.author = did := by
  have hrel := h.rel_post? viewer uri
  cases hpost : index.tables.post? viewer uri with
  | none =>
    cases hpost' : (index.withTables t').tables.post? viewer uri with
    | none => exact Or.inl ⟨rfl, rfl⟩
    | some post' =>
      rw [hpost, hpost'] at hrel
      cases hrel
  | some post =>
    cases hpost' : (index.withTables t').tables.post? viewer uri with
    | none =>
      rw [hpost, hpost'] at hrel
      cases hrel
    | some post' =>
      exact Or.inr ⟨post, post', rfl, rfl, (Tables.author_of_post? hpost).trans hown,
        (Tables.author_of_post? hpost').trans hown⟩

theorem labelSet_get_eq {subject : String}
    (hsubject : ∀ uri : AtUri, uri.text = subject → uri.authority = did →
      index.tables.HasCard uri) :
    (index.withTables t').labelSet.get subject = index.labelSet.get subject := by
  rw [Index.get_labelSet, Index.get_labelSet]
  unfold Index.labelsOf
  rw [h.labels subject hsubject]
  rfl

theorem agree_account (did' : Did) :
    Display.Agree ⟨images, (index.withTables t').labelSet⟩ ⟨images, index.labelSet⟩ did'.text where
  images := rfl
  labels := h.labelSet_get_eq fun uri htext => absurd htext (uri.text_ne_text_did did')

theorem agree_record (huri : uri.authority = did → index.tables.HasCard uri) :
    Display.Agree ⟨images, (index.withTables t').labelSet⟩ ⟨images, index.labelSet⟩ uri.text where
  images := rfl
  labels := h.labelSet_get_eq fun uri' htext hown => by
    rw [AtUri.text_injective htext] at hown ⊢
    exact huri hown

theorem judge_eq (item : SkeletonItem) :
    (index.hydration images nameBytes viewer).judge item =
      ((index.withTables t').hydration images nameBytes viewer).judge item := by
  apply Hydration.judge_of_reworded
  · unfold Index.hydration Index.withTables
    rw [h.rest]
    rfl
  · unfold Index.hydration
    rw [h.actor?_eq]
    unfold Index.withTables
    rw [h.rest]
  · rw [Hydration.getElem?_posts_hydration, Hydration.getElem?_posts_hydration]
    exact h.rel_post? viewer item.post

/-! ### What is shown -/

/-- Where the record is no post of the account, both indexes have the same about it. -/
theorem agreeAt (huri : uri.authority = did → uri.collection ≠ Collection.post) :
    ((index.withTables t').embedContext images nameBytes viewer).AgreeAt
      (index.embedContext images nameBytes viewer) uri := by
  have hactors : ∀ did' : Did,
      ((index.withTables t').embedContext images nameBytes viewer).actors[did']? =
        (index.embedContext images nameBytes viewer).actors[did']? := by
    intro did'
    rw [EmbedContext.getElem?_actors_embedContext, EmbedContext.getElem?_actors_embedContext,
      h.actor?_eq]
  refine ⟨⟨fun hcollection => ?_, fun _ => ?_, fun _ => ?_⟩, fun _ => hactors _,
    fun hholds => ?_, fun _ actor _ => h.agree_account actor.did⟩
  · rw [EmbedContext.getElem?_posts_embedContext, EmbedContext.getElem?_posts_embedContext,
      h.post?_eq_of_ne fun hown => huri hown hcollection]
  · rw [EmbedContext.getElem?_generators_embedContext,
      EmbedContext.getElem?_generators_embedContext, h.generator?_eq]
  · rw [EmbedContext.getElem?_lists_embedContext, EmbedContext.getElem?_lists_embedContext,
      h.list?_eq]
  · apply h.agree_record
    intro hown
    obtain ⟨hcollection, -⟩ | ⟨hcollection, generator, hgenerator⟩ | ⟨hcollection, list, hlist⟩ :=
      hholds
    · exact absurd hcollection (huri hown)
    · rw [EmbedContext.getElem?_generators_embedContext, h.generator?_eq] at hgenerator
      exact Or.inl ⟨hcollection, Tables.exists_map_visible?_iff.1 ⟨_, hgenerator⟩⟩
    · rw [EmbedContext.getElem?_lists_embedContext, h.list?_eq] at hlist
      exact Or.inr ⟨hcollection, Tables.exists_map_visible?_iff.1 ⟨_, hlist⟩⟩

theorem reason?_eq (item : SkeletonItem) :
    ((index.withTables t').hydration images nameBytes viewer).reason? images item =
      (index.hydration images nameBytes viewer).reason? images item := by
  have hrepost : (index.withTables t').tables.repost? = index.tables.repost? := by
    unfold Index.withTables
    rw [h.rest]
    rfl
  have hprofile :
      (((index.withTables t').hydration images nameBytes viewer).display images).profile =
        ((index.hydration images nameBytes viewer).display images).profile := by
    funext actor
    exact Display.profile_congr (h.agree_account actor.did)
  unfold Hydration.reason?
  simp only [Hydration.getElem?_reposts_hydration, Hydration.getElem?_actors_hydration,
    h.actor?_eq, hrepost, hprofile]

section Blocked

variable {viewer : Did} (hne : did ≠ viewer) (hblock : index.tables.HasBlock viewer did)

include hne hblock

/-- A post of the account is hidden in an embed before its body is looked at. -/
theorem postSlot_eq {uri : AtUri} (hown : uri.authority = did) :
    ((index.withTables t').embedContext images nameBytes (some viewer)).postSlot uri =
      (index.embedContext images nameBytes (some viewer)).postSlot uri := by
  unfold EmbedContext.postSlot
  simp only [EmbedContext.getElem?_posts_embedContext, EmbedContext.getElem?_actors_embedContext,
    h.actor?_eq]
  obtain ⟨hnone, hnone'⟩ | ⟨post, post', hpost, hpost', hauthor, hauthor'⟩ :=
    h.post?_cases_of_eq (some viewer) hown
  · simp only [hnone, hnone']
  · simp only [hpost, hpost', hauthor, hauthor']
    cases hactor : index.actor? nameBytes (some viewer) .withoutLabels did with
    | none => rfl
    | some author => simp only [(Index.hasBlock_actor?_iff hne hactor).2 hblock, if_true]

theorem slot_eq (uri : AtUri) :
    ((index.withTables t').embedContext images nameBytes (some viewer)).slot uri =
      (index.embedContext images nameBytes (some viewer)).slot uri := by
  by_cases hown : uri.authority = did ∧ uri.collection = Collection.post
  · unfold EmbedContext.slot
    rw [if_pos hown.2, if_pos hown.2]
    exact h.postSlot_eq hne hblock hown.1
  · exact EmbedContext.slot_congr EmbedContext.keyed_embedContext
      (h.agreeAt fun hauthority hcollection => hown ⟨hauthority, hcollection⟩)

theorem embed?_eq_of_ne {uri : AtUri} (hother : uri.authority ≠ did) :
    (index.withTables t').embed? images nameBytes (some viewer) uri =
      index.embed? images nameBytes (some viewer) uri := by
  have hview : ((index.withTables t').embedContext images nameBytes (some viewer)).embedView? =
      (index.embedContext images nameBytes (some viewer)).embedView? := by
    have himages : ∀ index : Index,
        (index.embedContext images nameBytes (some viewer)).display.images = images :=
      fun _ => rfl
    have hmedia :
        ((index.withTables t').embedContext images nameBytes (some viewer)).display.media =
          (index.embedContext images nameBytes (some viewer)).display.media :=
      Display.media_congr (by rw [himages, himages])
    funext host
    unfold EmbedContext.embedView?
    simp only [h.slot_eq hne hblock, hmedia]
  unfold Index.embed?
  rw [h.post?_eq_of_ne hother, hview]

theorem postView?_eq {uri : AtUri} (hother : uri.authority ≠ did) {post : Post}
    (hpost : index.tables.post? (some viewer) uri = some post) (author : Actor) :
    (((index.withTables t').hydration images nameBytes (some viewer)).display images).postView?
        post author ((index.withTables t').embed? images nameBytes (some viewer) uri) =
      ((index.hydration images nameBytes (some viewer)).display images).postView? post author
        (index.embed? images nameBytes (some viewer) uri) := by
  have hrecord : Display.Agree ⟨images, (index.withTables t').labelSet⟩
      ⟨images, index.labelSet⟩ post.uri.text := by
    rw [Tables.uri_of_post? hpost]
    exact h.agree_record fun hown => absurd hown hother
  rw [h.embed?_eq_of_ne hne hblock hother]
  exact Display.postView?_congr hrecord (h.agree_account author.did)

/-- A post of the account is hidden above a reply before its body is looked at. -/
theorem replySlot_eq (uri : AtUri) :
    ((index.withTables t').hydration images nameBytes (some viewer)).replySlot images uri =
      (index.hydration images nameBytes (some viewer)).replySlot images uri := by
  unfold Hydration.replySlot
  simp only [Hydration.getElem?_posts_hydration, Hydration.getElem?_actors_hydration,
    Hydration.getElem?_embeds_hydration, h.actor?_eq]
  by_cases hown : uri.authority = did
  · obtain ⟨hnone, hnone'⟩ | ⟨post, post', hpost, hpost', hauthor, hauthor'⟩ :=
      h.post?_cases_of_eq (some viewer) hown
    · simp only [hnone, hnone']
    · simp only [hpost, hpost', hauthor, hauthor']
      cases hactor : index.actor? nameBytes (some viewer) .withoutLabels did with
      | none => rfl
      | some author => simp only [(Index.hasBlock_actor?_iff hne hactor).2 hblock, if_true]
  · rw [h.post?_eq_of_ne hown]
    cases hfound : index.tables.post? (some viewer) uri with
    | none => rfl
    | some post => simp only [h.postView?_eq hne hblock hown hfound]

/-- An item that the rules keep is not the account's, and looks the same. -/
theorem entryOf?_eq {item : SkeletonItem}
    (hkeep : (index.hydration images nameBytes (some viewer)).judge item = .keep) :
    ((index.withTables t').hydration images nameBytes (some viewer)).entryOf? images item =
      (index.hydration images nameBytes (some viewer)).entryOf? images item := by
  obtain ⟨post, author, hpost, hauthor, hadmitted, -⟩ := Hydration.admitted_of_judge hkeep
  rw [Hydration.getElem?_posts_hydration] at hpost
  rw [Hydration.getElem?_actors_hydration, Tables.author_of_post? hpost] at hauthor
  have hother : item.post.authority ≠ did :=
    did_ne_of_hasBlock hauthor hadmitted.block hne hblock
  unfold Hydration.entryOf?
  simp only [Hydration.getElem?_posts_hydration, Hydration.getElem?_actors_hydration,
    Hydration.getElem?_embeds_hydration, h.actor?_eq, h.post?_eq_of_ne hother, hpost, hauthor,
    Tables.author_of_post? hpost, Tables.uri_of_post? hpost, h.reason?_eq,
    h.replySlot_eq hne hblock, h.postView?_eq hne hblock hother hpost, Option.bind_eq_bind,
    Option.bind_some]

end Blocked

end Tables.Reworded

/-- **A blocked account has no say.** Two indexes that differ only in what the posts of an account
say and in the labels on them show the same page to a viewer whom a block parts from it. -/
theorem FeedService.present_reworded (service : FeedService) (skeleton : Skeleton) (limit : Nat)
    (timings : StageTimings) {index : Index} {t' : Tables} {viewer did : Did}
    (hout : index.outage = none) (h : index.tables.Reworded did t') (hne : did ≠ viewer)
    (hblock : index.tables.HasBlock viewer did) :
    ∃ outcome, (service.present skeleton (some viewer) limit timings).Gives index outcome ∧
      (service.present skeleton (some viewer) limit timings).Gives (index.withTables t')
        outcome := by
  have hrules : ∀ items,
      ((index.withTables t').hydration service.images service.options.displayNameBytes
        (some viewer)).applyRules items =
      (index.hydration service.images service.options.displayNameBytes
        (some viewer)).applyRules items := by
    intro items
    unfold Hydration.applyRules
    simp only [← h.judge_eq]
  have hentry : ∀ item ∈ ((index.hydration service.images service.options.displayNameBytes
      (some viewer)).applyRules skeleton.items).items,
      ((index.withTables t').hydration service.images service.options.displayNameBytes
        (some viewer)).entryOf? service.images item =
      (index.hydration service.images service.options.displayNameBytes
        (some viewer)).entryOf? service.images item := by
    intro item hitem
    have hkeep := (List.mem_filter.1 hitem).2
    exact h.entryOf?_eq hne hblock (of_decide_eq_true hkeep)
  have hout' : (index.withTables t').outage = none := hout
  have hgives := service.gives_present skeleton (some viewer) limit timings hout'
  dsimp only at hgives
  rw [hrules, FeedOutcome.assemble, ofItems_congr limit hentry] at hgives
  exact ⟨_, service.gives_present skeleton (some viewer) limit timings hout, hgives⟩

namespace Sample

/-- The post of the foe with a body that is no JSON, with likes and with a label. -/
def reworded : Tables :=
  { tables with
    posts := tables.posts.insert foePost { postRow "lies" with likeCount := 7 }
    labels := tables.labels.insert foePost.text
      [⟨friend, foePost.text, none, "spam", false, noon, none⟩] }

theorem reworded_tables : tables.Reworded foe reworded where
  rest := rfl
  others := by
    intro uri hother
    have hne : compare foePost uri ≠ .eq := fun heq =>
      hother (congrArg AtUri.authority (Std.LawfulEqOrd.eq_of_compare heq).symm)
    exact (ExtTreeMap.getElem?_insert.trans (if_neg hne)).symm
  own := by
    intro uri _
    by_cases huri : foePost = uri
    · subst huri
      have hrow : tables.posts[foePost]? = some (postRow "\x7b\x7d") := by decide +kernel
      have hrow' : reworded.posts[foePost]? = some { postRow "lies" with likeCount := 7 } :=
        ExtTreeMap.getElem?_insert_self
      rw [hrow, hrow']
      exact .some rfl
    · have hne : compare foePost uri ≠ .eq := fun heq =>
        huri (Std.LawfulEqOrd.eq_of_compare heq)
      have hrow : reworded.posts[uri]? = tables.posts[uri]? :=
        ExtTreeMap.getElem?_insert.trans (if_neg hne)
      rw [hrow]
      cases tables.posts[uri]? with
      | none => exact .none
      | some row => exact .some rfl
  labels := by
    intro subject hsubject
    have hne : compare foePost.text subject ≠ .eq := by
      intro heq
      obtain ⟨hcollection, -⟩ | ⟨hcollection, -⟩ :=
        hsubject foePost (Std.LawfulEqOrd.eq_of_compare heq) rfl
      · exact absurd hcollection (by decide)
      · exact absurd hcollection (by decide)
    exact (ExtTreeMap.getElem?_insert.trans (if_neg hne)).symm

/-- The viewer of the small index, who blocks the foe, is shown the same page. -/
theorem present_reworded_foe :
    tables.posts[foePost]? ≠ reworded.posts[foePost]? ∧ index.tables.HasBlock viewer foe ∧
    ∃ outcome, (service.present skeleton (some viewer) 2 ⟨0, 0⟩).Gives index outcome ∧
      (service.present skeleton (some viewer) 2 ⟨0, 0⟩).Gives (index.withTables reworded)
        outcome := by
  have hblock : index.tables.HasBlock viewer foe :=
    ⟨⟨block, viewer, foe⟩, List.mem_cons_self, Or.inl ⟨rfl, rfl⟩⟩
  have hne : foe ≠ viewer := by decide
  exact ⟨by decide +kernel, hblock,
    service.present_reworded skeleton 2 ⟨0, 0⟩ rfl reworded_tables hne hblock⟩

/-- A post of the foe has the uri of their feed generator. -/
def disguise : Tables :=
  { tables with posts := tables.posts.insert foeGenerator (postRow "\x7b\x7d") }

/-- The same with a label on that post. -/
def flaggedDisguise : Tables :=
  { disguise with
    labels := disguise.labels.insert foeGenerator.text
      [⟨friend, foeGenerator.text, none, "spam", false, noon, none⟩] }

def showsLabel (outcome : FeedOutcome) : Bool :=
  outcome.page.slots.any fun slot =>
    match slot with
    | .generator view => !view.labels.isEmpty
    | _ => false

theorem any_disguise : ((service.present skeleton (some viewer) 2 ⟨0, 0⟩).run
    (index.withTables disguise)).result.toOption.any (fun outcome => !showsLabel outcome) =
      true := by
  decide +kernel

theorem any_flaggedDisguise : ((service.present skeleton (some viewer) 2 ⟨0, 0⟩).run
    (index.withTables flaggedDisguise)).result.toOption.any showsLabel = true := by
  decide +kernel

/-- A label on a post that has the uri of a standing feed generator is a label of the generator. The
embed of the friend shows it to the viewer, who blocks the foe. -/
theorem exists_label_shown :
    index.outage = none ∧ foeGenerator.authority = foe ∧ foeGenerator ∈ disguise.posts ∧
    foe ≠ viewer ∧ disguise.HasBlock viewer foe ∧
    flaggedDisguise = { disguise with labels := flaggedDisguise.labels } ∧
    (∀ subject ≠ foeGenerator.text,
      disguise.labels[subject]? = flaggedDisguise.labels[subject]?) ∧
    ∃ outcome outcome',
      (service.present skeleton (some viewer) 2 ⟨0, 0⟩).Gives (index.withTables disguise)
        outcome ∧
      (service.present skeleton (some viewer) 2 ⟨0, 0⟩).Gives (index.withTables flaggedDisguise)
        outcome' ∧
      outcome.page.feed ≠ outcome'.page.feed := by
  have hblock : disguise.HasBlock viewer foe :=
    ⟨⟨block, viewer, foe⟩, List.mem_cons_self, Or.inl ⟨rfl, rfl⟩⟩
  have hlabels : ∀ subject ≠ foeGenerator.text,
      disguise.labels[subject]? = flaggedDisguise.labels[subject]? := by
    intro subject hsubject
    have hne : compare foeGenerator.text subject ≠ .eq := fun heq =>
      hsubject (Std.LawfulEqOrd.eq_of_compare heq).symm
    exact (ExtTreeMap.getElem?_insert.trans (if_neg hne)).symm
  obtain ⟨outcome, hgives, hhidden⟩ := Fetch.exists_gives any_disguise
  obtain ⟨outcome', hgives', hshown⟩ := Fetch.exists_gives any_flaggedDisguise
  refine ⟨rfl, rfl, ExtTreeMap.mem_insert_self, by decide, hblock, rfl, hlabels, outcome, outcome',
    hgives, hgives', fun hfeed => ?_⟩
  have hslots : outcome.page.slots = outcome'.page.slots := by
    rw [FeedPage.slots, FeedPage.slots, FeedPage.posts, FeedPage.posts, hfeed]
  rw [showsLabel, hslots] at hhidden
  rw [showsLabel] at hshown
  rw [hshown] at hhidden
  cases hhidden

end Sample

end FeedHydration
