import FeedHydration.Proofs.Embed
import FeedHydration.Proofs.Standing

/-!
# Exact embeds

What an embed is shown as is told by the host and the index. Media is addressed in the name of the
host's author. A record is shown with all that its row, its owner and its labels say; a post behind
a block is hidden; and all else is missing. Resolving hosts in a batch, with accounts and labels
that were known before, changes nothing of this.
-/

namespace FeedHydration

open Std (ExtTreeMap)

/-! ### What is exact -/

section Exact

variable (index : Index) (images : ImageService) (nameBytes : Nat) (viewer : Option Did)

/-- What stands in the place of an embedded record. -/
inductive IsExactSlot (uri : AtUri) : RecordSlot → Prop where
  | blocked {r : Relationship} (hcollection : uri.collection = Collection.post)
      (hpost : index.tables.HidesPost viewer uri)
      (howner : index.tables.relationship? viewer uri.authority = some r) :
      IsExactSlot uri (.blocked { uri := uri, author := .ofBlock uri.authority r })
  | quote {row : PostRow} {body : Json} {author : ProfileView}
      (hcollection : uri.collection = Collection.post)
      (hpost : index.tables.ShowsPost viewer uri row body)
      (hauthor : index.profile? images nameBytes viewer uri.authority = some author) :
      IsExactSlot uri (.quote {
        uri := uri
        cid := row.cid
        author := author
        value := body
        labels := index.labelsOf uri.text
        replyCount := row.replyCount
        repostCount := row.repostCount
        likeCount := row.likeCount
        indexedAt := row.indexedAt })
  | generator {row : GeneratorRow} {creator : ProfileView}
      (hcollection : uri.collection = Collection.generator)
      (hrow : index.tables.generators[uri]? = some row) (hstands : row.takenDown = false)
      (hcreator : index.profile? images nameBytes viewer uri.authority = some creator) :
      IsExactSlot uri (.generator {
        uri := uri
        cid := row.cid
        did := row.serviceDid
        creator := creator
        displayName := row.displayName
        description := row.description
        avatar := row.avatar.map (images.address .avatar uri.authority)
        likeCount := row.likeCount
        viewer := (index.tables.viewerLike viewer uri).map fun like => ⟨some like⟩
        indexedAt := row.indexedAt
        labels := index.labelsOf uri.text })
  | list {row : ListRow} {creator : ProfileView}
      (hcollection : uri.collection = Collection.list)
      (hrow : index.tables.lists[uri]? = some row) (hstands : row.takenDown = false)
      (hcreator : index.profile? images nameBytes viewer uri.authority = some creator) :
      IsExactSlot uri (.list {
        uri := uri
        cid := row.cid
        creator := creator
        name := row.name
        purpose := row.purpose
        description := row.description
        avatar := row.avatar.map (images.address .avatar uri.authority)
        indexedAt := row.indexedAt
        labels := index.labelsOf uri.text })
  | missing (hpost : uri.collection = Collection.post → index.tables.LacksPost viewer uri)
      (hgenerator : uri.collection = Collection.generator →
        ¬ index.tables.HasRecord index.tables.generators (·.takenDown) uri)
      (hlist : uri.collection = Collection.list →
        ¬ index.tables.HasRecord index.tables.lists (·.takenDown) uri) :
      IsExactSlot uri (.missing { uri := uri })

/-- Media that an account has posted. -/
inductive IsExactMedia (author : Did) : PostedMedia → MediaView → Prop where
  | images (posted : List PostedImage) : IsExactMedia author (.images posted)
      (.images (posted.map fun image => {
        thumb := images.address .feedThumbnail author image.image.cid
        fullsize := images.address .feedFullsize author image.image.cid
        alt := image.alt
        aspectRatio := image.aspectRatio }))
  | external (link : PostedLink) : IsExactMedia author (.external link)
      (.external {
        uri := link.uri
        title := link.title
        description := link.description
        thumb := link.thumb.map fun blob => images.address .feedThumbnail author blob.cid })

/-- What an embed of an author is shown as. A record beside media that cannot be shown has no
view. -/
inductive IsExactEmbed (author : Did) : PostEmbed → EmbedView → Prop where
  | media {media : PostedMedia} {view : MediaView}
      (hmedia : IsExactMedia images author media view) :
      IsExactEmbed author (.media media) (.media view)
  | record {target : StrongRef} {slot : RecordSlot}
      (hslot : IsExactSlot index images nameBytes viewer target.uri slot) :
      IsExactEmbed author (.record target) (.record slot)
  | recordWithMedia {target : StrongRef} {slot : RecordSlot} {media : PostedMedia}
      {view : MediaView} (hslot : IsExactSlot index images nameBytes viewer target.uri slot)
      (hmedia : IsExactMedia images author media view) :
      IsExactEmbed author (.recordWithMedia target (some media)) (.recordWithMedia slot view)

end Exact

theorem IsExactSlot.uri_eq {index : Index} {images : ImageService} {nameBytes : Nat}
    {viewer : Option Did} {uri : AtUri} {slot : RecordSlot}
    (h : IsExactSlot index images nameBytes viewer uri slot) : slot.uri = uri := by
  cases h <;> rfl

theorem Display.isExactMedia_media (d : Display) (author : Did) (media : PostedMedia) :
    IsExactMedia d.images author media (d.media author media) := by
  cases media with
  | images posted => exact .images posted
  | external link => exact .external link

namespace EmbedContext

/-- A context that has read all about a record: the record, and if there is one, its owner, with or
without labels, and the labels of both. -/
structure IsWhole (c : EmbedContext) (index : Index) (images : ImageService) (nameBytes : Nat)
    (viewer : Option Did) (uri : AtUri) : Prop where
  images : c.display.images = images
  posts : uri.collection = Collection.post →
    c.targets.posts[uri]? = index.tables.post? viewer uri
  generators : uri.collection = Collection.generator →
    c.targets.generators[uri]? = index.tables.generator? viewer uri
  lists : uri.collection = Collection.list →
    c.targets.lists[uri]? = index.tables.list? viewer uri
  owner : uri ∈ c.targets.uris →
    ∃ mode, c.actors[uri.authority]? = index.actor? nameBytes viewer mode uri.authority
  record_labels : uri ∈ c.targets.uris → c.display.labels.get uri.text = index.labelsOf uri.text
  owner_labels : uri ∈ c.targets.uris →
    c.display.labels.get uri.authority.text = index.labelsOf uri.authority.text

variable {c : EmbedContext} {index : Index} {images : ImageService} {nameBytes : Nat}
  {viewer : Option Did} {uri : AtUri}

theorem IsWhole.exists_owner (h : c.IsWhole index images nameBytes viewer uri)
    (hmem : uri ∈ c.targets.uris) (haccount : index.tables.HasAccount uri.authority) :
    ∃ actor, c.actors[uri.authority]? = some actor ∧
      IsSeenAs index images nameBytes viewer c.display uri.authority actor := by
  obtain ⟨mode, hmode⟩ := h.owner hmem
  obtain ⟨actor, hactor⟩ := Index.exists_actor?_iff.2 haccount
  exact ⟨actor, hmode.trans hactor, isSeenAs_of_actor? hactor h.images (h.owner_labels hmem)⟩

theorem mem_uris_of_post {post : Post} (h : c.targets.posts[uri]? = some post) :
    uri ∈ c.targets.uris :=
  EmbedTargets.mem_uris.2 (Or.inl ⟨post, h⟩)

section Whole

variable (h : c.IsWhole index images nameBytes viewer uri)

include h

theorem isExactSlot_postSlot (hcollection : uri.collection = Collection.post) :
    IsExactSlot index images nameBytes viewer uri (c.postSlot uri) := by
  have hmissing : index.tables.LacksPost viewer uri →
      IsExactSlot index images nameBytes viewer uri (.missing { uri := uri }) := fun hlacks =>
    .missing (fun _ => hlacks) (fun hother => absurd (hcollection.symm.trans hother) (by decide))
      (fun hother => absurd (hcollection.symm.trans hother) (by decide))
  unfold postSlot
  rw [h.posts hcollection]
  cases index.tables.standing viewer uri with
  | absent hpost hlacks =>
    rw [hpost]
    exact hmissing hlacks
  | hidden row hpost hhides =>
    have hmem := mem_uris_of_post ((h.posts hcollection).trans hpost)
    obtain ⟨owner, hfound, howner⟩ := h.exists_owner hmem hhides.stands.owner
    obtain ⟨r, hr, -⟩ := Tables.parts_iff.1 hhides.parts
    simp only [hpost, Post.ofRow, hfound, if_pos (howner.hasBlock_iff.2 hhides.parts),
      Display.blockedAuthor_eq_ofBlock (howner.relationship.trans hr)]
    exact .blocked hcollection hhides hr
  | shown row body hpost hshows =>
    have hmem := mem_uris_of_post ((h.posts hcollection).trans hpost)
    obtain ⟨owner, hfound, howner⟩ := h.exists_owner hmem hshows.account
    simp only [hpost, Post.ofRow, hfound, if_neg (howner.hasBlock_iff.not.2 hshows.parts),
      Display.quoteView?, Tables.seenRow, hshows.body, h.record_labels hmem]
    exact .quote hcollection hshows howner.profile
  | malformed row hpost haccount hparts hbody hlacks =>
    have hmem := mem_uris_of_post ((h.posts hcollection).trans hpost)
    obtain ⟨owner, hfound, howner⟩ := h.exists_owner hmem haccount
    simp only [hpost, Post.ofRow, hfound, if_neg (howner.hasBlock_iff.not.2 hparts),
      Display.quoteView?, Tables.seenRow, hbody]
    exact hmissing hlacks

theorem isExactSlot_generatorSlot (hcollection : uri.collection = Collection.generator) :
    IsExactSlot index images nameBytes viewer uri (c.generatorSlot uri) := by
  have htarget := h.generators hcollection
  unfold generatorSlot
  by_cases hrecord : index.tables.HasRecord index.tables.generators (·.takenDown) uri
  · obtain ⟨row, hrow, hstands, haccount⟩ := hrecord
    rw [Tables.generator?, Tables.visible?_of_row hrow hstands haccount, Option.map_some] at htarget
    have hmem : uri ∈ c.targets.uris := EmbedTargets.mem_uris.2 (Or.inr (Or.inl ⟨_, htarget⟩))
    obtain ⟨owner, hfound, howner⟩ := h.exists_owner hmem haccount
    simp only [htarget, Generator.ofRow, hfound, Display.generatorView, Display.avatar,
      h.images, h.record_labels hmem]
    exact .generator hcollection hrow hstands howner.profile
  · rw [htarget, Tables.generator?, Tables.map_visible?_eq_none hrecord]
    exact .missing (fun hother => absurd (hcollection.symm.trans hother) (by decide))
      (fun _ => hrecord) (fun hother => absurd (hcollection.symm.trans hother) (by decide))

theorem isExactSlot_listSlot (hcollection : uri.collection = Collection.list) :
    IsExactSlot index images nameBytes viewer uri (c.listSlot uri) := by
  have htarget := h.lists hcollection
  unfold listSlot
  by_cases hrecord : index.tables.HasRecord index.tables.lists (·.takenDown) uri
  · obtain ⟨row, hrow, hstands, haccount⟩ := hrecord
    rw [Tables.list?, Tables.visible?_of_row hrow hstands haccount, Option.map_some] at htarget
    have hmem : uri ∈ c.targets.uris := EmbedTargets.mem_uris.2 (Or.inr (Or.inr ⟨_, htarget⟩))
    obtain ⟨owner, hfound, howner⟩ := h.exists_owner hmem haccount
    simp only [htarget, AccountList.ofRow, hfound, Display.listView, Display.avatar, h.images,
      h.record_labels hmem]
    exact .list hcollection hrow hstands howner.profile
  · rw [htarget, Tables.list?, Tables.map_visible?_eq_none hrecord]
    exact .missing (fun hother => absurd (hcollection.symm.trans hother) (by decide))
      (fun hother => absurd (hcollection.symm.trans hother) (by decide)) (fun _ => hrecord)

/-- **Slots are exact.** A context that has read all about a record shows what the index says. -/
theorem isExactSlot_slot : IsExactSlot index images nameBytes viewer uri (c.slot uri) := by
  by_cases hpost : uri.collection = Collection.post
  · rw [slot_of_post hpost]
    exact isExactSlot_postSlot h hpost
  by_cases hgenerator : uri.collection = Collection.generator
  · rw [slot_of_generator hgenerator]
    exact isExactSlot_generatorSlot h hgenerator
  by_cases hlist : uri.collection = Collection.list
  · rw [slot_of_list hlist]
    exact isExactSlot_listSlot h hlist
  rw [slot_of_other hpost hgenerator hlist]
  exact .missing (fun h => absurd h hpost) (fun h => absurd h hgenerator) fun h => absurd h hlist

end Whole

theorem isWhole_embedContext (index : Index) (images : ImageService) (nameBytes : Nat)
    (viewer : Option Did) (uri : AtUri) :
    (index.embedContext images nameBytes viewer).IsWhole index images nameBytes viewer uri where
  images := rfl
  posts := fun _ => getElem?_posts_embedContext uri
  generators := fun _ => getElem?_generators_embedContext uri
  lists := fun _ => getElem?_lists_embedContext uri
  owner := fun _ => ⟨.withoutLabels, getElem?_actors_embedContext _⟩
  record_labels := fun _ => index.get_labelSet _
  owner_labels := fun _ => index.get_labelSet _

theorem embedView?_eq_none_iff {host : EmbedHost} :
    c.embedView? host = none ↔ ∃ target, host.embed = .recordWithMedia target none := by
  unfold embedView?
  cases hembed : host.embed with
  | media media => simp
  | record target => simp
  | recordWithMedia target media => cases media <;> simp

/-- The embed of a host whose record, if there is one, a context has read all about. -/
theorem isExactEmbed_embedView? {host : EmbedHost} {view : EmbedView}
    (himages : c.display.images = images)
    (h : ∀ target, host.embed.target? = some target →
      c.IsWhole index images nameBytes viewer target.uri)
    (hview : c.embedView? host = some view) :
    IsExactEmbed index images nameBytes viewer host.post.author host.embed view := by
  subst himages
  unfold embedView? at hview
  cases hembed : host.embed with
  | media media =>
    simp only [hembed, Option.some.injEq] at hview
    subst hview
    exact .media (c.display.isExactMedia_media _ media)
  | record target =>
    simp only [hembed, Option.some.injEq] at hview
    subst hview
    exact .record (isExactSlot_slot (h target (by rw [hembed]; rfl)))
  | recordWithMedia target media =>
    simp only [hembed, Option.map_eq_some_iff] at hview
    obtain ⟨media, rfl, rfl⟩ := hview
    exact .recordWithMedia (isExactSlot_slot (h target (by rw [hembed]; rfl)))
      (c.display.isExactMedia_media _ media)

end EmbedContext

/-! ### Hosts -/

/-- A post with an embed that is shown. -/
def Post.IsHost (post : Post) : Prop :=
  ∃ embed, PostEmbed.ofBody? post.body = some embed ∧ ∀ target, embed ≠ .recordWithMedia target none

namespace EmbedContext

/-- What the embed of a post is shown as in a context, if it is shown. -/
def view? (c : EmbedContext) (post : Post) : Option EmbedView :=
  (EmbedHost.ofPost? post).bind c.embedView?

theorem isSome_view? {c : EmbedContext} {post : Post} :
    (c.view? post).isSome = true ↔ post.IsHost := by
  unfold view? EmbedHost.ofPost? Post.IsHost
  cases hembed : PostEmbed.ofBody? post.body with
  | none => simp
  | some embed =>
    rw [Option.map_some, Option.bind_some, ← Option.not_isNone, Bool.not_eq_true',
      ← Bool.not_eq_true, Option.isNone_iff_eq_none, embedView?_eq_none_iff]
    simp

theorem embedRows_eq (c : EmbedContext) (posts : List Post) :
    Fetch.embedRows c (posts.filterMap EmbedHost.ofPost?) =
      posts.filterMap fun post => (c.view? post).map (post.uri, ·) := by
  rw [Fetch.embedRows, List.filterMap_filterMap]
  apply List.filterMap_congr
  intro post _
  unfold view?
  cases hhost : EmbedHost.ofPost? post with
  | none => rfl
  | some host => rw [Option.bind_some, Option.bind_some, EmbedHost.post_of_ofPost? hhost]

end EmbedContext

namespace Fetch

variable {index : Index} {images : ImageService} {nameBytes : Nat} {viewer : Option Did}
  {known : ExtTreeMap Did Actor} {labels : LabelSet}

/-- Without an outage, a context has read all about every record that the hosts embed. -/
theorem embedContext_isWhole (hout : index.outage = none)
    (hknown : ∀ (did : Did) (actor : Actor), known[did]? = some actor →
      ∃ mode, index.actor? nameBytes viewer mode did = some actor)
    {subjects : List String} (hlabels : labels.IsOf index subjects)
    (hcovered : ∀ (did : Did) (actor : Actor), known[did]? = some actor → did.text ∈ subjects)
    {hosts : List EmbedHost} {c : EmbedContext}
    (h : (embedContext images nameBytes hosts viewer known labels).Gives index c)
    {host : EmbedHost} (hhost : host ∈ hosts) {target : StrongRef}
    (htarget : host.embed.target? = some target) :
    c.IsWhole index images nameBytes viewer target.uri := by
  obtain ⟨hposts, hgenerators, hlists⟩ := embedContext_targets hout h hhost htarget
  have hshows := embedContext_showsAs hout hlabels hcovered h target.uri
  refine ⟨images_of_embedContext h, hposts, hgenerators, hlists, fun hmem => ?_,
    fun hmem => (hshows hmem).1.labels.trans (index.get_labelSet _),
    fun hmem => (hshows hmem).2.labels.trans (index.get_labelSet _)⟩
  rw [owner_of_embedContext h (answers_loadActors hout) hmem]
  cases hfound : known[target.uri.authority]? with
  | some actor =>
    obtain ⟨mode, hmode⟩ := hknown _ _ hfound
    exact ⟨mode, hmode.symm⟩
  | none => exact ⟨.withoutLabels, Option.none_or⟩

/-- **Embeds are exact.** Without an outage there is an embed for each host whose embed is shown,
and it is what the host and the index tell, whatever hosts it is resolved with, in whatever order,
and whichever accounts and labels were known before. Of hosts with one uri the last counts. -/
theorem embeds_exact (hout : index.outage = none)
    (hknown : ∀ (did : Did) (actor : Actor), known[did]? = some actor →
      ∃ mode, index.actor? nameBytes viewer mode did = some actor)
    {subjects : List String} (hlabels : labels.IsOf index subjects)
    (hcovered : ∀ (did : Did) (actor : Actor), known[did]? = some actor → did.text ∈ subjects)
    (images : ImageService) (posts : List Post) :
    ∃ views, (embeds images nameBytes posts viewer known labels).Gives index views ∧
      (∀ uri, uri ∈ views ↔ ∃ post ∈ posts, post.uri = uri ∧ post.IsHost) ∧
      ∀ before post after, posts = before ++ post :: after → post.IsHost →
        (∀ later ∈ after, later.uri = post.uri → ¬ later.IsHost) →
        ∃ embed view, PostEmbed.ofBody? post.body = some embed ∧ views[post.uri]? = some view ∧
          IsExactEmbed index images nameBytes viewer post.author embed view := by
  obtain ⟨views, hviews⟩ : (embeds images nameBytes posts viewer known labels).Answers index :=
    answers_embeds images posts known labels
  obtain ⟨c, hc, rfl⟩ := exists_context_of_embeds hviews
  rw [EmbedContext.embedRows_eq] at hviews
  refine ⟨_, hviews, fun uri => ?_, ?_⟩
  · rw [ExtTreeMap.mem_ofList, List.contains_iff_mem, List.mem_map]
    simp only [List.mem_filterMap, Option.map_eq_some_iff, ← EmbedContext.isSome_view? (c := c),
      Option.isSome_iff_exists]
    constructor
    · rintro ⟨_, ⟨post, hmem, view, hview, rfl⟩, rfl⟩
      exact ⟨post, hmem, rfl, view, hview⟩
    · rintro ⟨post, hmem, rfl, view, hview⟩
      exact ⟨_, ⟨post, hmem, view, hview, rfl⟩, rfl⟩
  · rintro before post after rfl hhost hlater
    obtain ⟨view, hview⟩ := Option.isSome_iff_exists.1 (EmbedContext.isSome_view? (c := c).2 hhost)
    obtain ⟨host, hofPost, hembed⟩ := Option.bind_eq_some_iff.1 hview
    have hmem : host ∈ (before ++ post :: after).filterMap EmbedHost.ofPost? :=
      List.mem_filterMap.2 ⟨post, by simp, hofPost⟩
    have hexact := EmbedContext.isExactEmbed_embedView? (images_of_embedContext hc)
      (fun target htarget => embedContext_isWhole hout hknown hlabels hcovered hc hmem htarget)
      hembed
    obtain ⟨embed, hbody, rfl⟩ := Option.map_eq_some_iff.1 hofPost
    refine ⟨embed, view, hbody, ?_, hexact⟩
    rw [List.filterMap_append, List.filterMap_cons_some (by rw [hview]; rfl)]
    apply getElem?_ofList_append_cons
    intro row hrow
    obtain ⟨later, hafter, hrow⟩ := List.mem_filterMap.1 hrow
    obtain ⟨view', hview', heq⟩ := Option.map_eq_some_iff.1 hrow
    refine hlater later hafter (congrArg Prod.fst heq) ?_
    exact EmbedContext.isSome_view?.1 (Option.isSome_iff_exists.2 ⟨view', hview'⟩)

end Fetch

namespace Sample

/-- A host that embeds the generator of the foe. -/
def advert : Post := .ofRow friendPost (postRow embedding)

theorem ofBody?_advert : PostEmbed.ofBody? advert.body = some (.record ⟨foeGenerator, cid⟩) := by
  decide +kernel

/-- The foe is known before, and their generator is shown all the same. -/
theorem embeds_exact_sample :
    index.outage = none ∧ ∃ (known : ExtTreeMap Did Actor) (labels : LabelSet),
      foe ∈ known ∧ labels.IsOf index [foe.text] ∧
      (∀ (did : Did) (actor : Actor), known[did]? = some actor →
        ∃ mode, index.actor? 64 (some viewer) mode did = some actor) ∧
      (∀ (did : Did) (actor : Actor), known[did]? = some actor → did.text ∈ [foe.text]) ∧
      ∃ views, (Fetch.embeds service.images 64 [advert] (some viewer) known labels).Gives index
          views ∧
        ∃ view, views[friendPost]? = some (.record (.generator view)) ∧
          view.uri = foeGenerator := by
  have hout : index.outage = none := rfl
  have haccount : index.tables.HasAccount foe := ⟨account, by decide +kernel, rfl, rfl⟩
  obtain ⟨actor, hactor⟩ : ∃ actor, index.actor? 64 (some viewer) .withLabels foe = some actor :=
    Index.exists_actor?_iff.2 haccount
  obtain ⟨labels, hlabels⟩ := Fetch.answers_labelSet hout [foe.text]
  have hentry : ∀ (did : Did) (known : Actor),
      (ExtTreeMap.ofList [(foe, actor)])[did]? = some known → did = foe ∧ known = actor :=
    fun did known h => Prod.mk.inj (List.mem_singleton.1 (mem_of_getElem?_ofList h))
  have hknown : ∀ (did : Did) (known : Actor),
      (ExtTreeMap.ofList [(foe, actor)])[did]? = some known →
        ∃ mode, index.actor? 64 (some viewer) mode did = some known := by
    intro did known h
    obtain ⟨rfl, rfl⟩ := hentry did known h
    exact ⟨_, hactor⟩
  have hcovered : ∀ (did : Did) (known : Actor),
      (ExtTreeMap.ofList [(foe, actor)])[did]? = some known → did.text ∈ [foe.text] := by
    intro did known h
    rw [(hentry did known h).1]
    exact List.mem_singleton_self _
  obtain ⟨views, hviews, -, hexact⟩ := Fetch.embeds_exact hout hknown
    (Fetch.labelSet_isOf hlabels) hcovered service.images [advert]
  have hhost : advert.IsHost := ⟨_, ofBody?_advert, fun target => by simp⟩
  obtain ⟨embed, view, hbody, hview, hshown⟩ := hexact [] advert [] rfl hhost (by simp)
  rw [ofBody?_advert] at hbody
  cases hbody
  refine ⟨hout, _, labels, ?_, Fetch.labelSet_isOf hlabels, hknown, hcovered, views, hviews, ?_⟩
  · simp
  cases hshown with
  | record hslot =>
    cases hslot with
    | blocked hcollection => exact absurd hcollection (by decide)
    | quote hcollection => exact absurd hcollection (by decide)
    | list hcollection => exact absurd hcollection (by decide)
    | generator => exact ⟨_, hview, rfl⟩
    | missing _ hgenerator =>
      exact absurd ⟨generatorRow, by decide +kernel, rfl, haccount⟩ (hgenerator rfl)

end Sample

end FeedHydration
