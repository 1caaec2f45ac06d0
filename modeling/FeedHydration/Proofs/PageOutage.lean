import FeedHydration.Proofs.EmbedOutage
import FeedHydration.Proofs.Page

/-!
# Pages during an outage

A page is hydrated in two parts. First all that its items lead to is loaded, and a read that fails
is an error. The embeds come last, and there a read that fails takes away embedded records at most:
the page has the same entries, in the same order, and leaves out the same items.
-/

namespace FeedHydration

open Std (ExtTreeMap)

/-! ### The two parts of a page -/

namespace Fetch

variable {index : Index} {images : ImageService} {nameBytes : Nat} {items : List SkeletonItem}
  {viewer : Option Did} {kind : ReadKind}

/-- A page without its embeds. -/
def hydrateItems (nameBytes : Nat) (items : List SkeletonItem) (viewer : Option Did) :
    Fetch Hydration := do
  if items.isEmpty then return Hydration.empty
  let uris := items.map (·.post)
  let posts ← loadPosts uris viewer
  let reposts ← loadReposts (items.filterMap (·.repost))
  let ancestors := Hydration.ancestors posts
  let accounts := Hydration.accounts items reposts ancestors
  let ancestorPosts ← loadPosts ancestors viewer
  let actors ← loadActors nameBytes accounts viewer .withoutLabels
  let labels ← labelSet (Hydration.labelSubjects accounts uris ancestors)
  return ⟨posts ∪ ancestorPosts, reposts, actors, labels, ∅⟩

/-- A page with the embeds of its posts. -/
def hydrateEmbeds (images : ImageService) (nameBytes : Nat) (viewer : Option Did)
    (page : Hydration) : Fetch Hydration := do
  let embeds ← embeds images nameBytes page.posts.values viewer page.actors page.labels
  return { page with embeds := embeds }

theorem hydrateEmbeds_empty (images : ImageService) (nameBytes : Nat) (viewer : Option Did) :
    hydrateEmbeds images nameBytes viewer Hydration.empty = Pure.pure Hydration.empty := by
  have hvalues : Hydration.empty.posts.values = [] := by
    rw [List.eq_nil_iff_forall_not_mem]
    intro post hmem
    obtain ⟨uri, hpost⟩ := mem_values.1 hmem
    simp [Hydration.empty] at hpost
  rw [hydrateEmbeds, hvalues]
  rfl

theorem hydrate_eq_bind (images : ImageService) (nameBytes : Nat) (items : List SkeletonItem)
    (viewer : Option Did) :
    hydrate images nameBytes items viewer =
      hydrateItems nameBytes items viewer >>= hydrateEmbeds images nameBytes viewer := by
  unfold hydrate hydrateItems
  split
  · rw [pure_bind, hydrateEmbeds_empty]
  · simp only [bind_assoc, pure_bind, hydrateEmbeds]

theorem isStrict_hydrateItems (nameBytes : Nat) (items : List SkeletonItem)
    (viewer : Option Did) : (hydrateItems nameBytes items viewer).IsStrict ReadKind.all := by
  refine IsStrict.ite (isStrict_pure _) ?_
  refine (isStrict_loadPosts viewer (by decide) (by decide) _).bind fun _ => ?_
  refine (isStrict_loadReposts (by decide) _).bind fun _ => ?_
  refine (isStrict_loadPosts viewer (by decide) (by decide) _).bind fun _ => ?_
  refine (isStrict_loadActors (by decide) nameBytes _ viewer).bind fun _ => ?_
  exact (isStrict_labelSet (by decide) _).bind fun _ => isStrict_pure _

/-- Every page but an empty one takes labels before its embeds. -/
theorem eq_nil_of_gives_hydrateItems {page : Hydration}
    (h : (hydrateItems nameBytes items viewer).Gives (index.withOutage .labels) page) :
    items = [] := by
  simp only [hydrateItems] at h
  split at h
  · rename_i hempty
    rwa [List.isEmpty_iff] at hempty
  · simp only [gives_bind] at h
    obtain ⟨posts, -, reposts, -, _, -, _, -, labels, hlabels, -⟩ := h
    simp only [labelSet] at hlabels
    split at hlabels
    · rename_i hempty
      simp only [Hydration.labelSubjects, Hydration.accounts, List.isEmpty_iff,
        List.append_eq_nil_iff, List.map_eq_nil_iff] at hempty
      exact hempty.1.2
    · simp only [Fetch.labels, gives_bind, gives_read] at hlabels
      obtain ⟨_, ⟨hfails, -⟩, -⟩ := hlabels
      exact absurd rfl hfails

end Fetch

/-- What may become of a page when reads fail. -/
structure Hydration.DegradesTo (h h' : Hydration) : Prop where
  posts : h'.posts = h.posts
  reposts : h'.reposts = h.reposts
  actors : h'.actors = h.actors
  labels : h'.labels = h.labels
  embeds : ∀ uri : AtUri, Option.Rel EmbedView.DegradesTo h.embeds[uri]? h'.embeds[uri]?

theorem Hydration.DegradesTo.refl (h : Hydration) : h.DegradesTo h :=
  ⟨rfl, rfl, rfl, rfl, fun _ => EmbedView.rel_of_eq rfl⟩

namespace Fetch

variable {index : Index} {images : ImageService} {nameBytes : Nat} {items : List SkeletonItem}
  {viewer : Option Did} {kind : ReadKind}

theorem gives_hydrateEmbeds {page page' : Hydration} :
    (hydrateEmbeds images nameBytes viewer page).Gives index page' ↔
      ∃ views, (embeds images nameBytes page.posts.values viewer page.actors page.labels).Gives
        index views ∧ { page with embeds := views } = page' := by
  simp only [hydrateEmbeds, gives_bind, gives_pure]

theorem hydrateEmbeds_withOutage (hout : index.outage = none) (hkind : kind ≠ .labels)
    {base page page' : Hydration}
    (hbase : (hydrateItems nameBytes items viewer).Gives index base)
    (h : (hydrateEmbeds images nameBytes viewer base).Gives index page)
    (h' : (hydrateEmbeds images nameBytes viewer base).Gives (index.withOutage kind) page') :
    page.DegradesTo page' := by
  obtain ⟨views, hviews, rfl⟩ := gives_hydrateEmbeds.1 h
  obtain ⟨views', hviews', rfl⟩ := gives_hydrateEmbeds.1 h'
  have hpage : ({ base with embeds := views } : Hydration).IsOf index images nameBytes viewer
      items := by
    apply hydrate_isOf
    rw [hydrate_eq_bind, gives_bind]
    exact ⟨base, hbase, h⟩
  have hknown : ∀ (did : Did) (actor : Actor), base.actors[did]? = some actor → actor.did = did :=
    fun did actor hactor => Index.did_of_actor? (hpage.actors.value_eq hactor)
  exact ⟨rfl, rfl, rfl, rfl, embeds_withOutage hout hkind hknown hviews hviews'⟩

theorem answers_hydrateEmbeds (index : Index) (page : Hydration) :
    (hydrateEmbeds images nameBytes viewer page).Answers index := by
  have hembeds : (embeds images nameBytes page.posts.values viewer page.actors
      page.labels).Answers index := answers_embeds images _ _ _
  exact hembeds.bind fun _ _ => answers_pure _

/-- A read that fails before the embeds fails the page; one that fails later degrades it. -/
theorem hydrate_fails_or_degrades (hout : index.outage = none) (images : ImageService) (nameBytes : Nat)
    (items : List SkeletonItem) (viewer : Option Did) (kind : ReadKind) :
    ∃ page, (hydrate images nameBytes items viewer).Gives index page ∧
      (kind ∈ ((hydrateItems nameBytes items viewer).run index).kinds →
        ((hydrate images nameBytes items viewer).run (index.withOutage kind)).result =
          .error outageError) ∧
      (kind ∉ ((hydrateItems nameBytes items viewer).run index).kinds →
        ∃ page', (hydrate images nameBytes items viewer).Gives (index.withOutage kind) page' ∧
          page.DegradesTo page') := by
  have hstrict := isStrict_hydrateItems nameBytes items viewer
  obtain ⟨page, hpage⟩ := answers_hydrate hout images nameBytes items viewer
  have hparts := hpage
  rw [hydrate_eq_bind, gives_bind] at hparts
  obtain ⟨base, hbase, hembeds⟩ := hparts
  refine ⟨page, hpage, fun hmem => ?_, fun hmem => ?_⟩
  · rw [hydrate_eq_bind, run_bind_of_error (hstrict.fails index kind hout hmem)]
  · have hbase' : (hydrateItems nameBytes items viewer).Gives (index.withOutage kind) base := by
      rw [Gives, hstrict.stands index kind hout hmem]
      exact hbase
    obtain ⟨page', hembeds'⟩ : (hydrateEmbeds images nameBytes viewer base).Answers
      (index.withOutage kind) := answers_hydrateEmbeds _ base
    have hpage' : (hydrate images nameBytes items viewer).Gives (index.withOutage kind) page' := by
      rw [hydrate_eq_bind, gives_bind]
      exact ⟨base, hbase', hembeds'⟩
    refine ⟨page', hpage', ?_⟩
    by_cases hkind : kind = .labels
    · -- labels fail late for a page without items only, and such a page has no embeds
      subst hkind
      have hitems := eq_nil_of_gives_hydrateItems hbase'
      subst hitems
      have hempty : Hydration.empty = page := gives_pure.1 hpage
      have hempty' : Hydration.empty = page' := gives_pure.1 hpage'
      subst hempty hempty'
      exact .refl Hydration.empty
    · exact hydrateEmbeds_withOutage hout hkind hbase hembeds hembeds'

end Fetch

/-! ### What is left of a page -/

def PostView.withoutRecord (view : PostView) : PostView :=
  { view with embed := view.embed.map EmbedView.withoutRecord }

def ReplySlot.withoutRecord : ReplySlot → ReplySlot
  | post view => post view.withoutRecord
  | missing view => missing view
  | blocked view => blocked view

def ReplyView.withoutRecords (view : ReplyView) : ReplyView :=
  ⟨view.root.withoutRecord, view.parent.withoutRecord⟩

/-- An entry with all embedded records reported missing. -/
def FeedEntry.withoutRecords (entry : FeedEntry) : FeedEntry :=
  { entry with
    post := entry.post.withoutRecord
    reply := entry.reply.map ReplyView.withoutRecords }

/-- A page with all embedded records reported missing. -/
def Hydration.withoutRecords (h : Hydration) : Hydration :=
  { h with embeds := h.embeds.map fun _ view => view.withoutRecord }

theorem EmbedView.withoutRecord_withoutRecord (view : EmbedView) :
    view.withoutRecord.withoutRecord = view.withoutRecord := by
  cases view <;> rfl

theorem Display.postView?_withoutRecord (d : Display) (post : Post) (author : Actor)
    (embed : Option EmbedView) :
    d.postView? post author (embed.map EmbedView.withoutRecord) =
      (d.postView? post author embed).map PostView.withoutRecord := by
  unfold postView?
  cases Json.ofBytes? post.body <;> rfl

namespace Hydration

variable {h h' : Hydration} (images : ImageService)

/-- Two pages that differ only in what records are missing are the same without any record. -/
theorem DegradesTo.withoutRecords_eq (hdegrades : h.DegradesTo h') :
    h'.withoutRecords = h.withoutRecords := by
  have hembeds : h'.embeds.map (fun _ view => view.withoutRecord) =
      h.embeds.map fun _ view => view.withoutRecord := by
    apply ExtTreeMap.ext_getElem?
    intro uri
    have hrel := hdegrades.embeds uri
    rw [ExtTreeMap.getElem?_map, ExtTreeMap.getElem?_map]
    generalize h.embeds[uri]? = found, h'.embeds[uri]? = found' at hrel ⊢
    cases hrel with
    | none => rfl
    | some hview =>
      obtain rfl | rfl := hview
      · rfl
      · simp [EmbedView.withoutRecord_withoutRecord]
  unfold withoutRecords
  rw [hembeds, hdegrades.posts, hdegrades.reposts, hdegrades.actors, hdegrades.labels]

section WithoutRecords

variable (h : Hydration)

@[simp]
theorem posts_withoutRecords : h.withoutRecords.posts = h.posts := rfl

@[simp]
theorem actors_withoutRecords : h.withoutRecords.actors = h.actors := rfl

@[simp]
theorem display_withoutRecords : h.withoutRecords.display images = h.display images := rfl

@[simp]
theorem reason?_withoutRecords (item : SkeletonItem) :
    h.withoutRecords.reason? images item = h.reason? images item := rfl

@[simp]
theorem applyRules_withoutRecords (items : List SkeletonItem) :
    h.withoutRecords.applyRules items = h.applyRules items := rfl

@[simp]
theorem getElem?_embeds_withoutRecords (uri : AtUri) :
    h.withoutRecords.embeds[uri]? = h.embeds[uri]?.map EmbedView.withoutRecord :=
  ExtTreeMap.getElem?_map

theorem replySlot_withoutRecords (uri : AtUri) :
    h.withoutRecords.replySlot images uri = (h.replySlot images uri).withoutRecord := by
  unfold replySlot
  rw [posts_withoutRecords]
  cases h.posts[uri]? with
  | none => rfl
  | some post =>
    simp only [actors_withoutRecords]
    cases h.actors[post.author]? with
    | none => rfl
    | some author =>
      simp only [display_withoutRecords, getElem?_embeds_withoutRecords,
        Display.postView?_withoutRecord]
      by_cases hblock : author.hasBlock = true
      · simp only [if_pos hblock, ReplySlot.withoutRecord]
      · simp only [if_neg hblock]
        cases (h.display images).postView? post author h.embeds[uri]? <;> rfl

/-- Whether an item has an entry does not depend on embedded records. -/
theorem entryOf?_withoutRecords (item : SkeletonItem) :
    h.withoutRecords.entryOf? images item =
      (h.entryOf? images item).map FeedEntry.withoutRecords := by
  unfold entryOf?
  rw [posts_withoutRecords, actors_withoutRecords, display_withoutRecords, reason?_withoutRecords]
  cases h.posts[item.post]? with
  | none => rfl
  | some post =>
    simp only [Option.bind_eq_bind, Option.bind_some]
    cases h.actors[post.author]? with
    | none => rfl
    | some author =>
      simp only [Option.bind_some, getElem?_embeds_withoutRecords,
        Display.postView?_withoutRecord, replySlot_withoutRecords]
      cases (h.display images).postView? post author h.embeds[post.uri]? with
      | none => rfl
      | some view =>
        cases h.reason? images item with
        | none => rfl
        | some reason => cases post.ancestors? <;> rfl

end WithoutRecords

end Hydration

theorem ofItems_map (f : FeedEntry → FeedEntry) (entryOf? : SkeletonItem → Option FeedEntry)
    (limit : Nat) (items : List SkeletonItem) :
    Assembled.ofItems (fun item => (entryOf? item).map f) limit items =
      ⟨(Assembled.ofItems entryOf? limit items).entries.map f,
        (Assembled.ofItems entryOf? limit items).malformed⟩ := by
  induction items generalizing limit with
  | nil => cases limit <;> rfl
  | cons item items ih =>
    cases limit with
    | zero => rfl
    | succ limit =>
      cases hentry : entryOf? item with
      | none => simp only [Assembled.ofItems, hentry, Option.map_none, ih]
      | some entry => simp only [Assembled.ofItems, hentry, Option.map_some, ih, List.map_cons]

theorem Hydration.DegradesTo.applyRules_eq {h h' : Hydration} (hdegrades : h.DegradesTo h')
    (items : List SkeletonItem) : h'.applyRules items = h.applyRules items := by
  rw [← h'.applyRules_withoutRecords, hdegrades.withoutRecords_eq, h.applyRules_withoutRecords]

/-- A page that reads have degraded is assembled from the same entries, but for missing records. -/
theorem Hydration.DegradesTo.assemble {h h' : Hydration} (hdegrades : h.DegradesTo h')
    (images : ImageService) (skeleton : Skeleton) (filtered : Filtered) (limit : Nat)
    (timings : StageTimings) :
    (FeedOutcome.assemble images skeleton filtered h' limit timings).omitted =
        (FeedOutcome.assemble images skeleton filtered h limit timings).omitted ∧
      (FeedOutcome.assemble images skeleton filtered h' limit timings).page.feed.map
          FeedEntry.withoutRecords =
        (FeedOutcome.assemble images skeleton filtered h limit timings).page.feed.map
          FeedEntry.withoutRecords := by
  have hwithout : ∀ h : Hydration,
      Assembled.ofItems (h.withoutRecords.entryOf? images) limit filtered.items =
        ⟨(Assembled.ofItems (h.entryOf? images) limit filtered.items).entries.map
            FeedEntry.withoutRecords,
          (Assembled.ofItems (h.entryOf? images) limit filtered.items).malformed⟩ := by
    intro h
    rw [← ofItems_map]
    congr 1
    funext item
    exact h.entryOf?_withoutRecords images item
  have hassembled := hwithout h'
  rw [hdegrades.withoutRecords_eq, hwithout h, Assembled.mk.injEq] at hassembled
  obtain ⟨hentries, hmalformed⟩ := hassembled
  constructor
  · simp only [FeedOutcome.assemble, hmalformed]
  · exact hentries.symm

/-- **Embeds never fail a page.** When one kind of read fails, a page fails just if such a read comes
before the embeds. If not, the page is the same but for embedded records that are missing: the rules
keep the same items, and the same entries are shown in the same order. -/
theorem FeedService.hydrate_withOutage (service : FeedService) (t : Tables) (clock : Instant)
    (kind : ReadKind) (items : List SkeletonItem) (viewer : Option Did) :
    service.hydrate items viewer =
        Fetch.hydrateItems service.options.displayNameBytes items viewer >>=
          Fetch.hydrateEmbeds service.images service.options.displayNameBytes viewer ∧
    ∃ page, (service.hydrate items viewer).Gives ⟨t, none, clock⟩ page ∧
      (kind ∈ ((Fetch.hydrateItems service.options.displayNameBytes items viewer).run
          ⟨t, none, clock⟩).kinds →
        ((service.hydrate items viewer).run ⟨t, some kind, clock⟩).result =
          .error Fetch.outageError) ∧
      (kind ∉ ((Fetch.hydrateItems service.options.displayNameBytes items viewer).run
          ⟨t, none, clock⟩).kinds →
        ∃ page', (service.hydrate items viewer).Gives ⟨t, some kind, clock⟩ page' ∧
          page.DegradesTo page' ∧ page'.applyRules items = page.applyRules items ∧
          ∀ (skeleton : Skeleton) (limit : Nat) (timings : StageTimings),
            let outcome := FeedOutcome.assemble service.images skeleton (page.applyRules items) page
              limit timings
            let outcome' := FeedOutcome.assemble service.images skeleton (page'.applyRules items)
              page' limit timings
            outcome'.omitted = outcome.omitted ∧
              outcome'.page.feed.map FeedEntry.withoutRecords =
                outcome.page.feed.map FeedEntry.withoutRecords) := by
  have hout : (⟨t, none, clock⟩ : Index).outage = none := rfl
  obtain ⟨page, hpage, hfails, hdegrades⟩ := Fetch.hydrate_fails_or_degrades hout service.images
    service.options.displayNameBytes items viewer kind
  refine ⟨Fetch.hydrate_eq_bind _ _ _ _, page, hpage, hfails, fun hmem => ?_⟩
  obtain ⟨page', hpage', hdegrades⟩ := hdegrades hmem
  refine ⟨page', hpage', hdegrades, hdegrades.applyRules_eq items, fun skeleton limit timings => ?_⟩
  dsimp only
  rw [hdegrades.applyRules_eq items]
  exact hdegrades.assemble service.images skeleton _ limit timings

/-- For the page of the small index blocks are read before the embeds, feed generators are not. -/
example :
    .blocks ∈ ((Fetch.hydrateItems 64 Sample.skeleton.items (some Sample.viewer)).run
        Sample.index).kinds ∧
      .generators ∉ ((Fetch.hydrateItems 64 Sample.skeleton.items (some Sample.viewer)).run
        Sample.index).kinds := by
  decide +kernel

end FeedHydration
