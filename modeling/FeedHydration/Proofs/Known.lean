import FeedHydration.Proofs.EmbedOutage
import FeedHydration.Proofs.Horizon

/-!
# Known accounts

The embeds of a page are resolved with the accounts that the page has already. These are taken as
they are: the graph is not asked about them again, and whatever it would say by now makes no
difference. So an account that owns a post on the page and a record in an embed stands in both
places with the same relationship to the viewer.
-/

namespace FeedHydration

open Std (ExtTreeMap)

/-! ### The graph beyond known accounts -/

namespace Tables

/-- Whether two accounts are the viewer and one that is known. -/
def joinsKnown (viewer : Option Did) (known : ExtTreeMap Did Actor) (did did' : Did) : Bool :=
  (viewer = some did && known.contains did') || (viewer = some did' && known.contains did)

/-- The tables without what the graph says about the viewer and known accounts. -/
def beyond (t : Tables) (viewer : Option Did) (known : ExtTreeMap Did Actor) : Tables :=
  { t with
    blocks := t.blocks.filter fun edge => !joinsKnown viewer known edge.creator edge.subject
    follows := t.follows.filter fun edge => !joinsKnown viewer known edge.creator edge.subject
    mutes := t.mutes.filter fun mute => !joinsKnown viewer known mute.creator mute.subject
    listItems := t.listItems.filter fun item => !known.contains item.member }

section Graph

variable {known : ExtTreeMap Did Actor} {viewer did : Did} {subjects : List Did}

theorem joinsKnown_comm (viewer : Option Did) (did did' : Did) :
    joinsKnown viewer known did did' = joinsKnown viewer known did' did :=
  Bool.or_comm ..

theorem joinsKnown_eq_false (hnew : did ∉ known) :
    joinsKnown (some viewer) known viewer did = false := by
  have hcontains : known.contains did = false := by
    rwa [← Bool.not_eq_true, ExtTreeMap.contains_iff_mem]
  by_cases hviewer : viewer = did
  · subst hviewer
    simp [joinsKnown, hcontains]
  · simp [joinsKnown, hcontains, hviewer]

variable (hsubjects : ∀ subject ∈ subjects, subject ∉ known)

include hsubjects

theorem filter_joins_beyond (edges : List GraphEdge) :
    (edges.filter fun edge => !joinsKnown (some viewer) known edge.creator edge.subject).filter
      (joins viewer subjects) = edges.filter (joins viewer subjects) := by
  apply filter_filter_of_imp
  intro edge _ hjoins
  simp only [joins, Bool.or_eq_true, Bool.and_eq_true, decide_eq_true_eq,
    List.contains_iff_mem] at hjoins
  obtain ⟨hcreator, hsubject⟩ | ⟨hsubject, hcreator⟩ := hjoins
  · rw [hcreator, joinsKnown_eq_false (hsubjects _ hsubject), Bool.not_false]
  · rw [hsubject, joinsKnown_comm, joinsKnown_eq_false (hsubjects _ hcreator), Bool.not_false]

theorem mutedBy_beyond (t : Tables) :
    (t.beyond (some viewer) known).mutedBy viewer subjects = t.mutedBy viewer subjects := by
  refine congrArg (List.map _) (filter_filter_of_imp fun mute _ hmute => ?_)
  simp only [Bool.and_eq_true, decide_eq_true_eq, List.contains_iff_mem] at hmute
  rw [hmute.1, joinsKnown_eq_false (hsubjects _ hmute.2), Bool.not_false]

theorem mutedByLists_beyond (t : Tables) :
    (t.beyond (some viewer) known).mutedByLists viewer subjects =
      t.mutedByLists viewer subjects := by
  apply List.flatMap_congr
  intro subscription _
  apply filter_filter_of_imp
  intro item _ hitem
  simp only [Bool.and_eq_true, List.contains_iff_mem] at hitem
  rw [Bool.not_eq_true', ← Bool.not_eq_true, ExtTreeMap.contains_iff_mem]
  exact hsubjects _ hitem.2

end Graph

end Tables

/-- The index without what its graph says about the viewer and known accounts. -/
def Index.beyond (index : Index) (viewer : Option Did) (known : ExtTreeMap Did Actor) : Index :=
  { index with tables := index.tables.beyond viewer known }

/-- Two indexes that are the same but for what the graph says about the viewer and known accounts. -/
structure Index.AlikeBeyond (viewer : Option Did) (known : ExtTreeMap Did Actor)
    (index index' : Index) : Prop where
  tables : index.tables.beyond viewer known = index'.tables.beyond viewer known
  outage : index.outage = index'.outage
  clock : index.clock = index'.clock

theorem Index.AlikeBeyond.beyond_eq {index index' : Index} {viewer : Option Did}
    {known : ExtTreeMap Did Actor} (h : index.AlikeBeyond viewer known index') :
    index.beyond viewer known = index'.beyond viewer known := by
  simp only [Index.beyond, h.tables, h.outage, h.clock]

theorem Index.answersRecordsLike_beyond (index : Index) (viewer : Option Did)
    (known : ExtTreeMap Did Actor) :
    index.AnswersRecordsLike viewer (index.beyond viewer known) := by
  constructor <;> intros <;> rfl

theorem Index.answersGraphLike_beyond (index : Index) (viewer : Option Did)
    (known : ExtTreeMap Did Actor) :
    index.AnswersGraphLike viewer (· ∉ known) (index.beyond viewer known) where
  blocks := by
    rintro did rfl subjects hnew
    exact (Tables.filter_joins_beyond hnew index.tables.blocks).symm
  follows := by
    rintro did rfl subjects hnew
    exact (Tables.filter_joins_beyond hnew index.tables.follows).symm
  mutes := by
    rintro did rfl subjects hnew
    exact (Tables.mutedBy_beyond hnew index.tables).symm
  listMutes := by
    rintro did rfl subjects hnew
    exact (Tables.mutedByLists_beyond hnew index.tables).symm

theorem Fetch.runsAlike_embeds_of_alikeBeyond {images : ImageService} {nameBytes : Nat}
    {posts : List Post} {viewer : Option Did} {known : ExtTreeMap Did Actor} {labels : LabelSet}
    {index index' : Index} (h : index.AlikeBeyond viewer known index') :
    (embeds images nameBytes posts viewer known labels).RunsAlike index index' := by
  have hbeyond : ∀ index : Index, (embeds images nameBytes posts viewer known labels).RunsAlike
      index (index.beyond viewer known) := by
    intro index
    have hrecords := index.answersRecordsLike_beyond viewer known
    exact runsAlike_embeds hrecords (index.answersGraphLike_beyond viewer known)
      (fun _ hnew => hnew) (runsAlike_loadPosts hrecords rfl)
  unfold RunsAlike at hbeyond ⊢
  rw [hbeyond index, h.beyond_eq, ← hbeyond index']

/-! ### Reads of the graph -/

/-- A read that does not ask the graph about a known account. -/
def Read.Spares (known : ExtTreeMap Did Actor) (read : Read) : Prop :=
  read.kind ∈ Fetch.graphKinds → ∀ did ∈ known, did.text ∉ read.ids

namespace Fetch

variable {α : Type} {known : ExtTreeMap Did Actor} {viewer : Option Did} {index : Index}

/-- Reads of other kinds do not ask the graph at all. -/
theorem IsStrict.makesOnly_spares {m : Fetch α} {kinds : List ReadKind} (hm : m.IsStrict kinds)
    (hkinds : ∀ kind ∈ kinds, kind ∉ graphKinds) : m.MakesOnly index (Read.Spares known) := by
  intro read hmem hgraph
  exact absurd hgraph (hkinds _ (hm.reads index read.kind (List.mem_map_of_mem hmem)))

theorem makesOnly_graphRows {subjects : List Did} (hnew : ∀ did ∈ subjects, did ∉ known)
    (viewer : Did) : (graphRows viewer subjects).MakesOnly index (Read.Spares known) := by
  have hspares : ∀ kind, (⟨kind, subjects.map (·.text)⟩ : Read).Spares known := by
    intro kind _ did hknown hmem
    obtain ⟨did', hmem, htext⟩ := List.mem_map.1 hmem
    rw [Did.ext htext] at hmem
    exact hnew did hmem hknown
  refine (makesOnly_read (hspares _) _).bind fun _ => ?_
  refine (makesOnly_read (hspares _) _).bind fun _ => ?_
  refine (makesOnly_read (hspares _) _).bind fun _ => ?_
  exact (makesOnly_read (hspares _) _).bind fun _ => makesOnly_pure _

theorem makesOnly_relationships {dids : List Did} (hnew : ∀ did ∈ dids, did ∉ known) :
    (relationships dids viewer).MakesOnly index (Read.Spares known) := by
  cases viewer with
  | none => exact makesOnly_pure _
  | some viewer =>
    refine MakesOnly.ite (makesOnly_pure _)
      (MakesOnly.bind (makesOnly_graphRows (fun did hmem => ?_) viewer) fun _ => makesOnly_pure _)
    exact hnew did (List.mem_of_mem_filter (mem_distinct.1 hmem))

theorem makesOnly_loadActors {dids : List Did} (hnew : ∀ did ∈ dids, did ∉ known)
    (nameBytes : Nat) :
    (loadActors nameBytes dids viewer .withoutLabels).MakesOnly index (Read.Spares known) := by
  have hactors : (actors (distinct dids)).IsStrict [.actors] :=
    isStrict_read (by decide) _ _
  have hlists : ∀ uris, (loadLists uris viewer).IsStrict [.lists, .actors] :=
    isStrict_loadLists viewer (by decide) (by decide)
  have hdistinct : ∀ did ∈ distinct dids, did ∉ known := fun did hmem =>
    hnew did (mem_distinct.1 hmem)
  refine MakesOnly.ite (makesOnly_pure _) ?_
  refine (hactors.makesOnly_spares (by decide)).bind fun _ => ?_
  refine (makesOnly_relationships hdistinct).bind fun _ => ?_
  refine (makesOnly_pure _).bind fun _ => ?_
  exact ((hlists _).makesOnly_spares (by decide)).bind fun _ => makesOnly_pure _

theorem makesOnly_embedTargets (hosts : List EmbedHost) :
    (embedTargets hosts viewer).MakesOnly index (Read.Spares known) := by
  have hposts : ∀ uris, (loadPosts uris viewer).IsStrict [.posts, .actors] :=
    isStrict_loadPosts viewer (by decide) (by decide)
  have hgenerators : ∀ uris, (loadGenerators uris viewer).IsStrict [.generators, .actors] :=
    isStrict_loadGenerators viewer (by decide) (by decide)
  have hlists : ∀ uris, (loadLists uris viewer).IsStrict [.lists, .actors] :=
    isStrict_loadLists viewer (by decide) (by decide)
  refine (((hposts _).makesOnly_spares (by decide)).orElse ∅).bind fun _ => ?_
  refine (((hgenerators _).makesOnly_spares (by decide)).orElse ∅).bind fun _ => ?_
  exact (((hlists _).makesOnly_spares (by decide)).orElse ∅).bind fun _ => makesOnly_pure _

theorem makesOnly_embeds (images : ImageService) (nameBytes : Nat) (posts : List Post)
    (viewer : Option Did) (known : ExtTreeMap Did Actor) (labels : LabelSet) :
    (embeds images nameBytes posts viewer known labels).MakesOnly index (Read.Spares known) := by
  have hlabels : ∀ subjects, (labelSet subjects).IsStrict [.labels] :=
    isStrict_labelSet (by decide)
  refine MakesOnly.ite (makesOnly_pure _) ?_
  refine (makesOnly_embedTargets _).bind fun targets => ?_
  have hnew : ∀ did ∈ targets.newOwners known, did ∉ known := fun did hmem =>
    EmbedTargets.notMem_of_mem_newOwners hmem
  refine ((makesOnly_loadActors hnew nameBytes).orElse ∅).bind fun _ => ?_
  exact (((hlabels _).makesOnly_spares (by decide)).orElse LabelSet.empty).bind fun _ =>
    makesOnly_pure _

end Fetch

/-! ### Owners of embedded records -/

/-- What a place shows of the owner of its record, if it shows anything. -/
def RecordSlot.ShowsOwner (d : Display) (did : Did) (owner : Actor) : RecordSlot → Prop
  | quote view => view.author = d.profile owner ∧ owner.hasBlock = false
  | blocked view => view.author = Display.blockedAuthor did (some owner) ∧ owner.hasBlock = true
  | generator view => view.creator = d.profile owner
  | list view => view.creator = d.profile owner
  | missing _ => True

theorem RecordSlot.ShowsOwner.owner_eq {d : Display} {did : Did} {owner : Actor}
    {slot : RecordSlot} {profile : ProfileView} (h : slot.ShowsOwner d did owner)
    (hprofile : slot.owner? = some profile) : profile = d.profile owner := by
  cases slot with
  | quote view =>
    cases hprofile
    exact h.1
  | generator view =>
    cases hprofile
    exact h
  | list view =>
    cases hprofile
    exact h
  | missing view => cases hprofile
  | blocked view => cases hprofile

theorem EmbedContext.showsOwner_slot {c : EmbedContext} {uri : AtUri} {owner : Actor}
    (hkeyed : c.targets.Keyed) (howner : c.actors[uri.authority]? = some owner) :
    (c.slot uri).ShowsOwner c.display uri.authority owner := by
  by_cases hholds : c.targets.Holds uri
  · obtain ⟨hc, post, hfound⟩ | ⟨hc, generator, hfound⟩ | ⟨hc, list, hfound⟩ := hholds
    · rw [slot_of_post hc, postSlot, hfound]
      simp only [(hkeyed.posts _ _ hfound).2, howner]
      by_cases hblock : owner.hasBlock = true
      · rw [if_pos hblock]
        exact ⟨rfl, hblock⟩
      · rw [if_neg hblock]
        cases hview : c.display.quoteView? post owner with
        | none => trivial
        | some view =>
          exact ⟨(Display.fields_of_quoteView? hview).2, eq_false_of_ne_true hblock⟩
    · rw [slot_of_generator hc, generatorSlot, hfound]
      simp only [(hkeyed.generators _ _ hfound).2, howner]
      rfl
    · rw [slot_of_list hc, listSlot, hfound]
      simp only [(hkeyed.lists _ _ hfound).2, howner]
      rfl
  · rw [slot_of_not_holds hholds]
    trivial

/-- The places of all records that are embedded. -/
def EmbedView.slotsIn (views : ExtTreeMap AtUri EmbedView) : List RecordSlot :=
  views.values.filterMap slot?

namespace Fetch

variable {images : ImageService} {nameBytes : Nat} {posts : List Post} {viewer : Option Did}
  {known : ExtTreeMap Did Actor} {labels : LabelSet} {index index' : Index}
  {views : ExtTreeMap AtUri EmbedView} {c : EmbedContext}

section Slots

variable (h : (embeds images nameBytes posts viewer known labels).Gives index views)
  (hc : (embedContext images nameBytes (posts.filterMap EmbedHost.ofPost?) viewer known
    labels).Gives index c)
  {slot : RecordSlot} (hmem : slot ∈ EmbedView.slotsIn views)

include h hc hmem

theorem slot_eq_of_mem_slotsIn : slot = c.slot slot.uri := by
  obtain ⟨view, hview, hslot⟩ := List.mem_filterMap.1 hmem
  obtain ⟨uri, hview⟩ := mem_values.1 hview
  obtain ⟨c', hc', host, -, -, hembed⟩ := mem_embeds h hview
  cases hc.unique hc'
  obtain ⟨target, -, rfl⟩ := EmbedContext.slot_of_embedView? hembed hslot
  rw [EmbedContext.uri_slot (embedTargets_keyed (loads_of_embedContext hc).1)]

theorem showsOwner_of_mem_slotsIn {owner : Actor}
    (howner : c.actors[slot.uri.authority]? = some owner) :
    slot.ShowsOwner c.display slot.uri.authority owner := by
  have hkeyed := embedTargets_keyed (loads_of_embedContext hc).1
  have hslot := EmbedContext.showsOwner_slot hkeyed howner
  rwa [← slot_eq_of_mem_slotsIn h hc hmem] at hslot

/-- A profile with the did of a known account is the profile of that account. -/
theorem profile_eq_of_mem_slotsIn
    (hknown : ∀ (did : Did) (actor : Actor), known[did]? = some actor → actor.did = did)
    {profile : ProfileView} (hprofile : slot.owner? = some profile) {owner : Actor}
    (howner : known[profile.did]? = some owner) :
    profile = Display.profile ⟨images, labels⟩ owner := by
  have hkeyed := embedTargets_keyed (loads_of_embedContext hc).1
  cases hactor : c.actors[slot.uri.authority]? with
  | none =>
    rw [slot_eq_of_mem_slotsIn h hc hmem, EmbedContext.slot_of_owner_none hkeyed hactor] at hprofile
    cases hprofile
  | some actor =>
    obtain rfl := (showsOwner_of_mem_slotsIn h hc hmem hactor).owner_eq hprofile
    have hdid : actor.did = slot.uri.authority :=
      EmbedContext.did_eq (fun _ _ => actor_of_embedContext_of_known hc)
        (fun _ _ => actor?_of_embedContext_of_new hc) hknown hactor
    rw [Display.profile, hdid] at howner
    have hmem : slot.uri.authority ∈ known :=
      ExtTreeMap.mem_iff_isSome_getElem?.2 (by rw [howner, Option.isSome_some])
    cases hactor.symm.trans (actor_of_embedContext_of_known hc howner)
    refine Display.profile_congr ⟨images_of_embedContext hc, ?_⟩
    rw [hdid]
    exact labels_of_embedContext_of_known hc hmem

end Slots

/-- **Known accounts are taken as they are.** Embeds come out the same whatever the graph says about
the viewer and known accounts, and it is not asked. In the place of each record whose owner is known
stands that owner as they were known, with the labels that they were known to have. -/
theorem embeds_keep_known (images : ImageService) (nameBytes : Nat) (posts : List Post)
    {viewer : Option Did} {known : ExtTreeMap Did Actor} (labels : LabelSet) {index index' : Index}
    (h : index.AlikeBeyond viewer known index') :
    ∃ views, (embeds images nameBytes posts viewer known labels).Gives index views ∧
      (embeds images nameBytes posts viewer known labels).RunsAlike index index' ∧
      (∃ d : Display, d.images = images ∧
        (∀ did : Did, did ∈ known → d.labels.get did.text = labels.get did.text) ∧
        ∀ slot ∈ EmbedView.slotsIn views, ∀ owner, known[slot.uri.authority]? = some owner →
          slot.ShowsOwner d slot.uri.authority owner) ∧
      ((∀ (did : Did) (actor : Actor), known[did]? = some actor → actor.did = did) →
        ∀ slot ∈ EmbedView.slotsIn views, ∀ profile, slot.owner? = some profile →
          ∀ owner, known[profile.did]? = some owner →
            profile = Display.profile ⟨images, labels⟩ owner) ∧
      ∀ read ∈ ((embeds images nameBytes posts viewer known labels).run index).reads,
        read.Spares known := by
  have hanswers : (embeds images nameBytes posts viewer known labels).Answers index :=
    answers_embeds images posts known labels
  obtain ⟨views, hviews⟩ := hanswers
  have hcontext : (embedContext images nameBytes (posts.filterMap EmbedHost.ofPost?) viewer known
      labels).Answers index := answers_embedContext images _ known labels
  obtain ⟨c, hc⟩ := hcontext
  refine ⟨views, hviews, runsAlike_embeds_of_alikeBeyond h,
    ⟨c.display, images_of_embedContext hc, ?_, ?_⟩, ?_, ?_⟩
  · exact fun did hdid => labels_of_embedContext_of_known hc hdid
  · exact fun slot hmem owner howner =>
      showsOwner_of_mem_slotsIn hviews hc hmem (actor_of_embedContext_of_known hc howner)
  · exact fun hknown slot hmem profile hprofile owner howner =>
      profile_eq_of_mem_slotsIn hviews hc hmem hknown hprofile howner
  · exact makesOnly_embeds images nameBytes posts viewer known labels

end Fetch

namespace Sample

/-- The foe, as a page has them that was hydrated before the viewer blocked them. -/
def acquaintance : Actor :=
  ⟨foe, "foe.test", none, none, none, none, some Relationship.none, none, none⟩

def acquaintances : ExtTreeMap Did Actor := ExtTreeMap.ofList [(foe, acquaintance)]

/-- The small index, but the viewer follows the foe, whom they do not block or mute. -/
def reconciled : Index :=
  { index with
    tables := { tables with
      blocks := []
      follows := [⟨block, viewer, foe⟩]
      listItems := [] } }

theorem alikeBeyond_reconciled : index.AlikeBeyond (some viewer) acquaintances reconciled := by
  refine ⟨?_, rfl, rfl⟩
  have hfoe : acquaintances.contains foe = true := by decide +kernel
  have hblock : Tables.joinsKnown (some viewer) acquaintances viewer foe = true := by
    simp [Tables.joinsKnown, hfoe]
  simp [Tables.beyond, Tables.empty, index, reconciled, tables, hblock, hfoe]

theorem any_acquaintance :
    ((Fetch.embeds service.images 64 [Post.ofRow friendPost (postRow embedding)] (some viewer)
        acquaintances LabelSet.empty).run index).result.toOption.any (fun views =>
      (EmbedView.slotsIn views).any fun slot => slot.owner?.any (·.did = foe)) = true := by
  decide +kernel

/-- The generator of the foe is shown with the foe as they were known, in spite of the block. -/
theorem embeds_keep_acquaintance :
    index.AlikeBeyond (some viewer) acquaintances reconciled ∧
    ∃ views, (Fetch.embeds service.images 64 [Post.ofRow friendPost (postRow embedding)]
        (some viewer) acquaintances LabelSet.empty).Gives index views ∧
      (Fetch.embeds service.images 64 [Post.ofRow friendPost (postRow embedding)]
        (some viewer) acquaintances LabelSet.empty).RunsAlike index reconciled ∧
      ∃ slot ∈ EmbedView.slotsIn views,
        slot.owner? = some (Display.profile ⟨service.images, LabelSet.empty⟩ acquaintance) := by
  obtain ⟨views, hviews, halike, -, hprofiles, -⟩ := Fetch.embeds_keep_known service.images 64
    [Post.ofRow friendPost (postRow embedding)] LabelSet.empty alikeBeyond_reconciled
  obtain ⟨views', hviews', hslot⟩ := Fetch.exists_gives any_acquaintance
  cases hviews.unique hviews'
  obtain ⟨slot, hmem, howner⟩ := List.any_eq_true.1 hslot
  obtain ⟨profile, howner, hdid⟩ := (Option.any_eq_true _ _).1 howner
  have hdid : profile.did = foe := of_decide_eq_true hdid
  have hown : ∀ (did : Did) (actor : Actor), acquaintances[did]? = some actor →
      actor.did = did := by
    intro did actor hactor
    have hentry := mem_of_getElem?_ofList hactor
    cases List.mem_singleton.1 hentry
    rfl
  have hfoe : acquaintances[profile.did]? = some acquaintance := by
    rw [hdid]
    decide +kernel
  refine ⟨alikeBeyond_reconciled, views, hviews, halike, slot, hmem, ?_⟩
  rw [howner, hprofiles hown slot hmem profile howner acquaintance hfoe]

end Sample

end FeedHydration
