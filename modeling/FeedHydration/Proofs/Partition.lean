import FeedHydration.Proofs.Block
import FeedHydration.Proofs.EmbedOutage

/-!
# One collection that cannot be read

Embedded records are read collection by collection. When posts or feed generators cannot be read,
embeds of the other collections are as ever. When lists cannot be read this holds only as long as no
account behind an embedded record is muted through a list: such an account is loaded with that list,
and if the load fails, no new account is there.
-/

namespace FeedHydration

open Std (ExtTreeMap)

/-- The collection of the records that a kind of read gives. -/
def ReadKind.collection? : ReadKind → Option String
  | posts => some Collection.post
  | generators => some Collection.generator
  | lists => some Collection.list
  | actors | reposts | labels | blocks | follows | mutes | listMutes => none

/-- Whether the viewer mutes an account by way of a list. -/
def Tables.ListMutes (t : Tables) (viewer : Option Did) (did : Did) : Prop :=
  ∃ v list, viewer = some v ∧ did ≠ v ∧ ⟨v, list⟩ ∈ t.subscriptions ∧ ⟨list, did⟩ ∈ t.listItems

theorem Tables.exists_mutedByList_iff {t : Tables} {viewer : Option Did} {did : Did} :
    (∃ r list, t.relationship? viewer did = some r ∧ r.mutedByList = some list) ↔
      t.ListMutes viewer did := by
  cases viewer with
  | none => simp [relationship?, ListMutes]
  | some viewer =>
    by_cases hviewer : did = viewer
    · simp [relationship?, relationship, ListMutes, Relationship.none, hviewer]
    · have hmuted := (isSome_mutedByList_iff (t := t) hviewer).symm
      rw [Option.isSome_iff_exists] at hmuted
      constructor
      · rintro ⟨r, list, hr, hlist⟩
        cases hr
        obtain ⟨list, hsubscription, hitem⟩ := hmuted.2 ⟨list, hlist⟩
        exact ⟨viewer, list, rfl, hviewer, hsubscription, hitem⟩
      · rintro ⟨v, list, hv, -, hsubscription, hitem⟩
        cases hv
        obtain ⟨list, hlist⟩ := hmuted.1 ⟨list, hsubscription, hitem⟩
        exact ⟨_, list, rfl, hlist⟩

/-- A post or a feed generator that stands. -/
def Tables.HasPostOrGenerator (t : Tables) (uri : AtUri) : Prop :=
  (uri.collection = Collection.post ∧ t.HasRecord t.posts (·.takenDown) uri) ∨
    (uri.collection = Collection.generator ∧ t.HasRecord t.generators (·.takenDown) uri)

/-- The record that a post embeds. -/
def Post.target? (post : Post) : Option AtUri :=
  (EmbedHost.ofPost? post).bind fun host => host.embed.target?.map (·.uri)

/-- Whether one of some posts stands under a uri and embeds a record. -/
def EmbedsUnder (posts : List Post) (uri target : AtUri) : Prop :=
  ∃ post ∈ posts, post.uri = uri ∧ post.target? = some target

/-- Some posts embed a post or a feed generator of an account that is not known yet and that the
viewer mutes by way of a list. -/
def Tables.NeedsLists (t : Tables) (viewer : Option Did) (known : ExtTreeMap Did Actor)
    (posts : List Post) : Prop :=
  ∃ uri target, EmbedsUnder posts uri target ∧ t.HasPostOrGenerator target ∧
    known[target.authority]? = none ∧ t.ListMutes viewer target.authority

theorem exists_embedsUnder_iff {posts : List Post} {target : AtUri} :
    (∃ uri, EmbedsUnder posts uri target) ↔ ∃ host ∈ posts.filterMap EmbedHost.ofPost?,
      ∃ ref, host.embed.target? = some ref ∧ ref.uri = target := by
  simp only [EmbedsUnder, Post.target?, List.mem_filterMap, Option.bind_eq_some_iff,
    Option.map_eq_some_iff]
  constructor
  · rintro ⟨_, post, hmem, rfl, host, hhost, ref, href, htarget⟩
    exact ⟨host, ⟨post, hmem, hhost⟩, ref, href, htarget⟩
  · rintro ⟨host, ⟨post, hmem, hhost⟩, ref, href, htarget⟩
    exact ⟨_, post, hmem, rfl, host, hhost, ref, href, htarget⟩

theorem embedsUnder_of_host {posts : List Post} {host : EmbedHost} {ref : StrongRef}
    (hmem : host ∈ posts.filterMap EmbedHost.ofPost?) (href : host.embed.target? = some ref) :
    EmbedsUnder posts host.post.uri ref.uri := by
  obtain ⟨post, hmem, hhost⟩ := List.mem_filterMap.1 hmem
  refine ⟨post, hmem, by rw [EmbedHost.post_of_ofPost? hhost], ?_⟩
  rw [Post.target?, hhost, Option.bind_some, href, Option.map_some]

namespace Fetch

variable {index : Index} {images : ImageService} {nameBytes : Nat} {viewer : Option Did}
  {known : ExtTreeMap Did Actor} {labels : LabelSet} {uri : AtUri}

/-! ### Loads while lists cannot be read -/

section Lists

variable (hout : index.outage = none)

/-- While lists cannot be read, a load of lists gives something only if none is asked for. -/
theorem eq_nil_of_gives_loadLists {uris : List AtUri} {found : ExtTreeMap AtUri AccountList}
    (h : (loadLists uris viewer).Gives (index.withOutage .lists) found) : uris = [] := by
  simp only [loadLists] at h
  split at h
  · rename_i hempty
    rwa [List.isEmpty_iff, distinct_eq_nil] at hempty
  · simp only [lists, gives_bind, gives_read] at h
    obtain ⟨_, ⟨hfails, -⟩, -⟩ := h
    exact absurd rfl hfails

include hout

/-- While lists cannot be read, accounts can be loaded just if none is muted through a list. -/
theorem answers_loadActors_iff {dids : List Did} :
    (loadActors nameBytes dids viewer .withoutLabels).Answers (index.withOutage .lists) ↔
      ∀ did ∈ dids, ¬ index.tables.ListMutes viewer did := by
  constructor
  · rintro ⟨found, h⟩ did hdid hmutes
    obtain ⟨r, list, hr, hlist⟩ := Tables.exists_mutedByList_iff.2 hmutes
    simp only [loadActors] at h
    split at h
    · rename_i hempty
      rw [List.isEmpty_iff, distinct_eq_nil] at hempty
      rw [hempty] at hdid
      cases hdid
    · simp only [gives_bind] at h
      obtain ⟨_, -, found, hfound, _, -, _, hlists, -⟩ := h
      have hrow := (relationships_isLookup hfound).getElem?_of_mem (mem_distinct.2 hdid)
      have hmem : list ∈ found.values.filterMap (·.mutedByList) :=
        List.mem_filterMap.2 ⟨r, mem_values.2 ⟨did, hrow.trans hr⟩, hlist⟩
      rw [eq_nil_of_gives_loadLists hlists] at hmem
      cases hmem
  · intro hnone
    simp only [loadActors]
    split
    · exact answers_pure _
    · have hactorKinds : (actors (distinct dids)).IsStrict [.actors] :=
        isStrict_read (by decide) _ _
      have hgraphKinds : (relationships (distinct dids) viewer).IsStrict graphKinds :=
        isStrict_relationships (List.Subset.refl _) _ viewer
      have hrows : (actors (distinct dids)).Answers (index.withOutage .lists) :=
        hactorKinds.answers hout (by decide) (answers_read hout _ _ _)
      have hrelationships : (relationships (distinct dids) viewer).Answers
          (index.withOutage .lists) :=
        hgraphKinds.answers hout (by decide) (answers_relationships hout _ viewer)
      refine hrows.bind fun _ _ => hrelationships.bind fun found hfound => ?_
      have hlists : found.values.filterMap (·.mutedByList) = [] := by
        rw [List.filterMap_eq_nil_iff]
        intro r hr
        obtain ⟨did, hr⟩ := mem_values.1 hr
        have hlookup := relationships_isLookup hfound
        rw [Option.eq_none_iff_forall_ne_some]
        intro list hlist
        exact hnone did (mem_distinct.1 (hlookup.mem hr))
          (Tables.exists_mutedByList_iff.1 ⟨r, list, hlookup.value_eq hr, hlist⟩)
      refine (answers_pure none).bind fun _ _ => ?_
      rw [hlists]
      exact (answers_pure ∅).bind fun _ _ => answers_pure _

/-- While lists cannot be read, the targets are the posts and the feed generators that stand. -/
theorem mem_uris_iff {hosts : List EmbedHost} {targets : EmbedTargets}
    (h : (embedTargets hosts viewer).Gives (index.withOutage .lists) targets) :
    uri ∈ targets.uris ↔
      (∃ host ∈ hosts, ∃ ref, host.embed.target? = some ref ∧ ref.uri = uri) ∧
        index.tables.HasPostOrGenerator uri := by
  obtain ⟨hposts, hgenerators, hlists⟩ := gives_embedTargets.1 h
  have hpostKinds : (loadPosts (EmbedHost.targets hosts Collection.post) viewer).IsStrict
      [.posts, .actors] := isStrict_loadPosts viewer (by decide) (by decide) _
  have hgeneratorKinds : (loadGenerators (EmbedHost.targets hosts Collection.generator)
      viewer).IsStrict [.generators, .actors] :=
    isStrict_loadGenerators viewer (by decide) (by decide) _
  rw [gives_orElse_of_answers (hpostKinds.answers hout (by decide) (answers_loadPosts hout))]
    at hposts
  rw [gives_orElse_of_answers (hgeneratorKinds.answers hout (by decide)
    (answers_loadGenerators hout))] at hgenerators
  have hposts := loadPosts_isLookup hposts
  have hgenerators := loadGenerators_isLookup hgenerators
  have hnolist : ¬ ∃ list, targets.lists[uri]? = some list := by
    rintro ⟨list, hlist⟩
    obtain hlists | ⟨-, hempty⟩ := gives_orElse.1 hlists
    · have hmem := (loadLists_isLookup hlists).mem hlist
      rw [eq_nil_of_gives_loadLists hlists] at hmem
      cases hmem
    · simp [← hempty] at hlist
  have hpost : (∃ post, (index.withOutage .lists).tables.post? viewer uri = some post) ↔
      index.tables.HasRecord index.tables.posts (·.takenDown) uri :=
    Tables.exists_map_visible?_iff
  have hgenerator :
      (∃ generator, (index.withOutage .lists).tables.generator? viewer uri = some generator) ↔
        index.tables.HasRecord index.tables.generators (·.takenDown) uri :=
    Tables.exists_map_visible?_iff
  rw [EmbedTargets.mem_uris, hposts.exists_iff, hgenerators.exists_iff, hpost, hgenerator,
    or_iff_left hnolist, EmbedHost.mem_targets, EmbedHost.mem_targets, and_right_comm,
    and_right_comm (b := ∃ host ∈ hosts, _), ← or_and_right, Tables.HasPostOrGenerator]
  exact and_comm

/-- While lists cannot be read, the new owners are there unless one is muted through a list. -/
theorem answers_newOwners_iff {posts : List Post} {c : EmbedContext}
    (h : (embedContext images nameBytes (posts.filterMap EmbedHost.ofPost?) viewer known
      labels).Gives (index.withOutage .lists) c) :
    (loadActors nameBytes (c.targets.newOwners known) viewer .withoutLabels).Answers
        (index.withOutage .lists) ↔ ¬ index.tables.NeedsLists viewer known posts := by
  have htargets := (loads_of_embedContext h).1
  have hkeyed := embedTargets_keyed htargets
  rw [answers_loadActors_iff hout]
  constructor
  · rintro hnone ⟨uri, target, hembeds, hstands, hnew, hmutes⟩
    refine hnone target.authority ?_ hmutes
    rw [EmbedTargets.mem_newOwners hkeyed]
    refine ⟨⟨target, (mem_uris_iff hout htargets).2 ⟨?_, hstands⟩, rfl⟩, hnew⟩
    exact exists_embedsUnder_iff.1 ⟨uri, hembeds⟩
  · intro hneeds did hdid hmutes
    rw [EmbedTargets.mem_newOwners hkeyed] at hdid
    obtain ⟨⟨target, hmem, rfl⟩, hnew⟩ := hdid
    obtain ⟨hhost, hstands⟩ := (mem_uris_iff hout htargets).1 hmem
    obtain ⟨uri, hembeds⟩ := exists_embedsUnder_iff.2 hhost
    exact hneeds ⟨uri, target, hembeds, hstands, hnew, hmutes⟩

end Lists

/-! ### Embeds while a collection cannot be read -/

section Collection

variable {kind : ReadKind} {collection : String} {posts : List Post} {c c' : EmbedContext}
  (hout : index.outage = none) (hkind : kind.collection? = some collection)

include hkind

theorem ne_labels_of_collection? : kind ≠ .labels := by
  rintro rfl
  cases hkind

include hout

theorem sameAt_of_collection_ne {hosts : List EmbedHost} {targets targets' : EmbedTargets}
    (h : (embedTargets hosts viewer).Gives index targets)
    (h' : (embedTargets hosts viewer).Gives (index.withOutage kind) targets')
    (hne : uri.collection ≠ collection) : targets'.SameAt targets uri := by
  obtain ⟨hposts, hgenerators, hlists⟩ := embedTargets_withOutage hout h h'
  have hfails : ∀ {asked : ReadKind}, kind ∈ [asked, .actors] → kind = asked := by
    intro asked hmem
    obtain rfl | hmem := List.mem_cons.1 hmem
    · rfl
    · rw [List.mem_singleton.1 hmem] at hkind
      cases hkind
  refine ⟨fun hc => ?_, fun hc => ?_, fun hc => ?_⟩
  · obtain hsame | ⟨-, hmem⟩ := hposts
    · rw [hsame]
    · rw [hfails hmem] at hkind
      cases hkind
      exact absurd hc hne
  · obtain hsame | ⟨-, hmem⟩ := hgenerators
    · rw [hsame]
    · rw [hfails hmem] at hkind
      cases hkind
      exact absurd hc hne
  · obtain hsame | ⟨-, hmem⟩ := hlists
    · rw [hsame]
    · rw [hfails hmem] at hkind
      cases hkind
      exact absurd hc hne

/-- Posts and feed generators play no part in a load of accounts. -/
theorem answers_loadActors_of_ne (hne : kind ≠ .lists) (dids : List Did) :
    (loadActors nameBytes dids viewer .withoutLabels).Answers (index.withOutage kind) := by
  have hstrict : (loadActors nameBytes dids viewer .withoutLabels).IsStrict accountKinds :=
    isStrict_loadActors (List.Subset.refl _) nameBytes dids viewer
  refine hstrict.answers hout ?_ (answers_loadActors hout)
  cases kind with
  | posts => decide
  | generators => decide
  | lists => exact absurd rfl hne
  | actors | reposts | labels | blocks | follows | mutes | listMutes => cases hkind

variable (hknown : ∀ (did : Did) (actor : Actor), known[did]? = some actor → actor.did = did)

include hknown

/-- A record of another collection is shown as ever, if its owner was known or could be loaded. -/
theorem slot_eq_of_owner
    (h : (embedContext images nameBytes (posts.filterMap EmbedHost.ofPost?) viewer known
      labels).Gives index c)
    (h' : (embedContext images nameBytes (posts.filterMap EmbedHost.ofPost?) viewer known
      labels).Gives (index.withOutage kind) c')
    (hne : uri.collection ≠ collection)
    (howner : known.contains uri.authority = true ∨
      (loadActors nameBytes (c'.targets.newOwners known) viewer .withoutLabels).Answers
        (index.withOutage kind)) : c'.slot uri = c.slot uri := by
  have hread := readFrom_of_embedContext (answers_labelSet hout) h
  have hread' := (readFrom_of_embedContext
    (answers_labelSet_withOutage hout (ne_labels_of_collection? hkind)) h').of_withOutage
  have hsame := sameAt_of_collection_ne hout hkind (loads_of_embedContext h).1
    (loads_of_embedContext h').1 hne
  refine EmbedContext.slot_congr hread'.keyed (hread'.agreeAt hread hknown hsame fun hholds => ?_)
  have hactor := owner_of_embedContext h (answers_loadActors hout) (hsame.holds hholds).mem_uris
  obtain hcontains | hload := howner
  · rw [ExtTreeMap.contains_eq_isSome_getElem?, Option.isSome_iff_exists] at hcontains
    obtain ⟨actor, hfound⟩ := hcontains
    rw [hactor, hfound, Option.some_or, hread'.kept _ _ hfound]
  · rw [hactor, owner_of_embedContext h' hload hholds.mem_uris, Index.actor?_withOutage]

/-- The embed of a post is as ever, if no record of the collection is embedded under its uri and
every owner there was known or could be loaded. -/
theorem embeds_eq_of_owner {views views' : ExtTreeMap AtUri EmbedView}
    (h : (embeds images nameBytes posts viewer known labels).Gives index views)
    (h' : (embeds images nameBytes posts viewer known labels).Gives (index.withOutage kind) views')
    (hne : ∀ target, EmbedsUnder posts uri target → target.collection ≠ collection)
    (howner : ∀ c', (embedContext images nameBytes (posts.filterMap EmbedHost.ofPost?) viewer known
        labels).Gives (index.withOutage kind) c' →
      ∀ target, EmbedsUnder posts uri target → known.contains target.authority = true ∨
        (loadActors nameBytes (c'.targets.newOwners known) viewer .withoutLabels).Answers
          (index.withOutage kind)) : views'[uri]? = views[uri]? := by
  have hmap : views'[uri]? = views[uri]?.map id := by
    apply embeds_eq_map h h'
    intro c c' hc hc' host hhost huri
    rw [Option.map_id_apply]
    apply EmbedContext.embedView?_congr
      ((images_of_embedContext hc').trans (images_of_embedContext hc).symm)
    intro ref href
    have hembeds := embedsUnder_of_host hhost href
    rw [huri] at hembeds
    exact slot_eq_of_owner hout hkind hknown hc hc' (hne _ hembeds) (howner c' hc' _ hembeds)
  rwa [Option.map_id_apply] at hmap

end Collection

section Lists

variable {posts : List Post} {c' : EmbedContext} {views views' : ExtTreeMap AtUri EmbedView}
  (hout : index.outage = none)

include hout

/-- When the load of the new owners fails, the record of none of them is left. -/
theorem embeds_eq_withoutRecord
    (h : (embeds images nameBytes posts viewer known labels).Gives index views)
    (h' : (embeds images nameBytes posts viewer known labels).Gives (index.withOutage .lists) views')
    (hneeds : index.tables.NeedsLists viewer known posts)
    (hnew : ∀ target, EmbedsUnder posts uri target → known[target.authority]? = none) :
    views'[uri]? = views[uri]?.map EmbedView.withoutRecord := by
  apply embeds_eq_map h h'
  intro c c' hc hc' host hhost huri
  have hkeyed := (readFrom_of_embedContext (answers_labelSet hout) hc).keyed
  have hkeyed' := (readFrom_of_embedContext
    (answers_labelSet_withOutage hout (by decide)) hc').keyed
  apply EmbedContext.embedView?_withoutRecord
    ((images_of_embedContext hc').trans (images_of_embedContext hc).symm) hkeyed
  intro ref href
  have hembeds := embedsUnder_of_host hhost href
  rw [huri] at hembeds
  apply EmbedContext.slot_of_owner_none hkeyed'
  rw [actors_of_embedContext hc' fun hload => (answers_newOwners_iff hout hc').1 hload hneeds]
  exact hnew _ hembeds

end Lists

/-- **A collection that cannot be read.** Embeds of other collections are as ever, unless it is lists
that cannot be read and a new account behind an embedded post or feed generator is muted through a
list. Then no new account can be loaded: only the records of accounts that were known before are
still shown. -/
theorem embeds_withOutage_of_collection {kind : ReadKind} {collection : String}
    (hout : index.outage = none) (hkind : kind.collection? = some collection)
    (hknown : ∀ (did : Did) (actor : Actor), known[did]? = some actor → actor.did = did)
    (images : ImageService) (nameBytes : Nat) (posts : List Post) (viewer : Option Did)
    (labels : LabelSet) :
    ∃ views views', (embeds images nameBytes posts viewer known labels).Gives index views ∧
      (embeds images nameBytes posts viewer known labels).Gives (index.withOutage kind) views' ∧
      ∀ uri, (∀ target, EmbedsUnder posts uri target → target.collection ≠ collection) →
        ((kind = .lists → ¬ index.tables.NeedsLists viewer known posts) →
          views'[uri]? = views[uri]?) ∧
        (kind = .lists → index.tables.NeedsLists viewer known posts →
          ((∀ target, EmbedsUnder posts uri target → known.contains target.authority = true) →
            views'[uri]? = views[uri]?) ∧
          ((∀ target, EmbedsUnder posts uri target → known[target.authority]? = none) →
            views'[uri]? = views[uri]?.map EmbedView.withoutRecord)) := by
  obtain ⟨views, h⟩ : (embeds images nameBytes posts viewer known labels).Answers index :=
    answers_embeds images posts known labels
  obtain ⟨views', h'⟩ : (embeds images nameBytes posts viewer known labels).Answers
    (index.withOutage kind) := answers_embeds images posts known labels
  refine ⟨views, views', h, h', fun uri hne => ⟨fun hneeds => ?_, fun hlists hneeds =>
    ⟨fun hall => ?_, fun hnew => ?_⟩⟩⟩
  · refine embeds_eq_of_owner hout hkind hknown h h' hne fun c' hc' target _ => Or.inr ?_
    by_cases hlists : kind = .lists
    · subst hlists
      exact (answers_newOwners_iff hout hc').2 (hneeds rfl)
    · exact answers_loadActors_of_ne hout hkind hlists _
  · exact embeds_eq_of_owner hout hkind hknown h h' hne fun c' hc' target hembeds =>
      Or.inl (hall target hembeds)
  · subst hlists
    exact embeds_eq_withoutRecord hout h h' hneeds hnew

end Fetch

namespace Sample

/-- The post of the friend, which embeds the generator of the foe. -/
def host : Post :=
  Post.ofRow friendPost (postRow embedding)

theorem target?_host : host.target? = some foeGenerator := by
  decide +kernel

theorem any_owner :
    ((Fetch.embeds service.images 64 [host] (some viewer) ∅ LabelSet.empty).run
      index).result.toOption.any (fun views =>
        (views[friendPost]?.bind (·.slot?)).any (·.owner?.isSome)) = true := by
  decide +kernel

/-- Lists cannot be read, and the generator of the foe is gone: the viewer of the small index mutes
the foe by way of a list. -/
theorem foeGenerator_missing :
    index.tables.NeedsLists (some viewer) ∅ [host] ∧
    ∃ views views', (Fetch.embeds service.images 64 [host] (some viewer) ∅ LabelSet.empty).Gives
        index views ∧
      (Fetch.embeds service.images 64 [host] (some viewer) ∅ LabelSet.empty).Gives
        (index.withOutage .lists) views' ∧
      (views[friendPost]?.bind (·.slot?)).any (·.owner?.isSome) = true ∧
      views'[friendPost]? = views[friendPost]?.map EmbedView.withoutRecord := by
  have hembeds : EmbedsUnder [host] friendPost foeGenerator :=
    ⟨host, List.mem_cons_self, rfl, target?_host⟩
  have honly : ∀ target, EmbedsUnder [host] friendPost target → target = foeGenerator := by
    rintro target ⟨post, hmem, -, htarget⟩
    rw [List.mem_singleton.1 hmem, target?_host] at htarget
    cases htarget
    rfl
  have hneeds : index.tables.NeedsLists (some viewer) ∅ [host] := by
    refine ⟨friendPost, foeGenerator, hembeds, Or.inr ⟨rfl, generatorRow, by decide +kernel, rfl,
      account, by decide +kernel, rfl, rfl⟩, rfl, viewer, muteList, rfl, by decide, ?_, ?_⟩
    · exact List.mem_cons_self
    · exact List.mem_cons_self
  have hout : index.outage = none := rfl
  have hkind : ReadKind.lists.collection? = some Collection.list := rfl
  have hknown : ∀ (did : Did) (actor : Actor),
      (∅ : ExtTreeMap Did Actor)[did]? = some actor → actor.did = did := by simp
  obtain ⟨views, views', h, h', hviews⟩ := Fetch.embeds_withOutage_of_collection hout hkind hknown
    service.images 64 [host] (some viewer) LabelSet.empty
  obtain ⟨shown, hshown, howner⟩ := Fetch.exists_gives any_owner
  rw [hshown.unique h] at howner
  obtain ⟨-, hmuted⟩ := hviews friendPost fun target htarget => by
    rw [honly target htarget]
    decide
  obtain ⟨-, hnew⟩ := hmuted rfl hneeds
  exact ⟨hneeds, views, views', h, h', howner, hnew fun _ _ => rfl⟩

end Sample

end FeedHydration
