import FeedHydration.Proofs.Slot
import Mathlib.Data.List.Basic

/-!
# Embeds

The context that a batch of hosts is resolved in holds nothing but what the index says, whatever
fails; and if nothing fails it holds all of that about every record the hosts embed. So each embed
is the one that the index gives its host by itself.
-/

namespace FeedHydration

open Std (ExtTreeMap)

/-! ### Reading a context -/

namespace EmbedHost

theorem post_of_ofPost? {post : Post} {host : EmbedHost} (h : ofPost? post = some host) :
    host.post = post := by
  obtain ⟨_, -, rfl⟩ := Option.map_eq_some_iff.1 h
  rfl

theorem mem_targets {hosts : List EmbedHost} {collection : String} {uri : AtUri} :
    uri ∈ targets hosts collection ↔
      uri.collection = collection ∧
        ∃ host ∈ hosts, ∃ target, host.embed.target? = some target ∧ target.uri = uri := by
  simp only [targets, List.mem_filter, List.mem_filterMap, Option.map_eq_some_iff,
    decide_eq_true_eq]
  exact and_comm

end EmbedHost

theorem EmbedContext.slot_of_embedView? {c : EmbedContext} {host : EmbedHost} {view : EmbedView}
    {slot : RecordSlot} (h : c.embedView? host = some view) (hslot : view.slot? = some slot) :
    ∃ target, host.embed.target? = some target ∧ slot = c.slot target.uri := by
  unfold embedView? at h
  cases hembed : host.embed with
  | media media =>
    simp only [hembed, Option.some.injEq] at h
    subst h
    cases hslot
  | record target =>
    simp only [hembed, Option.some.injEq] at h
    subst h
    cases hslot
    exact ⟨target, rfl, rfl⟩
  | recordWithMedia target media =>
    simp only [hembed, Option.map_eq_some_iff] at h
    obtain ⟨shown, -, rfl⟩ := h
    cases hslot
    exact ⟨target, rfl, rfl⟩

namespace EmbedTargets

variable {targets : EmbedTargets}

/-- The owners that are not known yet. -/
def newOwners (targets : EmbedTargets) (known : ExtTreeMap Did Actor) : List Did :=
  targets.owners.filter (!known.contains ·)

theorem mem_newOwners {known : ExtTreeMap Did Actor} {did : Did} (hkeyed : targets.Keyed) :
    did ∈ targets.newOwners known ↔
      (∃ uri ∈ targets.uris, uri.authority = did) ∧ known[did]? = none := by
  rw [newOwners, List.mem_filter, ExtTreeMap.contains_eq_isSome_getElem?, mem_owners hkeyed]
  cases known[did]? <;> simp

theorem notMem_of_mem_newOwners {known : ExtTreeMap Did Actor} {did : Did}
    (h : did ∈ targets.newOwners known) : did ∉ known := by
  have hnew := (List.mem_filter.1 h).2
  rwa [Bool.not_eq_true', ← Bool.not_eq_true, ExtTreeMap.contains_iff_mem] at hnew

end EmbedTargets

namespace Fetch

variable {index : Index} {images : ImageService} {nameBytes : Nat} {viewer : Option Did}
  {known : ExtTreeMap Did Actor} {labels : LabelSet}

/-- A load that fails leaves its table empty. -/
theorem isPart_of_orElse {κ ρ : Type} [Ord κ] [Std.TransOrd κ] {value : κ → Option ρ}
    {load : Fetch (ExtTreeMap κ ρ)} {table : ExtTreeMap κ ρ}
    (hload : ∀ table, load.Gives index table → IsPart table value)
    (h : (load.orElse ∅).Gives index table) : IsPart table value := by
  obtain hgives | ⟨-, rfl⟩ := gives_orElse.1 h
  · exact hload table hgives
  · exact IsPart.empty value

/-- The context in which the embeds of some hosts are resolved. -/
def embedContext (images : ImageService) (nameBytes : Nat) (hosts : List EmbedHost)
    (viewer : Option Did) (known : ExtTreeMap Did Actor) (labels : LabelSet) :
    Fetch EmbedContext := do
  let targets ← embedTargets hosts viewer
  let owners := targets.owners.filter (!known.contains ·)
  let subjects := labels.missing (targets.uris.map (·.text) ++ owners.map (·.text))
  let loaded ← (loadActors nameBytes owners viewer .withoutLabels).orElse ∅
  let extra ← (labelSet subjects).orElse LabelSet.empty
  return ⟨⟨images, labels.merged extra⟩, targets, loaded ∪ known⟩

/-- The embeds of the hosts in a context, each under the uri of its host. -/
def embedRows (c : EmbedContext) (hosts : List EmbedHost) : List (AtUri × EmbedView) :=
  hosts.filterMap fun host => (c.embedView? host).map (host.post.uri, ·)

theorem embeds_eq (posts : List Post) :
    embeds images nameBytes posts viewer known labels =
      if (posts.filterMap EmbedHost.ofPost?).isEmpty then Pure.pure ∅
      else (fun c => ExtTreeMap.ofList (embedRows c (posts.filterMap EmbedHost.ofPost?))) <$>
        embedContext images nameBytes (posts.filterMap EmbedHost.ofPost?) viewer known labels := by
  unfold embeds embedContext embedRows
  simp only [map_bind, map_pure]

section Context

variable {hosts : List EmbedHost} {targets : EmbedTargets} {c : EmbedContext}

theorem gives_embedTargets :
    (embedTargets hosts viewer).Gives index targets ↔
      ((loadPosts (EmbedHost.targets hosts Collection.post) viewer).orElse ∅).Gives index
        targets.posts ∧
      ((loadGenerators (EmbedHost.targets hosts Collection.generator) viewer).orElse ∅).Gives index
        targets.generators ∧
      ((loadLists (EmbedHost.targets hosts Collection.list) viewer).orElse ∅).Gives index
        targets.lists := by
  simp only [embedTargets, gives_bind, gives_pure]
  constructor
  · rintro ⟨posts, hposts, generators, hgenerators, lists, hlists, rfl⟩
    exact ⟨hposts, hgenerators, hlists⟩
  · rintro ⟨hposts, hgenerators, hlists⟩
    exact ⟨_, hposts, _, hgenerators, _, hlists, rfl⟩

theorem embedTargets_isPart (h : (embedTargets hosts viewer).Gives index targets) :
    IsPart targets.posts (index.tables.post? viewer) ∧
      IsPart targets.generators (index.tables.generator? viewer) ∧
      IsPart targets.lists (index.tables.list? viewer) := by
  obtain ⟨hposts, hgenerators, hlists⟩ := gives_embedTargets.1 h
  refine ⟨isPart_of_orElse (fun _ h => ?_) hposts, isPart_of_orElse (fun _ h => ?_) hgenerators,
    isPart_of_orElse (fun _ h => ?_) hlists⟩
  · exact (loadPosts_isLookup h).isPart
  · exact (loadGenerators_isLookup h).isPart
  · exact (loadLists_isLookup h).isPart

theorem embedTargets_keyed (h : (embedTargets hosts viewer).Gives index targets) :
    targets.Keyed := by
  obtain ⟨hposts, hgenerators, hlists⟩ := embedTargets_isPart h
  exact EmbedTargets.keyed_of_isPart hposts hgenerators hlists

theorem embedTargets_isLookup (hout : index.outage = none)
    (h : (embedTargets hosts viewer).Gives index targets) :
    IsLookup targets.posts (EmbedHost.targets hosts Collection.post)
        (index.tables.post? viewer) ∧
      IsLookup targets.generators (EmbedHost.targets hosts Collection.generator)
        (index.tables.generator? viewer) ∧
      IsLookup targets.lists (EmbedHost.targets hosts Collection.list)
        (index.tables.list? viewer) := by
  obtain ⟨hposts, hgenerators, hlists⟩ := gives_embedTargets.1 h
  rw [gives_orElse_of_answers (answers_loadPosts hout)] at hposts
  rw [gives_orElse_of_answers (answers_loadGenerators hout)] at hgenerators
  rw [gives_orElse_of_answers (answers_loadLists hout)] at hlists
  exact ⟨loadPosts_isLookup hposts, loadGenerators_isLookup hgenerators,
    loadLists_isLookup hlists⟩

/-- The accounts and the labels that are loaded for a context follow from its targets. -/
theorem loads_of_embedContext
    (h : (embedContext images nameBytes hosts viewer known labels).Gives index c) :
    (embedTargets hosts viewer).Gives index c.targets ∧ ∃ loaded extra,
      ((loadActors nameBytes (c.targets.newOwners known) viewer .withoutLabels).orElse ∅).Gives
        index loaded ∧
      ((labelSet (labels.missing (c.targets.uris.map (·.text) ++
        (c.targets.newOwners known).map (·.text)))).orElse LabelSet.empty).Gives index extra ∧
      c.actors = loaded ∪ known ∧ c.display = ⟨images, labels.merged extra⟩ := by
  simp only [embedContext, gives_bind, gives_pure] at h
  obtain ⟨targets, htargets, loaded, hloaded, extra, hextra, rfl⟩ := h
  exact ⟨htargets, loaded, extra, hloaded, hextra, rfl, rfl⟩

theorem images_of_embedContext
    (h : (embedContext images nameBytes hosts viewer known labels).Gives index c) :
    c.display.images = images := by
  obtain ⟨-, _, _, -, -, -, hdisplay⟩ := loads_of_embedContext h
  rw [hdisplay]

/-- An account that was known before is used as it was. -/
theorem actor_of_embedContext_of_known
    (h : (embedContext images nameBytes hosts viewer known labels).Gives index c) {did : Did}
    {actor : Actor} (hknown : known[did]? = some actor) : c.actors[did]? = some actor := by
  obtain ⟨-, loaded, _, -, -, hactors, -⟩ := loads_of_embedContext h
  rw [hactors, ExtTreeMap.getElem?_union, hknown, Option.some_or]

/-- An account that is new is as the index has it. -/
theorem actor?_of_embedContext_of_new
    (h : (embedContext images nameBytes hosts viewer known labels).Gives index c) {did : Did}
    {actor : Actor} (hnew : known[did]? = none) (hactor : c.actors[did]? = some actor) :
    index.actor? nameBytes viewer .withoutLabels did = some actor := by
  obtain ⟨-, loaded, _, hloaded, -, hactors, -⟩ := loads_of_embedContext h
  rw [hactors, ExtTreeMap.getElem?_union, hnew, Option.none_or] at hactor
  exact isPart_of_orElse (fun _ h => (loadActors_isLookup h).isPart) hloaded did actor hactor

/-- Whatever fails, a context says nothing that the index does not say. -/
theorem embedContext_sound (hknown : IsPart known (index.actor? nameBytes viewer .withoutLabels))
    (h : (embedContext images nameBytes hosts viewer known labels).Gives index c) :
    c.Sound index nameBytes viewer := by
  obtain ⟨htargets, loaded, _, hloaded, -, hactors, -⟩ := loads_of_embedContext h
  obtain ⟨hposts, hgenerators, hlists⟩ := embedTargets_isPart htargets
  refine ⟨hposts, hgenerators, hlists, ?_⟩
  rw [hactors]
  exact (isPart_of_orElse (fun _ h => (loadActors_isLookup h).isPart) hloaded).union hknown

/-- An owner is the one that was known, or else the one that the index has. -/
theorem owner_of_embedContext
    (h : (embedContext images nameBytes hosts viewer known labels).Gives index c)
    (hload : (loadActors nameBytes (c.targets.newOwners known) viewer .withoutLabels).Answers index)
    {uri : AtUri} (hmem : uri ∈ c.targets.uris) :
    c.actors[uri.authority]? =
      known[uri.authority]?.or (index.actor? nameBytes viewer .withoutLabels uri.authority) := by
  obtain ⟨htargets, loaded, _, hloaded, -, hactors, -⟩ := loads_of_embedContext h
  rw [gives_orElse_of_answers hload] at hloaded
  rw [hactors, ExtTreeMap.getElem?_union]
  cases hknown : known[uri.authority]? with
  | some actor => rfl
  | none =>
    rw [Option.none_or, Option.none_or]
    apply (loadActors_isLookup hloaded).getElem?_of_mem
    rw [EmbedTargets.mem_newOwners (embedTargets_keyed htargets)]
    exact ⟨⟨uri, hmem, rfl⟩, hknown⟩

/-- Without an outage, a context has every record that the hosts embed. -/
theorem embedContext_targets (hout : index.outage = none)
    (h : (embedContext images nameBytes hosts viewer known labels).Gives index c)
    {host : EmbedHost} (hhost : host ∈ hosts) {target : StrongRef}
    (htarget : host.embed.target? = some target) :
    (target.uri.collection = Collection.post →
        c.targets.posts[target.uri]? = index.tables.post? viewer target.uri) ∧
      (target.uri.collection = Collection.generator →
        c.targets.generators[target.uri]? = index.tables.generator? viewer target.uri) ∧
      (target.uri.collection = Collection.list →
        c.targets.lists[target.uri]? = index.tables.list? viewer target.uri) := by
  obtain ⟨hposts, hgenerators, hlists⟩ := embedTargets_isLookup hout (loads_of_embedContext h).1
  have hasked : ∀ collection, target.uri.collection = collection →
      target.uri ∈ EmbedHost.targets hosts collection := fun collection hcollection =>
    EmbedHost.mem_targets.2 ⟨hcollection, host, hhost, target, htarget, rfl⟩
  exact ⟨fun hc => hposts.getElem?_of_mem (hasked _ hc),
    fun hc => hgenerators.getElem?_of_mem (hasked _ hc),
    fun hc => hlists.getElem?_of_mem (hasked _ hc)⟩

/-- Without an outage, a context has all about every record that the hosts embed. -/
theorem embedContext_knows (hout : index.outage = none)
    (hknown : IsPart known (index.actor? nameBytes viewer .withoutLabels))
    (h : (embedContext images nameBytes hosts viewer known labels).Gives index c)
    {host : EmbedHost} (hhost : host ∈ hosts) {target : StrongRef}
    (htarget : host.embed.target? = some target) : c.Knows index nameBytes viewer target.uri := by
  obtain ⟨hposts, hgenerators, hlists⟩ := embedContext_targets hout h hhost htarget
  refine ⟨hposts, hgenerators, hlists, fun hmem => ?_⟩
  rw [owner_of_embedContext h (answers_loadActors hout) hmem]
  cases hfound : known[target.uri.authority]? with
  | some actor => exact (hknown _ _ hfound).symm
  | none => exact Option.none_or

/-- Without an outage, the labels of the records and their owners are complete, if those of the
accounts known before were. -/
theorem embedContext_showsAs (hout : index.outage = none) {subjects : List String}
    (hlabels : labels.IsOf index subjects)
    (hcovered : ∀ (did : Did) (actor : Actor), known[did]? = some actor → did.text ∈ subjects)
    (h : (embedContext images nameBytes hosts viewer known labels).Gives index c) (uri : AtUri) :
    c.ShowsAs (index.embedContext images nameBytes viewer).display uri := by
  obtain ⟨htargets, _, extra, -, hextra, -, hdisplay⟩ := loads_of_embedContext h
  rw [gives_orElse_of_answers (answers_labelSet hout _)] at hextra
  have hall := hlabels.merged (labelSet_isOf hextra)
  have hget : ∀ subject, subject ∈ subjects ∨ subject ∈ c.targets.uris.map (·.text) ++
      (c.targets.newOwners known).map (·.text) →
      (labels.merged extra).get subject = index.labelSet.get subject := by
    intro subject hsubject
    rw [index.get_labelSet]
    apply hall.get_of_mem
    rw [List.mem_append, LabelSet.missing, mem_distinct, List.mem_filter, Bool.not_eq_true',
      ← Bool.not_eq_true, hlabels.covers]
    by_cases hcover : subject ∈ subjects
    · exact Or.inl hcover
    · exact Or.inr ⟨hsubject.resolve_left hcover, hcover⟩
  intro hmem
  rw [hdisplay]
  refine ⟨⟨rfl, hget _ (Or.inr ?_)⟩, ⟨rfl, hget _ ?_⟩⟩
  · exact List.mem_append_left _ (List.mem_map_of_mem hmem)
  · -- the labels of an owner known before are not asked for again: the page has them
    cases hfound : known[uri.authority]? with
    | some actor => exact Or.inl (hcovered _ _ hfound)
    | none =>
      refine Or.inr (List.mem_append_right _ (List.mem_map_of_mem ?_))
      rw [EmbedTargets.mem_newOwners (embedTargets_keyed htargets)]
      exact ⟨⟨uri, hmem, rfl⟩, hfound⟩

theorem answers_embedContext (images : ImageService) (hosts : List EmbedHost)
    (known : ExtTreeMap Did Actor) (labels : LabelSet) :
    (embedContext images nameBytes hosts viewer known labels).Answers index := by
  have htargets : (embedTargets hosts viewer).Answers index := by
    refine (answers_orElse _ _).bind fun _ _ => ?_
    refine (answers_orElse _ _).bind fun _ _ => ?_
    exact (answers_orElse _ _).bind fun _ _ => answers_pure _
  refine htargets.bind fun _ _ => ?_
  refine (answers_orElse _ _).bind fun _ _ => ?_
  exact (answers_orElse _ _).bind fun _ _ => answers_pure _

end Context

/-! ### Resolving embeds -/

section Embeds

variable {posts : List Post} {views : ExtTreeMap AtUri EmbedView}

/-- What embeds come to is told by one context. -/
theorem exists_context_of_embeds
    (h : (embeds images nameBytes posts viewer known labels).Gives index views) :
    ∃ c, (embedContext images nameBytes (posts.filterMap EmbedHost.ofPost?) viewer known
        labels).Gives index c ∧
      views = ExtTreeMap.ofList (embedRows c (posts.filterMap EmbedHost.ofPost?)) := by
  rw [embeds_eq] at h
  split at h
  · rename_i hempty
    rw [gives_pure] at h
    rw [List.isEmpty_iff] at hempty
    obtain ⟨c, hc⟩ : (embedContext images nameBytes (posts.filterMap EmbedHost.ofPost?) viewer
        known labels).Answers index :=
      answers_embedContext images _ known labels
    refine ⟨c, hc, ?_⟩
    rw [hempty, ← h]
    rfl
  · obtain ⟨c, hc, rfl⟩ := gives_map.1 h
    exact ⟨c, hc, rfl⟩

theorem mem_embeds (h : (embeds images nameBytes posts viewer known labels).Gives index views)
    {uri : AtUri} {view : EmbedView} (hview : views[uri]? = some view) :
    ∃ c, (embedContext images nameBytes (posts.filterMap EmbedHost.ofPost?) viewer known
        labels).Gives index c ∧
      ∃ host ∈ posts.filterMap EmbedHost.ofPost?, host.post.uri = uri ∧
        c.embedView? host = some view := by
  obtain ⟨c, hc, rfl⟩ := exists_context_of_embeds h
  obtain ⟨host, hhost, hrow⟩ := List.mem_filterMap.1 (mem_of_getElem?_ofList hview)
  obtain ⟨_, hembed, hrow⟩ := Option.map_eq_some_iff.1 hrow
  cases hrow
  exact ⟨c, hc, host, hhost, rfl, hembed⟩

/-- **Embeds are sound.** Whatever fails, the record in an embed is one that the index allows. -/
theorem isSlotOf_of_embeds (hknown : IsPart known (index.actor? nameBytes viewer .withoutLabels))
    (h : (embeds images nameBytes posts viewer known labels).Gives index views) {uri : AtUri}
    {view : EmbedView} (hview : views[uri]? = some view) {slot : RecordSlot}
    (hslot : view.slot? = some slot) :
    ∃ d target, EmbedContext.IsSlotOf index nameBytes viewer d target slot := by
  obtain ⟨c, hc, host, -, -, hembed⟩ := mem_embeds h hview
  obtain ⟨target, -, rfl⟩ := EmbedContext.slot_of_embedView? hembed hslot
  exact ⟨_, _, EmbedContext.isSlotOf_slot (embedContext_sound hknown hc) target.uri⟩

/-- Without an outage the embeds may as well be resolved in the context of the whole index. -/
theorem embeds_eq_embedRows (hout : index.outage = none)
    (hknown : IsPart known (index.actor? nameBytes viewer .withoutLabels))
    {subjects : List String} (hlabels : labels.IsOf index subjects)
    (hcovered : ∀ (did : Did) (actor : Actor), known[did]? = some actor → did.text ∈ subjects)
    (h : (embeds images nameBytes posts viewer known labels).Gives index views) :
    views = ExtTreeMap.ofList (embedRows (index.embedContext images nameBytes viewer)
      (posts.filterMap EmbedHost.ofPost?)) := by
  obtain ⟨c, hc, rfl⟩ := exists_context_of_embeds h
  congr 1
  apply List.filterMap_congr
  intro host hhost
  rw [EmbedContext.embedView?_eq (images_of_embedContext hc) fun target htarget =>
    ⟨embedContext_knows hout hknown hc hhost htarget,
      embedContext_showsAs hout hlabels hcovered hc target.uri⟩]

/-- **Embeds in a batch.** Without an outage every post is given the embed that the index gives it
by itself, whichever posts it is resolved with. -/
theorem embeds_isLookup (hout : index.outage = none)
    (hposts : ∀ post ∈ posts, index.tables.post? viewer post.uri = some post)
    (hknown : IsPart known (index.actor? nameBytes viewer .withoutLabels))
    {subjects : List String} (hlabels : labels.IsOf index subjects)
    (hcovered : ∀ (did : Did) (actor : Actor), known[did]? = some actor → did.text ∈ subjects)
    (h : (embeds images nameBytes posts viewer known labels).Gives index views) :
    IsLookup views (posts.map (·.uri)) (index.embed? images nameBytes viewer) := by
  rw [embeds_eq_embedRows hout hknown hlabels hcovered h]
  apply IsLookup.of_rows
  intro uri view
  simp only [embedRows, List.mem_filterMap, Option.map_eq_some_iff, Prod.mk.injEq, List.mem_map,
    Index.embed?, Option.bind_eq_bind, Option.bind_eq_some_iff]
  constructor
  · rintro ⟨host, ⟨post, hmem, hhost⟩, _, hview, rfl, rfl⟩
    rw [EmbedHost.post_of_ofPost? hhost]
    exact ⟨⟨post, hmem, rfl⟩, post, hposts post hmem, host, hhost, hview⟩
  · rintro ⟨⟨post, hmem, rfl⟩, post', hpost', host, hhost, hview⟩
    rw [hposts post hmem] at hpost'
    cases hpost'
    exact ⟨host, ⟨post, hmem, hhost⟩, view, hview,
      congrArg Post.uri (EmbedHost.post_of_ofPost? hhost), rfl⟩

theorem answers_embeds (images : ImageService) (posts : List Post) (known : ExtTreeMap Did Actor)
    (labels : LabelSet) :
    (embeds images nameBytes posts viewer known labels).Answers index := by
  rw [embeds_eq]
  split
  · exact answers_pure _
  · exact (answers_embedContext images _ known labels).map _

end Embeds

end Fetch

end FeedHydration
