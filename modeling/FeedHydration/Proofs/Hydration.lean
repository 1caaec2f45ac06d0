import FeedHydration.Hydration.Page
import FeedHydration.Proofs.Embed

/-!
# Hydration

The tables of a hydrated page hold exactly what the index says of the posts that its items lead to,
of the reposts, and of the accounts behind both. Which other items share the page only widens the
set of ids; it never changes what stands under one of them.
-/

namespace FeedHydration

open Std (ExtTreeMap)

namespace Tables

variable (t : Tables) (viewer : Option Did)

/-- The posts that a post replies to, if it may be shown. -/
def ancestorsOf (uri : AtUri) : List AtUri :=
  ((t.post? viewer uri).bind Post.ancestors?).elim [] fun a => [a.root, a.parent]

/-- The posts that some items lead to. -/
def reached (items : List SkeletonItem) : List AtUri :=
  items.flatMap fun item => item.post :: t.ancestorsOf viewer item.post

/-- The accounts that some items lead to. -/
def involved (items : List SkeletonItem) : List Did :=
  (t.reached viewer items).map (·.authority) ++
    (items.filterMap fun item => item.repost.bind t.repost?).map (·.originator)

/-- What some items need the labels of. -/
def subjects (items : List SkeletonItem) : List String :=
  (t.involved viewer items).map (·.text) ++ (t.reached viewer items).map (·.text)

theorem mem_ancestorsOf {t : Tables} {viewer : Option Did} {uri ancestor : AtUri} :
    ancestor ∈ t.ancestorsOf viewer uri ↔
      ∃ post, t.post? viewer uri = some post ∧
        ∃ a, post.ancestors? = some a ∧ (ancestor = a.root ∨ ancestor = a.parent) := by
  unfold ancestorsOf
  cases t.post? viewer uri with
  | none => simp
  | some post => cases hancestors : post.ancestors? <;> simp [hancestors]

end Tables

/-- A page that holds what the index says about some items. Only the embeds may fall short of it. -/
structure Hydration.IsOf (h : Hydration) (index : Index) (images : ImageService) (nameBytes : Nat)
    (viewer : Option Did) (items : List SkeletonItem) : Prop where
  posts : IsLookup h.posts (index.tables.reached viewer items) (index.tables.post? viewer)
  reposts : IsLookup h.reposts (items.filterMap (·.repost)) index.tables.repost?
  actors : IsLookup h.actors (index.tables.involved viewer items)
    (index.actor? nameBytes viewer .withoutLabels)
  labels : h.labels.IsOf index (index.tables.subjects viewer items)
  embeds : ∀ (uri : AtUri) (view : EmbedView) (slot : RecordSlot), h.embeds[uri]? = some view →
    view.slot? = some slot → ∃ d target, EmbedContext.IsSlotOf index nameBytes viewer d target slot
  wholeEmbeds : index.outage = none →
    IsLookup h.embeds (index.tables.reached viewer items) (index.embed? images nameBytes viewer)

namespace Fetch

variable {index : Index} {images : ImageService} {nameBytes : Nat} {viewer : Option Did}
  {items : List SkeletonItem}

section Reached

variable {posts : ExtTreeMap AtUri Post}

theorem mem_ancestors
    (hposts : IsLookup posts (items.map (·.post)) (index.tables.post? viewer)) {uri : AtUri} :
    uri ∈ Hydration.ancestors posts ↔
      (∃ item ∈ items, uri ∈ index.tables.ancestorsOf viewer item.post) ∧ posts[uri]? = none := by
  simp only [Hydration.ancestors, List.mem_filter, List.mem_flatMap, List.mem_filterMap, mem_values,
    Bool.not_eq_true', ExtTreeMap.contains_eq_isSome_getElem?, Option.isSome_eq_false_iff,
    Option.isNone_iff_eq_none, List.mem_cons, List.not_mem_nil, or_false]
  apply and_congr_left'
  constructor
  · rintro ⟨a, ⟨post, ⟨id, hpost⟩, ha⟩, huri⟩
    obtain ⟨item, hitem, rfl⟩ := List.mem_map.1 (hposts.mem hpost)
    exact ⟨item, hitem, Tables.mem_ancestorsOf.2 ⟨post, hposts.value_eq hpost, a, ha, huri⟩⟩
  · rintro ⟨item, hitem, hancestor⟩
    obtain ⟨post, hpost, a, ha, huri⟩ := Tables.mem_ancestorsOf.1 hancestor
    refine ⟨a, ⟨post, ⟨item.post, ?_⟩, ha⟩, huri⟩
    rw [hposts.getElem?_of_mem (List.mem_map_of_mem hitem), hpost]

/-- Ancestors that are items themselves are not loaded again, and are reached all the same. -/
theorem mem_reached (hposts : IsLookup posts (items.map (·.post)) (index.tables.post? viewer))
    {uri : AtUri} :
    uri ∈ items.map (·.post) ++ Hydration.ancestors posts ↔
      uri ∈ index.tables.reached viewer items := by
  simp only [List.mem_append, mem_ancestors hposts, Tables.reached, List.mem_flatMap,
    List.mem_cons, List.mem_map]
  constructor
  · rintro (⟨item, hitem, rfl⟩ | ⟨⟨item, hitem, hancestor⟩, -⟩)
    · exact ⟨item, hitem, Or.inl rfl⟩
    · exact ⟨item, hitem, Or.inr hancestor⟩
  · rintro ⟨item, hitem, rfl | hancestor⟩
    · exact Or.inl ⟨item, hitem, rfl⟩
    · cases hfound : posts[uri]? with
      | none => exact Or.inr ⟨⟨item, hitem, hancestor⟩, rfl⟩
      | some post => exact Or.inl (List.mem_map.1 (hposts.mem hfound))

theorem mem_involved (hposts : IsLookup posts (items.map (·.post)) (index.tables.post? viewer))
    {reposts : ExtTreeMap AtUri Repost}
    (hreposts : IsLookup reposts (items.filterMap (·.repost)) index.tables.repost?) {did : Did} :
    did ∈ Hydration.accounts items reposts (Hydration.ancestors posts) ↔
      did ∈ index.tables.involved viewer items := by
  have hauthors : did ∈ items.map (·.author) ∨ did ∈ (Hydration.ancestors posts).map (·.authority) ↔
      did ∈ (index.tables.reached viewer items).map (·.authority) := by
    rw [← List.mem_append, show items.map (·.author) = (items.map (·.post)).map (·.authority) by
      rw [List.map_map]; rfl, ← List.map_append]
    simp only [List.mem_map (f := AtUri.authority), mem_reached hposts]
  have horiginators : did ∈ reposts.values.map (·.originator) ↔
      did ∈ (items.filterMap fun item => item.repost.bind index.tables.repost?).map
        (·.originator) := by
    simp only [List.mem_map, mem_values, List.mem_filterMap, Option.bind_eq_some_iff]
    constructor
    · rintro ⟨repost, ⟨uri, hrepost⟩, rfl⟩
      obtain ⟨item, hitem, huri⟩ := List.mem_filterMap.1 (hreposts.mem hrepost)
      exact ⟨repost, ⟨item, hitem, uri, huri, hreposts.value_eq hrepost⟩, rfl⟩
    · rintro ⟨repost, ⟨item, hitem, uri, huri, hrepost⟩, rfl⟩
      refine ⟨repost, ⟨uri, ?_⟩, rfl⟩
      rw [hreposts.getElem?_of_mem (List.mem_filterMap.2 ⟨item, hitem, huri⟩), hrepost]
  rw [Hydration.accounts, Tables.involved, List.mem_append, List.mem_append, List.mem_append,
    horiginators, or_right_comm, hauthors]

end Reached

theorem isOf_empty : Hydration.empty.IsOf index images nameBytes viewer [] where
  posts := IsLookup.empty _
  reposts := IsLookup.empty _
  actors := IsLookup.empty _
  labels := LabelSet.IsOf.empty index
  embeds := by simp [Hydration.empty]
  wholeEmbeds := fun _ => IsLookup.empty _

/-- **Hydration is exact.** A page that could be hydrated holds what the index says about its items;
without an outage its embeds do too. -/
theorem hydrate_isOf {page : Hydration}
    (h : (hydrate images nameBytes items viewer).Gives index page) :
    page.IsOf index images nameBytes viewer items := by
  simp only [hydrate] at h
  split at h
  · rename_i hempty
    rw [gives_pure] at h
    rw [List.isEmpty_iff] at hempty
    subst h hempty
    exact isOf_empty
  · simp only [gives_bind, gives_pure] at h
    obtain ⟨posts, hposts, reposts, hreposts, ancestors, hancestors, actors, hactors, labels,
      hlabels, views, hviews, rfl⟩ := h
    have hposts := loadPosts_isLookup hposts
    have hreposts := loadReposts_isLookup hreposts
    have hreached : ∀ uri, uri ∈ items.map (·.post) ++ Hydration.ancestors posts ↔
        uri ∈ index.tables.reached viewer items := fun _ => mem_reached hposts
    have hinvolved : ∀ did, did ∈ Hydration.accounts items reposts (Hydration.ancestors posts) ↔
        did ∈ index.tables.involved viewer items := fun _ => mem_involved hposts hreposts
    have hall := (hposts.union (loadPosts_isLookup hancestors)).congr hreached
    have hactors := (loadActors_isLookup hactors).congr hinvolved
    have hlabels : labels.IsOf index (index.tables.subjects viewer items) := by
      apply (labelSet_isOf hlabels).congr
      intro subject
      rw [Hydration.labelSubjects, Tables.subjects, List.append_assoc, ← List.map_append]
      simp only [List.mem_append, List.mem_map, ← hreached, ← hinvolved]
    refine ⟨hall, hreposts, hactors, hlabels,
      fun _ _ _ hview hslot => isSlotOf_of_embeds hactors.isPart hviews hview hslot, fun hout => ?_⟩
    -- every post of the page is a host, those above a reply included
    have hvalues : ∀ post ∈ (posts ∪ ancestors).values,
        post.uri ∈ index.tables.reached viewer items ∧
          index.tables.post? viewer post.uri = some post := by
      intro post hmem
      obtain ⟨uri, hpost⟩ := mem_values.1 hmem
      rw [Tables.uri_of_post? (hall.value_eq hpost)]
      exact ⟨hall.mem hpost, hall.value_eq hpost⟩
    have hcovered : ∀ (did : Did) (actor : Actor), actors[did]? = some actor →
        did.text ∈ index.tables.subjects viewer items := fun did actor hactor =>
      List.mem_append_left _ (List.mem_map_of_mem (hactors.mem hactor))
    apply (embeds_isLookup hout (fun post hmem => (hvalues post hmem).2) hactors.isPart hlabels
      hcovered hviews).extend
    · intro uri hmem
      obtain ⟨post, hpost, rfl⟩ := List.mem_map.1 hmem
      exact (hvalues post hpost).1
    · intro uri hmem view hview
      obtain ⟨post, hpost, -⟩ := Option.bind_eq_some_iff.1 hview
      refine List.mem_map.2 ⟨post, mem_values.2 ⟨uri, ?_⟩, Tables.uri_of_post? hpost⟩
      rw [hall.getElem?_of_mem hmem, hpost]

theorem answers_hydrate (hout : index.outage = none) (images : ImageService) (nameBytes : Nat)
    (items : List SkeletonItem) (viewer : Option Did) :
    (hydrate images nameBytes items viewer).Answers index := by
  simp only [hydrate]
  split
  · exact answers_pure _
  · refine (answers_loadPosts hout).bind fun _ _ => ?_
    refine (answers_loadReposts hout).bind fun _ _ => ?_
    refine (answers_loadPosts hout).bind fun _ _ => ?_
    refine (answers_loadActors hout).bind fun _ _ => ?_
    refine (answers_labelSet hout _).bind fun _ _ => ?_
    exact (answers_embeds _ _ _ _).bind fun _ _ => answers_pure _

end Fetch

end FeedHydration
