import FeedHydration.Proofs.Gives
import FeedHydration.Proofs.Lookup
import FeedHydration.Proofs.Visible

/-!
# Relationships

The four reads about a viewer and a batch of accounts say of each account what the whole graph says
of it alone: an edge that joins the viewer and some other account never counts. The flags of a
relationship are then read back as statements about the rows of the graph.
-/

namespace FeedHydration

open Std (ExtTreeMap)

namespace Tables

/-- A block between two accounts, in either direction. -/
def HasBlock (t : Tables) (did did' : Did) : Prop :=
  ∃ edge ∈ t.blocks, (edge.creator = did ∧ edge.subject = did') ∨
    (edge.creator = did' ∧ edge.subject = did)

/-- A mute of an account by itself, or of all accounts on a list. -/
def Mutes (t : Tables) (viewer did : Did) : Prop :=
  ⟨viewer, did⟩ ∈ t.mutes ∨ ∃ list, ⟨viewer, list⟩ ∈ t.subscriptions ∧ ⟨list, did⟩ ∈ t.listItems

theorem isSome_edge? {edges : List GraphEdge} {creator subject : Did} :
    (GraphRows.edge? edges creator subject).isSome = true ↔
      ∃ edge ∈ edges, edge.creator = creator ∧ edge.subject = subject := by
  simp [GraphRows.edge?]

theorem edge?_filter {edges : List GraphEdge} {p : GraphEdge → Bool} {creator subject : Did}
    (hp : ∀ edge, edge.creator = creator → edge.subject = subject → p edge = true) :
    GraphRows.edge? (edges.filter p) creator subject = GraphRows.edge? edges creator subject := by
  unfold GraphRows.edge?
  rw [List.filter_filter]
  congr 2
  apply List.filter_congr
  intro edge _
  by_cases hedge : edge.creator = creator ∧ edge.subject = subject
  · simp [hedge, hp edge hedge.1 hedge.2]
  · have : (decide (edge.creator = creator) && decide (edge.subject = subject)) = false := by
      simpa using hedge
    rw [this, Bool.false_and]

section Joins

variable {viewer did : Did} {subjects : List Did}

theorem edge?_from_viewer (hmem : did ∈ subjects) (edges : List GraphEdge) :
    GraphRows.edge? (edges.filter (joins viewer subjects)) viewer did =
      GraphRows.edge? edges viewer did := by
  apply edge?_filter
  rintro edge rfl rfl
  simp [joins, hmem]

theorem edge?_to_viewer (hmem : did ∈ subjects) (edges : List GraphEdge) :
    GraphRows.edge? (edges.filter (joins viewer subjects)) did viewer =
      GraphRows.edge? edges did viewer := by
  apply edge?_filter
  rintro edge rfl rfl
  simp [joins, hmem]

theorem contains_mutedBy (t : Tables) (hmem : did ∈ subjects) :
    (t.mutedBy viewer subjects).contains did = t.mutes.contains ⟨viewer, did⟩ := by
  rw [Bool.eq_iff_iff, List.contains_iff_mem, List.contains_iff_mem]
  unfold mutedBy
  simp only [List.mem_map, List.mem_filter, Bool.and_eq_true, decide_eq_true_eq]
  constructor
  · rintro ⟨⟨creator, subject⟩, ⟨hmute, rfl, -⟩, rfl⟩
    exact hmute
  · intro hmute
    exact ⟨⟨viewer, did⟩, ⟨hmute, rfl, by simpa using hmem⟩, rfl⟩

theorem mem_mutingLists {t : Tables} {list : AtUri} :
    list ∈ t.mutingLists viewer did ↔
      ⟨viewer, list⟩ ∈ t.subscriptions ∧ ⟨list, did⟩ ∈ t.listItems := by
  unfold mutingLists
  simp only [List.mem_map, List.mem_filter, Bool.and_eq_true, decide_eq_true_eq,
    List.contains_iff_mem]
  constructor
  · rintro ⟨⟨subscriber, list⟩, ⟨hsub, rfl, hitem⟩, rfl⟩
    exact ⟨hsub, hitem⟩
  · rintro ⟨hsub, hitem⟩
    exact ⟨⟨viewer, list⟩, ⟨hsub, rfl, hitem⟩, rfl⟩

theorem mutingList?_mutedByLists (t : Tables) (hmem : did ∈ subjects)
    (blocks follows : List GraphEdge) (mutes : List Did) :
    GraphRows.mutingList? ⟨blocks, follows, mutes, t.mutedByLists viewer subjects⟩ did =
      (distinct (t.mutingLists viewer did)).head? := by
  unfold GraphRows.mutingList?
  rw [distinct_congr]
  intro list
  rw [mem_mutingLists]
  unfold mutedByLists
  simp only [List.mem_map, List.mem_filter, List.mem_flatMap, Bool.and_eq_true, decide_eq_true_eq,
    List.contains_iff_mem]
  constructor
  · rintro ⟨⟨list, member⟩, ⟨⟨⟨subscriber, list'⟩, ⟨hsub, rfl⟩, hitem, rfl, -⟩, rfl⟩, rfl⟩
    exact ⟨hsub, hitem⟩
  · rintro ⟨hsub, hitem⟩
    exact ⟨⟨list, did⟩, ⟨⟨⟨viewer, list⟩, ⟨hsub, rfl⟩, hitem, rfl, hmem⟩, rfl⟩, rfl⟩

/-- **Relationships in a batch.** The rows read for a batch of subjects say of each of them what all
rows say. -/
theorem ofRows_eq_relationship (t : Tables) (hmem : did ∈ subjects) (hne : did ≠ viewer) :
    Relationship.ofRows ⟨t.blocksWith viewer subjects, t.followsWith viewer subjects,
      t.mutedBy viewer subjects, t.mutedByLists viewer subjects⟩ viewer did =
      t.relationship viewer did := by
  unfold Relationship.ofRows relationship
  rw [if_neg hne, mutingList?_mutedByLists t hmem]
  simp only [blocksWith, followsWith, edge?_from_viewer hmem, edge?_to_viewer hmem,
    contains_mutedBy t hmem]

end Joins

theorem hasBlock_relationship_iff {t : Tables} {viewer did : Did} (hne : did ≠ viewer) :
    (t.relationship viewer did).hasBlock = true ↔ t.HasBlock viewer did := by
  unfold relationship Relationship.hasBlock HasBlock
  rw [if_neg hne, Bool.or_eq_true, isSome_edge?, isSome_edge?]
  constructor
  · rintro (⟨edge, hmem, hedge⟩ | ⟨edge, hmem, hedge⟩)
    · exact ⟨edge, hmem, Or.inl hedge⟩
    · exact ⟨edge, hmem, Or.inr hedge⟩
  · rintro ⟨edge, hmem, hedge | hedge⟩
    · exact Or.inl ⟨edge, hmem, hedge⟩
    · exact Or.inr ⟨edge, hmem, hedge⟩

theorem isSome_mutedByList_iff {t : Tables} {viewer did : Did} (hne : did ≠ viewer) :
    (t.relationship viewer did).mutedByList.isSome = true ↔
      ∃ list, ⟨viewer, list⟩ ∈ t.subscriptions ∧ ⟨list, did⟩ ∈ t.listItems := by
  unfold relationship
  rw [if_neg hne, List.isSome_head?, Ne, distinct_eq_nil, List.eq_nil_iff_forall_not_mem]
  simp only [mem_mutingLists]
  exact Classical.not_forall_not

theorem isMuted_relationship_iff {t : Tables} {viewer did : Did} (hne : did ≠ viewer) :
    (t.relationship viewer did).isMuted = true ↔ t.Mutes viewer did := by
  have hmuted : (t.relationship viewer did).muted = t.mutes.contains ⟨viewer, did⟩ := by
    rw [relationship, if_neg hne]
  rw [Relationship.isMuted, Mutes, Bool.or_eq_true, isSome_mutedByList_iff hne, hmuted,
    List.contains_iff_mem]

end Tables

namespace Index

variable {index : Index} {nameBytes : Nat} {viewer did : Did} {mode : Fetch.LabelMode}
  {actor : Actor}

theorem hasBlock_actor?_iff (hne : did ≠ viewer)
    (h : index.actor? nameBytes (some viewer) mode did = some actor) :
    actor.hasBlock = true ↔ index.tables.HasBlock viewer did := by
  rw [Actor.hasBlock, relationship_of_actor? h, Tables.relationship?, Option.map_some,
    Option.any_some, Tables.hasBlock_relationship_iff hne]

theorem isMuted_actor?_iff (hne : did ≠ viewer)
    (h : index.actor? nameBytes (some viewer) mode did = some actor) :
    actor.isMuted = true ↔ index.tables.Mutes viewer did := by
  rw [Actor.isMuted, relationship_of_actor? h, Tables.relationship?, Option.map_some,
    Option.any_some, Tables.isMuted_relationship_iff hne]

end Index

namespace Fetch

variable {index : Index}

theorem gives_graphRows {viewer : Did} {subjects : List Did} {rows : GraphRows}
    (h : (graphRows viewer subjects).Gives index rows) :
    rows = ⟨index.tables.blocksWith viewer subjects, index.tables.followsWith viewer subjects,
      index.tables.mutedBy viewer subjects, index.tables.mutedByLists viewer subjects⟩ := by
  simp only [graphRows, blocks, follows, mutes, listMutes, gives_bind, gives_read, gives_pure] at h
  obtain ⟨_, ⟨-, rfl⟩, _, ⟨-, rfl⟩, _, ⟨-, rfl⟩, _, ⟨-, rfl⟩, rfl⟩ := h
  rfl

theorem answers_graphRows (hout : index.outage = none) (viewer : Did) (subjects : List Did) :
    (graphRows viewer subjects).Answers index := by
  refine (answers_read hout _ _ _).bind fun _ _ => ?_
  refine (answers_read hout _ _ _).bind fun _ _ => ?_
  refine (answers_read hout _ _ _).bind fun _ _ => ?_
  exact (answers_read hout _ _ _).bind fun _ _ => answers_pure _

theorem relationships_isLookup {dids : List Did} {viewer : Option Did}
    {found : ExtTreeMap Did Relationship} (h : (relationships dids viewer).Gives index found) :
    IsLookup found dids (index.tables.relationship? viewer) := by
  cases viewer with
  | none =>
    rw [relationships, gives_pure] at h
    subst h
    intro did r
    simp [Tables.relationship?]
  | some viewer =>
    -- every given relationship is the one of the whole graph, whether the graph was read or not
    suffices ∃ f : Did → Relationship,
        (∀ did ∈ dids, f did = index.tables.relationship viewer did) ∧
        found = ExtTreeMap.ofList (dids.map fun did => (did, f did)) by
      obtain ⟨f, hf, rfl⟩ := this
      apply IsLookup.of_rows
      intro did r
      simp only [List.mem_map, Prod.mk.injEq, Tables.relationship?, Option.map_some,
        Option.some.injEq]
      constructor
      · rintro ⟨did, hmem, rfl, rfl⟩
        exact ⟨hmem, (hf did hmem).symm⟩
      · rintro ⟨hmem, rfl⟩
        exact ⟨did, hmem, rfl, hf did hmem⟩
    simp only [relationships] at h
    split at h
    · rename_i hnone
      rw [gives_pure] at h
      refine ⟨fun _ => Relationship.none, fun did hmem => ?_, h.symm⟩
      have hviewer : did = viewer := by
        rw [List.isEmpty_iff, distinct_eq_nil, List.filter_eq_nil_iff] at hnone
        simpa using hnone did hmem
      simp [Tables.relationship, hviewer]
    · obtain ⟨rows, hrows, hfound⟩ := gives_bind.1 h
      rw [gives_pure] at hfound
      refine ⟨_, fun did hmem => ?_, hfound.symm⟩
      by_cases hviewer : did = viewer
      · simp [Tables.relationship, hviewer]
      · rw [if_neg hviewer, gives_graphRows hrows]
        exact index.tables.ofRows_eq_relationship (by simp [hmem, hviewer]) hviewer

theorem answers_relationships (hout : index.outage = none) (dids : List Did)
    (viewer : Option Did) : (relationships dids viewer).Answers index := by
  cases viewer with
  | none => exact answers_pure _
  | some viewer =>
    simp only [relationships]
    split
    · exact answers_pure _
    · exact (answers_graphRows hout _ _).bind fun _ _ => answers_pure _

end Fetch

end FeedHydration
