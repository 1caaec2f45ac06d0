import FeedHydration.Proofs.Graph

/-!
# The order of rows

The index promises no order for the rows of the graph, and an account may block or follow another by
several records. Whether two accounts block, follow or mute each other does not depend on the order,
and neither does the list that is named, for it is the least one. Which record of a block or a
follow is named does: it is that of the last row. So relationships stay what they are when rows
change places exactly if the last rows still carry the same uris.
-/

namespace FeedHydration

open Std (ExtTreeMap)

/-! ### Rows in another order -/

/-- Tables with the same rows of the graph, in whatever order. -/
structure Tables.SameGraph (t t' : Tables) : Prop where
  blocks : t.blocks.Perm t'.blocks
  follows : t.follows.Perm t'.follows
  mutes : t.mutes.Perm t'.mutes
  subscriptions : t.subscriptions.Perm t'.subscriptions
  listItems : t.listItems.Perm t'.listItems

/-- Relationships that differ at most in the records of blocks and follows that they name. -/
structure Relationship.Alike (r r' : Relationship) : Prop where
  blocking : r.blocking.isSome = r'.blocking.isSome
  blockedBy : r.blockedBy = r'.blockedBy
  following : r.following.isSome = r'.following.isSome
  followedBy : r.followedBy.isSome = r'.followedBy.isSome
  muted : r.muted = r'.muted
  mutedByList : r.mutedByList = r'.mutedByList

/-- All edges that lead from one account to another have one uri. -/
def IsUnambiguous (edges : List GraphEdge) (creator subject : Did) : Prop :=
  ∀ edge ∈ edges, ∀ edge' ∈ edges, edge.Leads creator subject → edge'.Leads creator subject →
    edge.uri = edge'.uri

section Edges

variable {edges edges' : List GraphEdge} {creator subject : Did}

theorem isSome_edge?_perm (h : edges.Perm edges') (creator subject : Did) :
    (GraphRows.edge? edges creator subject).isSome =
      (GraphRows.edge? edges' creator subject).isSome := by
  rw [Bool.eq_iff_iff, Tables.isSome_edge?, Tables.isSome_edge?]
  simp only [h.mem_iff]

theorem edge?_eq_iff :
    GraphRows.edge? edges creator subject = GraphRows.edge? edges' creator subject ↔
      ∀ uri, IsLastEdge edges creator subject uri ↔ IsLastEdge edges' creator subject uri := by
  simp only [← edge?_eq_some_iff]
  constructor
  · intro hsame uri
    rw [hsame]
  · exact Option.ext

theorem IsLastEdge.exists_leads {uri : AtUri} (h : IsLastEdge edges creator subject uri) :
    ∃ edge ∈ edges, edge.Leads creator subject ∧ edge.uri = uri := by
  obtain ⟨before, edge, after, rfl, hleads, huri, -⟩ := h
  exact ⟨edge, by simp, hleads, huri⟩

/-- Of edges that have one uri, it does not matter which comes last. -/
theorem IsUnambiguous.isLastEdge_iff (h : IsUnambiguous edges creator subject) {uri : AtUri} :
    IsLastEdge edges creator subject uri ↔
      ∃ edge ∈ edges, edge.Leads creator subject ∧ edge.uri = uri := by
  constructor
  · exact IsLastEdge.exists_leads
  · rintro ⟨edge, hmem, hleads, rfl⟩
    obtain ⟨uri, hlast⟩ := Option.isSome_iff_exists.1 (Tables.isSome_edge?.2 ⟨edge, hmem, hleads⟩)
    rw [edge?_eq_some_iff] at hlast
    obtain ⟨edge', hmem', hleads', rfl⟩ := hlast.exists_leads
    rwa [h edge hmem edge' hmem' hleads hleads']

theorem IsUnambiguous.perm (h : IsUnambiguous edges creator subject) (hperm : edges.Perm edges') :
    IsUnambiguous edges' creator subject :=
  fun edge hmem edge' hmem' => h edge (hperm.mem_iff.2 hmem) edge' (hperm.mem_iff.2 hmem')

theorem IsUnambiguous.isLastEdge_perm (h : IsUnambiguous edges creator subject)
    (hperm : edges.Perm edges') (uri : AtUri) :
    IsLastEdge edges creator subject uri ↔ IsLastEdge edges' creator subject uri := by
  rw [h.isLastEdge_iff, (h.perm hperm).isLastEdge_iff]
  simp only [hperm.mem_iff]

end Edges

namespace Tables

/-- Tables in which the last edges between the viewer and another account have the same uris. -/
structure NamesLike (t t' : Tables) (viewer did : Did) : Prop where
  blocking : ∀ uri, IsLastEdge t.blocks viewer did uri ↔ IsLastEdge t'.blocks viewer did uri
  following : ∀ uri, IsLastEdge t.follows viewer did uri ↔ IsLastEdge t'.follows viewer did uri
  followedBy : ∀ uri, IsLastEdge t.follows did viewer uri ↔ IsLastEdge t'.follows did viewer uri

/-- Between the viewer and another account no relation has two records. -/
structure IsUnambiguousBetween (t : Tables) (viewer did : Did) : Prop where
  blocking : IsUnambiguous t.blocks viewer did
  following : IsUnambiguous t.follows viewer did
  followedBy : IsUnambiguous t.follows did viewer

namespace SameGraph

variable {t t' : Tables} (h : t.SameGraph t')

include h

theorem namesLike {viewer did : Did} (hone : t.IsUnambiguousBetween viewer did) :
    t.NamesLike t' viewer did where
  blocking := hone.blocking.isLastEdge_perm h.blocks
  following := hone.following.isLastEdge_perm h.follows
  followedBy := hone.followedBy.isLastEdge_perm h.follows

theorem mem_mutingLists_iff {viewer did : Did} {list : AtUri} :
    list ∈ t.mutingLists viewer did ↔ list ∈ t'.mutingLists viewer did := by
  rw [mem_mutingLists, mem_mutingLists, h.subscriptions.mem_iff, h.listItems.mem_iff]

/-- Rows in another order say the same, up to the records they name. -/
theorem alike (viewer did : Did) :
    (t.relationship viewer did).Alike (t'.relationship viewer did) := by
  unfold relationship
  split
  · exact ⟨rfl, rfl, rfl, rfl, rfl, rfl⟩
  · exact {
      blocking := isSome_edge?_perm h.blocks viewer did
      blockedBy := isSome_edge?_perm h.blocks did viewer
      following := isSome_edge?_perm h.follows viewer did
      followedBy := isSome_edge?_perm h.follows did viewer
      muted := by
        rw [Bool.eq_iff_iff, List.contains_iff_mem, List.contains_iff_mem, h.mutes.mem_iff]
      mutedByList := by rw [distinct_congr fun _ => h.mem_mutingLists_iff] }

theorem relationship_eq_iff {viewer did : Did} (hne : did ≠ viewer) :
    t.relationship viewer did = t'.relationship viewer did ↔ t.NamesLike t' viewer did := by
  have halike := h.alike viewer did
  unfold relationship at halike ⊢
  rw [if_neg hne, if_neg hne] at halike ⊢
  rw [Relationship.mk.injEq]
  constructor
  · rintro ⟨hblocking, -, hfollowing, hfollowedBy, -⟩
    exact ⟨edge?_eq_iff.1 hblocking, edge?_eq_iff.1 hfollowing, edge?_eq_iff.1 hfollowedBy⟩
  · intro hnames
    exact ⟨edge?_eq_iff.2 hnames.blocking, halike.blockedBy, edge?_eq_iff.2 hnames.following,
      edge?_eq_iff.2 hnames.followedBy, halike.muted, halike.mutedByList⟩

theorem relationship?_eq_iff {viewer : Option Did} {did : Did} :
    t.relationship? viewer did = t'.relationship? viewer did ↔
      ∀ v, viewer = some v → did ≠ v → t.NamesLike t' v did := by
  cases viewer with
  | none => simp [relationship?]
  | some viewer =>
    by_cases hviewer : did = viewer
    · simp [relationship?, relationship, hviewer]
    · simp [relationship?, h.relationship_eq_iff hviewer, hviewer]

end SameGraph

end Tables

/-! ### Reading the rows -/

namespace Fetch

variable {index index' : Index}

/-- Programs that come to the same end: to one error, or each to a value. -/
def EndsLike {α β : Type} (m : Fetch α) (m' : Fetch β) (index index' : Index) : Prop :=
  (∃ e, (m.run index).result = .error e ∧ (m'.run index').result = .error e) ∨
    m.Answers index ∧ m'.Answers index'

theorem EndsLike.bind {α β : Type} {m m' : Fetch α} {next next' : α → Fetch β}
    (h : m.EndsLike m' index index') (hnext : ∀ a a', (next a).EndsLike (next' a') index index') :
    (m >>= next).EndsLike (m' >>= next') index index' := by
  obtain ⟨e, he, he'⟩ | ⟨⟨a, ha⟩, ⟨a', ha'⟩⟩ := h
  · exact Or.inl ⟨e, by rw [run_bind_of_error he], by rw [run_bind_of_error he']⟩
  · obtain ⟨e, he, he'⟩ | ⟨⟨b, hb⟩, ⟨b', hb'⟩⟩ := hnext a a'
    · exact Or.inl ⟨e, by rw [run_bind_of_ok ha, he], by rw [run_bind_of_ok ha', he']⟩
    · exact Or.inr ⟨⟨b, gives_bind.2 ⟨a, ha, hb⟩⟩, ⟨b', gives_bind.2 ⟨a', ha', hb'⟩⟩⟩

theorem endsLike_pure {α : Type} (a a' : α) :
    (Pure.pure a : Fetch α).EndsLike (Pure.pure a') index index' :=
  Or.inr ⟨answers_pure a, answers_pure a'⟩

theorem endsLike_read {α : Type} (hout : index.outage = index'.outage) (kind : ReadKind)
    (ids : List String) (answer : Tables → α) :
    (read kind ids answer).EndsLike (read kind ids answer) index index' := by
  by_cases hkind : index.outage = some kind
  · refine Or.inl ⟨outageError, ?_, ?_⟩
    · simp [read, hkind]
    · simp [read, ← hout, hkind]
  · refine Or.inr ⟨⟨_, gives_read.2 ⟨hkind, rfl⟩⟩, ⟨_, gives_read.2 ⟨?_, rfl⟩⟩⟩
    rwa [← hout]

theorem endsLike_relationships (hout : index.outage = index'.outage) (dids : List Did)
    (viewer : Option Did) :
    (relationships dids viewer).EndsLike (relationships dids viewer) index index' := by
  cases viewer with
  | none => exact endsLike_pure _ _
  | some viewer =>
    simp only [relationships]
    split
    · exact endsLike_pure _ _
    · refine EndsLike.bind ?_ fun _ _ => endsLike_pure _ _
      refine (endsLike_read hout _ _ _).bind fun _ _ => ?_
      refine (endsLike_read hout _ _ _).bind fun _ _ => ?_
      refine (endsLike_read hout _ _ _).bind fun _ _ => ?_
      exact (endsLike_read hout _ _ _).bind fun _ _ => endsLike_pure _ _

/-- **Rows in another order.** Of two indices whose rows of the graph stand in different orders, and
that fail alike, either both fail or both give each account a relationship, and the two say the same
up to the records they name. They name the same ones exactly if the last edges between the viewer
and an account carry the same uris; so they do if no relation between the two has several records. -/
theorem relationships_reordered (h : index.tables.SameGraph index'.tables)
    (hout : index.outage = index'.outage) (dids : List Did) (viewer : Option Did) :
    (∃ e, ((relationships dids viewer).run index).result = .error e ∧
      ((relationships dids viewer).run index').result = .error e) ∨
    ∃ found found', (relationships dids viewer).Gives index found ∧
      (relationships dids viewer).Gives index' found' ∧
      found.keys = found'.keys ∧
      (∀ (did : Did) (r : Relationship), found[did]? = some r →
        ∃ r', found'[did]? = some r' ∧ r.Alike r') ∧
      (found = found' ↔ ∀ v, viewer = some v → ∀ did ∈ dids, did ≠ v →
        index.tables.NamesLike index'.tables v did) ∧
      ((∀ v, viewer = some v → ∀ did ∈ dids, did ≠ v → index.tables.IsUnambiguousBetween v did) →
        found = found') := by
  obtain hfails | ⟨⟨found, hfound⟩, ⟨found', hfound'⟩⟩ := endsLike_relationships hout dids viewer
  · exact Or.inl hfails
  right
  have hlookup := relationships_isLookup hfound
  have hlookup' := relationships_isLookup hfound'
  have hsame : found = found' ↔ ∀ v, viewer = some v → ∀ did ∈ dids, did ≠ v →
      index.tables.NamesLike index'.tables v did := by
    simp only [hlookup.eq_iff hlookup', h.relationship?_eq_iff]
    exact ⟨fun hnames v hv did hdid => hnames did hdid v hv,
      fun hnames did hdid v hv => hnames v hv did hdid⟩
  have halike : ∀ (did : Did) (r : Relationship), found[did]? = some r →
      ∃ r', found'[did]? = some r' ∧ r.Alike r' := by
    intro did r hr
    obtain ⟨hmem, hvalue⟩ := (hlookup did r).1 hr
    obtain ⟨v, rfl, rfl⟩ := Option.map_eq_some_iff.1 hvalue
    exact ⟨_, hlookup'.getElem?_of_mem hmem, h.alike v did⟩
  refine ⟨found, found', hfound, hfound', keys_eq_keys fun did => ?_, halike, hsame,
    fun hone => hsame.2 fun v hv did hdid hne => h.namesLike (hone v hv did hdid hne)⟩
  rw [ExtTreeMap.mem_iff_isSome_getElem?, ExtTreeMap.mem_iff_isSome_getElem?,
    Option.isSome_iff_exists, Option.isSome_iff_exists, hlookup.exists_iff, hlookup'.exists_iff]
  cases viewer <;> simp [Tables.relationship?]

end Fetch

namespace Sample

/-- The crowded index, with its blocks the other way round. -/
def turned : Index :=
  { crowd with tables := { crowd.tables with blocks := crowd.tables.blocks.reverse } }

/-- The viewer blocks the foe by two records, and which of them is named depends on their order. -/
theorem relationships_reordered_crowd :
    crowd.tables.SameGraph turned.tables ∧ crowd.outage = turned.outage ∧
    ∃ found found', (Fetch.relationships [foe] (some viewer)).Gives crowd found ∧
      (Fetch.relationships [foe] (some viewer)).Gives turned found' ∧
      found.keys = found'.keys ∧ found ≠ found' := by
  have hgraph : crowd.tables.SameGraph turned.tables :=
    ⟨(List.reverse_perm _).symm, .refl _, .refl _, .refl _, .refl _⟩
  have hout : crowd.outage = turned.outage := rfl
  refine ⟨hgraph, hout, ?_⟩
  obtain ⟨e, he, -⟩ | ⟨found, found', hfound, hfound', hkeys, -, hsame, -⟩ :=
    Fetch.relationships_reordered hgraph hout [foe] (some viewer)
  · obtain ⟨found, hfound⟩ : (Fetch.relationships [foe] (some viewer)).Answers crowd :=
      Fetch.answers_relationships rfl [foe] (some viewer)
    rw [Fetch.Gives, he] at hfound
    cases hfound
  · refine ⟨found, found', hfound, hfound', hkeys, fun heq => ?_⟩
    have hnames := hsame.1 heq viewer rfl foe (by simp) (by decide)
    have hlast : IsLastEdge turned.tables.blocks viewer foe secondBlock :=
      (hnames.blocking secondBlock).1 (edge?_eq_some_iff.1 (by decide +kernel))
    have hfirst : GraphRows.edge? turned.tables.blocks viewer foe = some block := by
      decide +kernel
    rw [← edge?_eq_some_iff, hfirst] at hlast
    exact absurd hlast (by decide)

end Sample

end FeedHydration
