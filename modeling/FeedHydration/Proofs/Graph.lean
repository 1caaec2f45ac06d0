import FeedHydration.Proofs.Page

/-!
# What the graph says

A relationship says of an account what the rows of the graph say about it and the viewer, and no
more. Several rows may speak of one pair, and each relation has its own way to settle that: of edges
the last one in the table counts, of lists the one with the least uri, and a mute only has to be
there. The viewer has no relationship to themselves, whatever rows there are.
-/

namespace FeedHydration

open Std (ExtTreeMap)

/-! ### Edges -/

def GraphEdge.Leads (edge : GraphEdge) (creator subject : Did) : Prop :=
  edge.creator = creator ∧ edge.subject = subject

/-- The uri of the last of all edges that lead from one account to another. -/
def IsLastEdge (edges : List GraphEdge) (creator subject : Did) (uri : AtUri) : Prop :=
  ∃ before edge after, edges = before ++ edge :: after ∧ edge.Leads creator subject ∧
    edge.uri = uri ∧ ∀ other ∈ after, ¬ other.Leads creator subject

theorem edge?_eq_some_iff {edges : List GraphEdge} {creator subject : Did} {uri : AtUri} :
    GraphRows.edge? edges creator subject = some uri ↔ IsLastEdge edges creator subject uri := by
  have hleads : ∀ edge : GraphEdge,
      (edge.creator = creator && edge.subject = subject : Bool) = true ↔
        edge.Leads creator subject := by
    simp [GraphEdge.Leads]
  unfold GraphRows.edge?
  simp only [Option.map_eq_some_iff, List.getLast?_eq_some_iff]
  constructor
  · rintro ⟨edge, ⟨_, hfilter⟩, rfl⟩
    obtain ⟨before, rest, rfl, -, hlast⟩ := List.filter_eq_append_iff.1 hfilter
    obtain ⟨between, after, rfl, -, hedge, hafter⟩ := List.filter_eq_cons_iff.1 hlast
    refine ⟨before ++ between, edge, after, (List.append_assoc ..).symm, (hleads edge).1 hedge,
      rfl, fun other hother => ?_⟩
    rw [← hleads]
    exact List.filter_eq_nil_iff.1 hafter other hother
  · rintro ⟨before, edge, after, rfl, hedge, rfl, hafter⟩
    have hnone : (after.filter fun other =>
        other.creator = creator && other.subject = subject) = [] :=
      List.filter_eq_nil_iff.2 fun other hother => mt (hleads other).1 (hafter other hother)
    refine ⟨edge, ⟨before.filter fun other => other.creator = creator && other.subject = subject,
      ?_⟩, rfl⟩
    simp only [List.filter_append, List.filter_cons, hnone, (hleads edge).2 hedge, if_true]

/-! ### The first of the distinct -/

section Distinct

variable {α : Type} [Ord α] [Std.TransOrd α] [Std.LawfulEqOrd α] {ids : List α}

theorem head?_distinct_eq_some_iff {id : α} :
    (distinct ids).head? = some id ↔ id ∈ ids ∧ ∀ other ∈ ids, (compare id other).isLE = true := by
  cases hids : distinct ids with
  | nil =>
    rw [distinct_eq_nil] at hids
    simp [hids]
  | cons least rest =>
    have hmem : ∀ other, other ∈ ids ↔ other = least ∨ other ∈ rest := fun other => by
      rw [← mem_distinct, hids, List.mem_cons]
    have hsorted := pairwise_distinct ids
    rw [hids, List.pairwise_cons] at hsorted
    have hleast : ∀ other ∈ ids, (compare least other).isLE = true := by
      intro other hother
      obtain rfl | hother := (hmem other).1 hother
      · exact Std.ReflOrd.isLE_rfl
      · exact Ordering.isLE_of_eq_lt (hsorted.1 other hother)
    rw [List.head?_cons, Option.some.injEq]
    constructor
    · rintro rfl
      exact ⟨(hmem least).2 (Or.inl rfl), hleast⟩
    · rintro ⟨hid, hle⟩
      have hsame := Std.OrientedCmp.isLE_antisymm (hleast id hid)
        (hle least ((hmem least).2 (Or.inl rfl)))
      exact Std.LawfulEqOrd.eq_of_compare hsame

theorem keys_eq_distinct {ρ : Type} {table : ExtTreeMap α ρ} (h : ∀ id, id ∈ table ↔ id ∈ ids) :
    table.keys = distinct ids := by
  have hasymm : ∀ a b, a ∈ table.keys → b ∈ distinct ids → compare a b = .lt →
      compare b a = .lt → a = b := by
    intro a b _ _ hab hba
    rw [Std.OrientedCmp.gt_of_lt hba] at hab
    cases hab
  have hsorted : table.keys.Pairwise (compare · · = .lt) := ExtTreeMap.ordered_keys
  have hnodup : table.keys.Nodup := ExtTreeMap.nodup_keys
  refine List.Perm.eq_of_pairwise hasymm hsorted (pairwise_distinct ids) ?_
  rw [List.perm_ext_iff_of_nodup hnodup (nodup_distinct ids)]
  intro id
  rw [ExtTreeMap.mem_keys, mem_distinct, h id]

theorem keys_eq_keys {ρ : Type} {table table' : ExtTreeMap α ρ}
    (h : ∀ id, id ∈ table ↔ id ∈ table') : table.keys = table'.keys := by
  have hkeys : ∀ id, id ∈ table' ↔ id ∈ table'.keys := fun id => ExtTreeMap.mem_keys.symm
  rw [keys_eq_distinct fun id => (h id).trans (hkeys id), ← keys_eq_distinct hkeys]

end Distinct

/-! ### Relationships -/

namespace Tables

/-- A list that the viewer subscribes to and on which an account stands. -/
def MutesBy (t : Tables) (viewer did : Did) (list : AtUri) : Prop :=
  ⟨viewer, list⟩ ∈ t.subscriptions ∧ ⟨list, did⟩ ∈ t.listItems

/-- The rows of the graph about the viewer and another account, in the words of a relationship. -/
structure Says (t : Tables) (viewer did : Did) (r : Relationship) : Prop where
  blocking : ∀ uri, r.blocking = some uri ↔ IsLastEdge t.blocks viewer did uri
  blockedBy : r.blockedBy = true ↔ ∃ edge ∈ t.blocks, edge.Leads did viewer
  following : ∀ uri, r.following = some uri ↔ IsLastEdge t.follows viewer did uri
  followedBy : ∀ uri, r.followedBy = some uri ↔ IsLastEdge t.follows did viewer uri
  muted : r.muted = true ↔ ⟨viewer, did⟩ ∈ t.mutes
  mutedByList : ∀ list, r.mutedByList = some list ↔ t.MutesBy viewer did list ∧
    ∀ other, t.MutesBy viewer did other → (compare list other).isLE = true

theorem says_relationship (t : Tables) {viewer did : Did} (hne : did ≠ viewer) :
    t.Says viewer did (t.relationship viewer did) := by
  rw [relationship, if_neg hne]
  refine ⟨fun _ => edge?_eq_some_iff, isSome_edge?, fun _ => edge?_eq_some_iff,
    fun _ => edge?_eq_some_iff, List.contains_iff_mem, fun list => ?_⟩
  simp only [head?_distinct_eq_some_iff, mem_mutingLists, MutesBy]

end Tables

/-- **Relationships follow the graph.** Without an outage, each account that was asked for has one
relationship to the viewer. The viewer's own says nothing, and any other says just what the rows of
the graph say about the two. -/
theorem Fetch.relationships_follow_graph {index : Index} (hout : index.outage = none)
    (dids : List Did) (viewer : Did) :
    ∃ found, (relationships dids (some viewer)).Gives index found ∧
      found.keys = distinct dids ∧
      (viewer ∈ dids → found[viewer]? = some Relationship.none) ∧
      ∀ did ∈ dids, did ≠ viewer →
        ∃ r, found[did]? = some r ∧ index.tables.Says viewer did r := by
  obtain ⟨found, hfound⟩ := answers_relationships hout dids (some viewer)
  have hlookup := relationships_isLookup hfound
  have hget : ∀ did ∈ dids, found[did]? = some (index.tables.relationship viewer did) :=
    fun did hmem => hlookup.getElem?_of_mem hmem
  refine ⟨found, hfound, keys_eq_distinct fun did => ?_, fun hmem => ?_, fun did hmem hne => ?_⟩
  · rw [ExtTreeMap.mem_iff_isSome_getElem?, Option.isSome_iff_exists, hlookup.exists_iff]
    exact and_iff_left ⟨_, rfl⟩
  · rw [hget viewer hmem, Tables.relationship, if_pos rfl]
  · exact ⟨_, hget did hmem, index.tables.says_relationship hne⟩

namespace Sample

def secondBlock : AtUri :=
  ⟨viewer, "app.bsky.graph.block", "second", block.collection_grammatical, by decide, by decide⟩

def secondList : AtUri :=
  ⟨friend, Collection.list, "second", muteList.collection_grammatical, by decide, by decide⟩

/-- The viewer blocks the foe twice, and themselves, and mutes the foe by way of two lists. -/
def crowd : Index :=
  { index with
    tables := { tables with
      blocks := [⟨block, viewer, foe⟩, ⟨secondBlock, viewer, foe⟩, ⟨block, viewer, viewer⟩]
      subscriptions := [⟨viewer, secondList⟩, ⟨viewer, muteList⟩]
      listItems := [⟨muteList, foe⟩, ⟨secondList, foe⟩] } }

/-- The later block counts, and the list with the lesser uri. -/
theorem relationships_follow_crowd :
    crowd.outage = none ∧ foe ≠ viewer ∧
    ∃ found r, (Fetch.relationships [foe, viewer, foe] (some viewer)).Gives crowd found ∧
      found.keys = distinct [foe, viewer, foe] ∧ found[viewer]? = some Relationship.none ∧
      found[foe]? = some r ∧ r.blocking = some secondBlock ∧ r.blockedBy = false ∧
      r.mutedByList = some muteList := by
  have hout : crowd.outage = none := rfl
  have hne : foe ≠ viewer := by decide
  obtain ⟨found, hgives, hkeys, hviewer, hothers⟩ :=
    Fetch.relationships_follow_graph hout [foe, viewer, foe] viewer
  obtain ⟨r, hr, hgraph⟩ := hothers foe (by simp) hne
  refine ⟨hout, hne, found, r, hgives, hkeys, hviewer (by simp), hr, ?_, ?_, ?_⟩
  · refine (hgraph.blocking secondBlock).2
      ⟨[_], _, [_], rfl, ⟨rfl, rfl⟩, rfl, fun other hmem hleads => ?_⟩
    rw [List.mem_singleton.1 hmem] at hleads
    exact hne hleads.2.symm
  · rw [Bool.eq_false_iff, Ne, hgraph.blockedBy]
    simp [crowd, GraphEdge.Leads, hne.symm]
  · refine (hgraph.mutedByList muteList).2 ⟨⟨by simp [crowd], by simp [crowd]⟩, fun other hother => ?_⟩
    obtain ⟨hsubscribed, -⟩ := hother
    have hcases : other = secondList ∨ other = muteList := by simpa [crowd] using hsubscribed
    obtain rfl | rfl := hcases
    · decide +kernel
    · decide +kernel

end Sample

end FeedHydration
