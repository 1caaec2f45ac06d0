import FeedHydration.Proofs.Relationship

/-!
# Loads

A load of many ids that gives anything gives each id exactly what the index says of it alone: a
batch neither adds to an entity nor takes from it. This holds during an outage too, since a load
that meets a failing read gives nothing at all.
-/

namespace FeedHydration

open Std (ExtTreeMap ExtTreeSet)

/-- Nothing is asked for, and nothing is found. -/
theorem IsLookup.of_isEmpty {κ ρ : Type} [Ord κ] [Std.TransOrd κ] [Std.LawfulEqOrd κ]
    {ids : List κ} (hids : (distinct ids).isEmpty = true) (value : κ → Option ρ) :
    IsLookup ∅ ids value := by
  rw [List.isEmpty_iff, distinct_eq_nil] at hids
  subst hids
  exact IsLookup.empty value

/-! ### Labels -/

namespace Index

/-- The labels of a subject that has any. -/
def labels? (index : Index) (subject : String) : Option (List Label) :=
  (some (index.labelsOf subject)).filter (!·.isEmpty)

theorem getD_labels? (index : Index) (subject : String) :
    (index.labels? subject).getD [] = index.labelsOf subject := by
  unfold labels?
  cases hlabels : index.labelsOf subject <;> simp [Option.filter]

end Index

namespace LabelSet

/-- A label set that knows some subjects, and of each of them what the index says. -/
structure IsOf (set : LabelSet) (index : Index) (subjects : List String) : Prop where
  labels : IsLookup set.labels subjects index.labels?
  covers : ∀ subject, set.covers subject = true ↔ subject ∈ subjects

namespace IsOf

variable {set other : LabelSet} {index : Index} {subjects others : List String}

theorem get_of_mem (h : set.IsOf index subjects) {subject : String} (hmem : subject ∈ subjects) :
    set.get subject = index.labelsOf subject := by
  rw [LabelSet.get, h.labels.getElem?_of_mem hmem, Index.getD_labels?]

theorem get_of_notMem (h : set.IsOf index subjects) {subject : String}
    (hmem : subject ∉ subjects) : set.get subject = [] := by
  have hnone : set.labels[subject]? = none :=
    Option.eq_none_iff_forall_ne_some.2 fun _ hlabels => hmem (h.labels.mem hlabels)
  rw [LabelSet.get, hnone, Option.getD_none]

theorem empty (index : Index) : LabelSet.empty.IsOf index [] where
  labels := IsLookup.empty _
  covers := by simp [LabelSet.covers, LabelSet.empty]

theorem merged (h : set.IsOf index subjects) (h' : other.IsOf index others) :
    (set.merged other).IsOf index (subjects ++ others) where
  labels := (h'.labels.union h.labels).congr fun subject => by
    simp only [List.mem_append, or_comm]
  covers := by
    intro subject
    rw [List.mem_append, ← h.covers, ← h'.covers]
    simp [LabelSet.covers, LabelSet.merged, ExtTreeSet.contains_union]

theorem congr (h : set.IsOf index subjects)
    (hsubjects : ∀ subject, subject ∈ subjects ↔ subject ∈ others) : set.IsOf index others where
  labels := h.labels.congr hsubjects
  covers := fun subject => (h.covers subject).trans (hsubjects subject)

end IsOf

end LabelSet

namespace Fetch

variable {index : Index}

theorem labelSet_isOf {subjects : List String} {set : LabelSet}
    (h : (labelSet subjects).Gives index set) : set.IsOf index subjects := by
  unfold labelSet at h
  split at h
  · rename_i hempty
    rw [gives_pure] at h
    rw [List.isEmpty_iff] at hempty
    subst h hempty
    exact LabelSet.IsOf.empty index
  · simp only [Fetch.labels, gives_bind, gives_read, gives_clock, gives_pure] at h
    obtain ⟨_, ⟨-, rfl⟩, _, rfl, rfl⟩ := h
    have hraw : IsLookup (index.tables.selectLabels (distinct subjects)) subjects
        (index.tables.labels[·]?) := by
      apply IsLookup.of_rows
      intro subject row
      rw [Tables.mem_select, mem_distinct]
    refine ⟨fun subject row => ?_, fun subject => ?_⟩
    · have hfetched :
          (ExtTreeSet.ofList subjects).contains subject = true ↔ subject ∈ subjects := by
        classical simp
      simp only [LabelSet.ofRaw, ExtTreeMap.getElem?_filterMap', hfetched]
      by_cases hmem : subject ∈ subjects
      · rw [hraw.getElem?_of_mem hmem, Index.labels?, Index.labelsOf]
        cases index.tables.labels[subject]? with
        | none => simp [Label.settle, hmem]
        | some row => simp [hmem]
      · simp [hmem]
    · classical simp [LabelSet.covers, LabelSet.ofRaw]

theorem answers_labelSet (hout : index.outage = none) (subjects : List String) :
    (labelSet subjects).Answers index := by
  unfold labelSet
  split
  · exact answers_pure _
  · exact (answers_read hout _ _ _).bind fun _ _ => answers_clock.bind fun _ _ => answers_pure _

/-! ### Records -/

theorem mem_visibleAccounts {dids : List Did} {accounts : ExtTreeSet Did}
    (h : (visibleAccounts dids).Gives index accounts) {did : Did} :
    accounts.contains did = true ↔ did ∈ dids ∧ index.tables.isLive did = true := by
  classical
  simp only [visibleAccounts] at h
  split at h
  · rename_i hempty
    rw [gives_pure] at h
    rw [List.isEmpty_iff, distinct_eq_nil] at hempty
    subst h hempty
    simp
  · simp only [actors, gives_bind, gives_read, gives_pure] at h
    obtain ⟨rows, ⟨-, rfl⟩, rfl⟩ := h
    simp only [ExtTreeSet.contains_ofList, List.contains_iff_mem, List.mem_map, List.mem_filter,
      Tables.isLive, Option.any_eq_true]
    constructor
    · rintro ⟨⟨did, row⟩, ⟨hmem, hrow⟩, rfl⟩
      obtain ⟨hdid, hfound⟩ := Tables.mem_select.1 hmem
      exact ⟨mem_distinct.1 hdid, row, hfound, hrow⟩
    · rintro ⟨hdid, row, hfound, hrow⟩
      exact ⟨(did, row), ⟨Tables.mem_select.2 ⟨mem_distinct.2 hdid, hfound⟩, hrow⟩, rfl⟩

theorem answers_visibleAccounts (hout : index.outage = none) (dids : List Did) :
    (visibleAccounts dids).Answers index := by
  simp only [visibleAccounts]
  split
  · exact answers_pure _
  · exact (answers_read hout _ _ _).bind fun _ _ => answers_pure _

theorem gives_visibleRows {ρ : Type} {rows shown : List (AtUri × ρ)} {takenDown : ρ → Bool}
    (h : (visibleRows rows takenDown).Gives index shown) :
    shown = rows.filter fun entry =>
      !takenDown entry.2 && index.tables.isLive entry.1.authority := by
  simp only [visibleRows, gives_bind, gives_pure] at h
  obtain ⟨owners, howners, rfl⟩ := h
  rw [List.filter_filter]
  apply List.filter_congr
  intro entry hmem
  cases hdown : takenDown entry.2 with
  | true => simp
  | false =>
    have howner : entry.1.authority ∈
        (rows.filter (!takenDown ·.2)).map (·.1.authority) :=
      List.mem_map_of_mem (f := fun entry : AtUri × ρ => entry.1.authority)
        (List.mem_filter.2 ⟨hmem, by simp [hdown]⟩)
    rw [Bool.eq_iff_iff, Bool.and_eq_true, mem_visibleAccounts howners]
    simp only [howner, true_and, and_true, Bool.not_false, Bool.true_and]

theorem answers_visibleRows (hout : index.outage = none) {ρ : Type} (rows : List (AtUri × ρ))
    (takenDown : ρ → Bool) : (visibleRows rows takenDown).Answers index :=
  (answers_visibleAccounts hout _).bind fun _ _ => answers_pure _

section Records

variable {ρ ε : Type} {table : ExtTreeMap AtUri ρ} {uris : List AtUri} {fill : AtUri → ρ → ρ}
  {takenDown : ρ → Bool} {entity : AtUri → ρ → ε}

theorem isLookup_of_visibleRows {shown : List (AtUri × ρ)}
    (hfill : ∀ uri row, takenDown (fill uri row) = takenDown row)
    (h : (visibleRows ((Tables.select table (distinct uris)).map fun entry =>
      (entry.1, fill entry.1 entry.2)) takenDown).Gives index shown) :
    IsLookup (ExtTreeMap.ofList (shown.map fun entry => (entry.1, entity entry.1 entry.2))) uris
      fun uri => (index.tables.visible? table takenDown uri).map fun row =>
        entity uri (fill uri row) := by
  apply IsLookup.of_rows
  intro uri e
  rw [gives_visibleRows h]
  simp only [List.mem_map, List.mem_filter, Option.map_eq_some_iff, Tables.visible?_eq_some_iff,
    Prod.mk.injEq, Bool.and_eq_true, Bool.not_eq_true']
  constructor
  · rintro ⟨_, ⟨⟨⟨uri, row⟩, hmem, rfl⟩, hdown, hlive⟩, rfl, rfl⟩
    obtain ⟨huri, hrow⟩ := Tables.mem_select.1 hmem
    exact ⟨mem_distinct.1 huri, row, ⟨hrow, (hfill uri row).symm.trans hdown, hlive⟩, rfl⟩
  · rintro ⟨huri, row, ⟨hrow, hdown, hlive⟩, rfl⟩
    refine ⟨(uri, fill uri row), ⟨⟨(uri, row), ?_, rfl⟩, (hfill uri row).trans hdown, hlive⟩,
      rfl, rfl⟩
    exact Tables.mem_select.2 ⟨mem_distinct.2 huri, hrow⟩

/-- **One load for all records.** Posts, generators and lists are loaded alike: a row is filled in
for the viewer, judged, and made an entity. -/
theorem isLookup_of_load {kind : ReadKind} {ids : List String}
    {answer : Tables → List (AtUri × ρ)} {found : ExtTreeMap AtUri ε}
    (hanswer : answer index.tables =
      (Tables.select table (distinct uris)).map fun entry => (entry.1, fill entry.1 entry.2))
    (hfill : ∀ uri row, takenDown (fill uri row) = takenDown row)
    (h : Gives (if (distinct uris).isEmpty then Pure.pure ∅ else do
        let shown ← visibleRows (← read kind ids answer) takenDown
        return ExtTreeMap.ofList (shown.map fun entry => (entry.1, entity entry.1 entry.2)))
      index found) :
    IsLookup found uris fun uri => (index.tables.visible? table takenDown uri).map fun row =>
      entity uri (fill uri row) := by
  split at h
  · rename_i hempty
    rw [gives_pure] at h
    subst h
    exact IsLookup.of_isEmpty hempty _
  · simp only [gives_bind, gives_read, gives_pure] at h
    obtain ⟨_, ⟨-, rfl⟩, shown, hshown, rfl⟩ := h
    rw [hanswer] at hshown
    exact isLookup_of_visibleRows hfill hshown

theorem answers_load (hout : index.outage = none) {kind : ReadKind} {ids : List String}
    {answer : Tables → List (AtUri × ρ)} :
    Answers (if (distinct uris).isEmpty then Pure.pure ∅ else do
        let shown ← visibleRows (← read kind ids answer) takenDown
        return ExtTreeMap.ofList (shown.map fun entry => (entry.1, entity entry.1 entry.2)))
      index := by
  split
  · exact answers_pure _
  · refine (answers_read hout _ _ _).bind fun _ _ => ?_
    exact (answers_visibleRows hout _ _).bind fun _ _ => answers_pure _

end Records

section Loads

variable {uris : List AtUri} {viewer : Option Did}

theorem loadPosts_isLookup {found : ExtTreeMap AtUri Post}
    (h : (loadPosts uris viewer).Gives index found) :
    IsLookup found uris (index.tables.post? viewer) :=
  isLookup_of_load rfl (fun _ _ => rfl) h

theorem loadGenerators_isLookup {found : ExtTreeMap AtUri Generator}
    (h : (loadGenerators uris viewer).Gives index found) :
    IsLookup found uris (index.tables.generator? viewer) :=
  isLookup_of_load rfl (fun _ _ => rfl) h

theorem loadLists_isLookup {found : ExtTreeMap AtUri AccountList}
    (h : (loadLists uris viewer).Gives index found) :
    IsLookup found uris (index.tables.list? viewer) :=
  isLookup_of_load rfl (fun _ _ => rfl) h

theorem answers_loadPosts (hout : index.outage = none) : (loadPosts uris viewer).Answers index :=
  answers_load hout

theorem answers_loadGenerators (hout : index.outage = none) :
    (loadGenerators uris viewer).Answers index :=
  answers_load hout

theorem answers_loadLists (hout : index.outage = none) : (loadLists uris viewer).Answers index :=
  answers_load hout

theorem loadReposts_isLookup {found : ExtTreeMap AtUri Repost}
    (h : (loadReposts uris).Gives index found) :
    IsLookup found uris index.tables.repost? := by
  simp only [loadReposts] at h
  split at h
  · rename_i hempty
    rw [gives_pure] at h
    subst h
    exact IsLookup.of_isEmpty hempty _
  · simp only [reposts, gives_bind, gives_read, gives_pure] at h
    obtain ⟨_, ⟨-, rfl⟩, rfl⟩ := h
    apply IsLookup.of_rows
    intro uri repost
    simp only [List.mem_map, Prod.mk.injEq, Tables.repost?, Option.map_eq_some_iff]
    constructor
    · rintro ⟨⟨uri, row⟩, hmem, rfl, rfl⟩
      obtain ⟨huri, hrow⟩ := Tables.mem_select.1 hmem
      exact ⟨mem_distinct.1 huri, row, hrow, rfl⟩
    · rintro ⟨huri, row, hrow, rfl⟩
      exact ⟨(uri, row), Tables.mem_select.2 ⟨mem_distinct.2 huri, hrow⟩, rfl, rfl⟩

theorem answers_loadReposts (hout : index.outage = none) : (loadReposts uris).Answers index := by
  simp only [loadReposts]
  split
  · exact answers_pure _
  · exact (answers_read hout _ _ _).bind fun _ _ => answers_pure _

end Loads

/-! ### Accounts -/

section Accounts

variable {nameBytes : Nat} {dids : List Did} {viewer : Option Did} {mode : LabelMode}

theorem actorOf_eq {relationships : ExtTreeMap Did Relationship}
    {mutingLists : ExtTreeMap AtUri AccountList} {labels : Option LabelSet} {did : Did}
    {row : ActorRow} (hdid : did ∈ dids)
    (hrelationships : IsLookup relationships dids (index.tables.relationship? viewer))
    (hlists : IsLookup mutingLists (relationships.values.filterMap (·.mutedByList))
      (index.tables.list? viewer))
    (hlabels : labels.map (·.get did.text) = index.actorLabels mode did) :
    actorOf nameBytes relationships mutingLists labels did row =
      { actorOf nameBytes ∅ ∅ none did row with
        relationship := index.tables.relationship? viewer did
        mutedByList := index.tables.mutingList? viewer did
        labels := index.actorLabels mode did } := by
  have hrelationship := hrelationships.getElem?_of_mem hdid
  unfold actorOf Tables.mutingList?
  rw [hlabels, hrelationship]
  congr 1
  cases hr : index.tables.relationship? viewer did with
  | none => rfl
  | some r =>
    cases hlist : r.mutedByList with
    | none => simp [hlist]
    | some list =>
      rw [hr] at hrelationship
      have hmem : list ∈ relationships.values.filterMap (·.mutedByList) :=
        List.mem_filterMap.2 ⟨r, mem_values.2 ⟨did, hrelationship⟩, hlist⟩
      simp [hlist, hlists.getElem?_of_mem hmem]

theorem gives_actorLabels {labels : Option LabelSet}
    (h : (actorLabels mode dids).Gives index labels) {did : Did} (hdid : did ∈ dids) :
    labels.map (·.get did.text) = index.actorLabels mode did := by
  cases mode with
  | withLabels =>
    obtain ⟨set, hset, rfl⟩ := gives_map.1 h
    have hmem : did.text ∈ dids.map (·.text) := List.mem_map_of_mem hdid
    exact congrArg some ((labelSet_isOf hset).get_of_mem hmem)
  | withoutLabels =>
    have h : (Pure.pure none : Fetch (Option LabelSet)).Gives index labels := h
    rw [gives_pure] at h
    subst h
    rfl

theorem loadActors_isLookup {found : ExtTreeMap Did Actor}
    (h : (loadActors nameBytes dids viewer mode).Gives index found) :
    IsLookup found dids (index.actor? nameBytes viewer mode) := by
  simp only [loadActors] at h
  split at h
  · rename_i hempty
    rw [gives_pure] at h
    subst h
    exact IsLookup.of_isEmpty hempty _
  · simp only [actors, gives_bind, gives_read, gives_pure] at h
    obtain ⟨_, ⟨-, rfl⟩, relationships, hrelationships, labels, hlabels, mutingLists, hlists,
      rfl⟩ := h
    have hactor : ∀ did ∈ dids, ∀ row, actorOf nameBytes relationships mutingLists labels did row =
        { actorOf nameBytes ∅ ∅ none did row with
          relationship := index.tables.relationship? viewer did
          mutedByList := index.tables.mutingList? viewer did
          labels := index.actorLabels mode did } := fun did hdid row =>
      actorOf_eq (mem_distinct.2 hdid) (relationships_isLookup hrelationships)
        (loadLists_isLookup hlists) (gives_actorLabels hlabels (mem_distinct.2 hdid))
    apply IsLookup.of_rows
    intro did actor
    simp only [List.mem_map, List.mem_filter, Prod.mk.injEq, Index.actor?, Option.map_eq_some_iff,
      Option.filter_eq_some_iff]
    constructor
    · rintro ⟨⟨did, row⟩, ⟨hmem, hrow⟩, rfl, rfl⟩
      obtain ⟨hdid, hfound⟩ := Tables.mem_select.1 hmem
      have hdid := mem_distinct.1 hdid
      exact ⟨hdid, row, ⟨hfound, hrow⟩, (hactor did hdid row).symm⟩
    · rintro ⟨hdid, row, ⟨hfound, hrow⟩, rfl⟩
      exact ⟨(did, row), ⟨Tables.mem_select.2 ⟨mem_distinct.2 hdid, hfound⟩, hrow⟩, rfl,
        hactor did hdid row⟩

theorem answers_loadActors (hout : index.outage = none) :
    (loadActors nameBytes dids viewer mode).Answers index := by
  simp only [loadActors]
  split
  · exact answers_pure _
  · refine (answers_read hout _ _ _).bind fun _ _ => ?_
    refine (answers_relationships hout _ _).bind fun _ _ => ?_
    have hlabels : (actorLabels mode (distinct dids)).Answers index := by
      cases mode with
      | withLabels => exact (answers_labelSet hout _).map _
      | withoutLabels => exact answers_pure _
    refine hlabels.bind fun _ _ => ?_
    exact (answers_loadLists hout).bind fun _ _ => answers_pure _

end Accounts

end Fetch

end FeedHydration
