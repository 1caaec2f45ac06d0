import FeedHydration.Proofs.Load

/-!
# Outages

A program without a fallback stops at the first read that fails. When reads of one kind fail, it
ends with the error of the outage if it would have made such a read, and else nothing has changed
for it.
-/

namespace FeedHydration

open Std (ExtTreeMap)

variable {α β : Type}

/-- The index when reads of one kind fail. -/
def Index.withOutage (index : Index) (kind : ReadKind) : Index :=
  { index with outage := some kind }

/-- What may fail plays no part in what the index says. -/
theorem Index.actor?_withOutage (index : Index) (kind : ReadKind) :
    (index.withOutage kind).actor? = index.actor? :=
  rfl

/-- The kinds of the reads that were made. -/
def Fetched.kinds (fetched : Fetched α) : List ReadKind :=
  fetched.reads.map (·.kind)

namespace Fetch

variable {index : Index} {kind : ReadKind} {kinds : List ReadKind}

/-! ### Reads -/

/-- A program with no other reads than these. -/
def MakesOnly (m : Fetch α) (index : Index) (p : Read → Prop) : Prop :=
  ∀ read ∈ (m.run index).reads, p read

section MakesOnly

variable {p : Read → Prop} {m m' : Fetch α} {next : α → Fetch β}

theorem makesOnly_pure (a : α) : (Pure.pure a : Fetch α).MakesOnly index p := by
  intro read hmem
  cases hmem

theorem makesOnly_read {ids : List String} (h : p ⟨kind, ids⟩) (answer : Tables → α) :
    (read kind ids answer).MakesOnly index p := by
  intro read hmem
  rwa [List.mem_singleton.1 hmem]

theorem MakesOnly.bind (hm : m.MakesOnly index p) (hnext : ∀ a, (next a).MakesOnly index p) :
    (m >>= next).MakesOnly index p := by
  intro read hmem
  cases hresult : (m.run index).result with
  | error e =>
    rw [run_bind_of_error hresult] at hmem
    exact hm read hmem
  | ok a =>
    rw [run_bind_of_ok hresult, List.mem_append] at hmem
    obtain hmem | hmem := hmem
    · exact hm read hmem
    · exact hnext a read hmem

theorem MakesOnly.ite {c : Prop} [Decidable c] (hm : m.MakesOnly index p)
    (hm' : m'.MakesOnly index p) : (if c then m else m').MakesOnly index p := by
  split
  · exact hm
  · exact hm'

/-- A fallback takes no reads. -/
theorem MakesOnly.orElse (hm : m.MakesOnly index p) (fallback : α) :
    (m.orElse fallback).MakesOnly index p :=
  hm

end MakesOnly

/-! ### Programs -/

/-- A program that makes only reads of some kinds, and that has no fallback. -/
structure IsStrict (m : Fetch α) (kinds : List ReadKind) : Prop where
  reads : ∀ index, ∀ kind ∈ (m.run index).kinds, kind ∈ kinds
  fails : ∀ index kind, index.outage = none → kind ∈ (m.run index).kinds →
    (m.run (index.withOutage kind)).result = .error outageError
  stands : ∀ index kind, index.outage = none → kind ∉ (m.run index).kinds →
    m.run (index.withOutage kind) = m.run index

theorem isStrict_pure (a : α) : (Pure.pure a : Fetch α).IsStrict kinds where
  reads := by simp [Fetched.kinds]
  fails := by simp [Fetched.kinds]
  stands := fun _ _ _ _ => rfl

theorem isStrict_clock : clock.IsStrict kinds where
  reads := by simp [Fetched.kinds, clock]
  fails := by simp [Fetched.kinds, clock]
  stands := fun _ _ _ _ => rfl

theorem isStrict_read (hkind : kind ∈ kinds) (ids : List String) (answer : Tables → α) :
    (read kind ids answer).IsStrict kinds where
  reads := by
    intro index kind' hmem
    have hkind' : kind' = kind := by simpa [Fetched.kinds, read] using hmem
    rwa [hkind']
  fails := by
    intro index kind' _ hmem
    have hkind' : kind' = kind := by simpa [Fetched.kinds, read] using hmem
    simp [read, Index.withOutage, hkind']
  stands := by
    intro index kind' hout hmem
    have hkind' : kind' ≠ kind := by simpa [Fetched.kinds, read] using hmem
    simp [read, Index.withOutage, hkind', hout]

theorem kinds_bind_of_ok {m : Fetch α} {next : α → Fetch β} {a : α}
    (h : (m.run index).result = .ok a) :
    ((m >>= next).run index).kinds = (m.run index).kinds ++ ((next a).run index).kinds := by
  rw [run_bind_of_ok h]
  exact List.map_append

theorem kinds_bind_of_error {m : Fetch α} {next : α → Fetch β} {e : DataError}
    (h : (m.run index).result = .error e) :
    ((m >>= next).run index).kinds = (m.run index).kinds := by
  rw [run_bind_of_error h]
  rfl

/-- What fails in the first part is not made up for in the second. -/
theorem IsStrict.bind {m : Fetch α} {next : α → Fetch β} (hm : m.IsStrict kinds)
    (hnext : ∀ a, (next a).IsStrict kinds) : (m >>= next).IsStrict kinds where
  reads := by
    intro index kind hmem
    cases hresult : (m.run index).result with
    | error e =>
      rw [kinds_bind_of_error hresult] at hmem
      exact hm.reads index kind hmem
    | ok a =>
      rw [kinds_bind_of_ok hresult, List.mem_append] at hmem
      obtain hmem | hmem := hmem
      · exact hm.reads index kind hmem
      · exact (hnext a).reads index kind hmem
  fails := by
    intro index kind hout hmem
    by_cases hfirst : kind ∈ (m.run index).kinds
    · rw [run_bind_of_error (hm.fails index kind hout hfirst)]
    · have hrun := hm.stands index kind hout hfirst
      cases hresult : (m.run index).result with
      | error e =>
        rw [kinds_bind_of_error hresult] at hmem
        exact absurd hmem hfirst
      | ok a =>
        rw [kinds_bind_of_ok hresult, List.mem_append] at hmem
        rw [← hrun] at hresult
        rw [run_bind_of_ok hresult]
        exact (hnext a).fails index kind hout (hmem.resolve_left hfirst)
  stands := by
    intro index kind hout hmem
    cases hresult : (m.run index).result with
    | error e =>
      rw [kinds_bind_of_error hresult] at hmem
      rw [run_bind, run_bind, hm.stands index kind hout hmem, hresult]
    | ok a =>
      rw [kinds_bind_of_ok hresult, List.mem_append, not_or] at hmem
      rw [run_bind, run_bind, hm.stands index kind hout hmem.1, hresult]
      simp only [(hnext a).stands index kind hout hmem.2]

theorem IsStrict.ite {p : Prop} [Decidable p] {m m' : Fetch α} (hm : m.IsStrict kinds)
    (hm' : m'.IsStrict kinds) : (if p then m else m').IsStrict kinds := by
  split
  · exact hm
  · exact hm'

/-- A program that makes no read of a kind gives what it gives, whether such reads fail or not. -/
theorem IsStrict.answers {m : Fetch α} (hm : m.IsStrict kinds) (hout : index.outage = none)
    (hkind : kind ∉ kinds) (hanswers : m.Answers index) :
    m.Answers (index.withOutage kind) := by
  obtain ⟨a, ha⟩ := hanswers
  have hmem : kind ∉ (m.run index).kinds := fun hmem => hkind (hm.reads index kind hmem)
  refine ⟨a, ?_⟩
  rw [Gives, hm.stands index kind hout hmem]
  exact ha

/-- With a fallback, an outage puts the fallback in place or changes nothing. -/
theorem IsStrict.eq_or_eq_of_orElse {m : Fetch α} {fallback a a' : α} (hm : m.IsStrict kinds)
    (hout : index.outage = none) (ha : (m.orElse fallback).Gives index a)
    (ha' : (m.orElse fallback).Gives (index.withOutage kind) a') :
    a' = a ∨ a' = fallback ∧ kind ∈ kinds := by
  unfold Gives Fetch.orElse at ha ha'
  simp only [Except.ok.injEq] at ha ha'
  by_cases hmem : kind ∈ (m.run index).kinds
  · rw [hm.fails index kind hout hmem] at ha'
    exact Or.inr ⟨ha'.symm, hm.reads index kind hmem⟩
  · have hrun := hm.stands index kind hout hmem
    rw [hrun] at ha'
    exact Or.inl (ha'.symm.trans ha)

/-! ### Loads -/

theorem isStrict_visibleAccounts (hactors : .actors ∈ kinds) (dids : List Did) :
    (visibleAccounts dids).IsStrict kinds :=
  IsStrict.ite (isStrict_pure _) ((isStrict_read hactors _ _).bind fun _ => isStrict_pure _)

theorem isStrict_visibleRows {ρ : Type} (hactors : .actors ∈ kinds) (rows : List (AtUri × ρ))
    (takenDown : ρ → Bool) : (visibleRows rows takenDown).IsStrict kinds :=
  (isStrict_visibleAccounts hactors _).bind fun _ => isStrict_pure _

section Loads

variable (viewer : Option Did)

theorem isStrict_loadPosts (hposts : .posts ∈ kinds) (hactors : .actors ∈ kinds)
    (uris : List AtUri) : (loadPosts uris viewer).IsStrict kinds :=
  IsStrict.ite (isStrict_pure _) ((isStrict_read hposts _ _).bind fun _ =>
    (isStrict_visibleRows hactors _ _).bind fun _ => isStrict_pure _)

theorem isStrict_loadGenerators (hgenerators : .generators ∈ kinds) (hactors : .actors ∈ kinds)
    (uris : List AtUri) : (loadGenerators uris viewer).IsStrict kinds :=
  IsStrict.ite (isStrict_pure _) ((isStrict_read hgenerators _ _).bind fun _ =>
    (isStrict_visibleRows hactors _ _).bind fun _ => isStrict_pure _)

theorem isStrict_loadLists (hlists : .lists ∈ kinds) (hactors : .actors ∈ kinds)
    (uris : List AtUri) : (loadLists uris viewer).IsStrict kinds :=
  IsStrict.ite (isStrict_pure _) ((isStrict_read hlists _ _).bind fun _ =>
    (isStrict_visibleRows hactors _ _).bind fun _ => isStrict_pure _)

end Loads

theorem isStrict_loadReposts (hreposts : .reposts ∈ kinds) (uris : List AtUri) :
    (loadReposts uris).IsStrict kinds :=
  IsStrict.ite (isStrict_pure _) ((isStrict_read hreposts _ _).bind fun _ => isStrict_pure _)

theorem isStrict_labelSet (hlabels : .labels ∈ kinds) (subjects : List String) :
    (labelSet subjects).IsStrict kinds :=
  IsStrict.ite (isStrict_pure _) ((isStrict_read hlabels _ _).bind fun _ =>
    isStrict_clock.bind fun _ => isStrict_pure _)

/-- The kinds of reads that the relationships of accounts take. -/
def graphKinds : List ReadKind :=
  [.blocks, .follows, .mutes, .listMutes]

theorem isStrict_graphRows (hgraph : graphKinds ⊆ kinds) (viewer : Did) (subjects : List Did) :
    (graphRows viewer subjects).IsStrict kinds := by
  refine (isStrict_read (hgraph (by decide)) _ _).bind fun _ => ?_
  refine (isStrict_read (hgraph (by decide)) _ _).bind fun _ => ?_
  refine (isStrict_read (hgraph (by decide)) _ _).bind fun _ => ?_
  exact (isStrict_read (hgraph (by decide)) _ _).bind fun _ => isStrict_pure _

theorem isStrict_relationships (hgraph : graphKinds ⊆ kinds) (dids : List Did)
    (viewer : Option Did) : (relationships dids viewer).IsStrict kinds := by
  cases viewer with
  | none => exact isStrict_pure _
  | some viewer =>
    exact IsStrict.ite (isStrict_pure _)
      ((isStrict_graphRows hgraph viewer _).bind fun _ => isStrict_pure _)

/-- The kinds of reads that accounts take, their labels apart. -/
def accountKinds : List ReadKind :=
  graphKinds ++ [.actors, .lists]

theorem isStrict_loadActors (haccounts : accountKinds ⊆ kinds) (nameBytes : Nat)
    (dids : List Did) (viewer : Option Did) :
    (loadActors nameBytes dids viewer .withoutLabels).IsStrict kinds := by
  have hgraph : graphKinds ⊆ kinds := fun _ hmem => haccounts (List.mem_append_left _ hmem)
  have hactors : .actors ∈ kinds := haccounts (by decide)
  have hlists : .lists ∈ kinds := haccounts (by decide)
  refine IsStrict.ite (isStrict_pure _) ?_
  refine (isStrict_read hactors _ _).bind fun _ => ?_
  refine (isStrict_relationships hgraph _ _).bind fun _ => ?_
  refine (isStrict_pure none).bind fun _ => ?_
  exact (isStrict_loadLists viewer hlists hactors _).bind fun _ => isStrict_pure _

end Fetch

end FeedHydration
