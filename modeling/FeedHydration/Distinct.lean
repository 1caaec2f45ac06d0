import Std.Data.ExtTreeSet

/-!
The distinct elements of a list, in their order. Batches of ids are read in this form, so that what
is read depends only on which ids are asked for.
-/

namespace FeedHydration

open Std (ExtTreeSet)

variable {α : Type} [Ord α] [Std.TransOrd α]

def distinct (ids : List α) : List α :=
  (ExtTreeSet.ofList ids).toList

theorem pairwise_distinct (ids : List α) :
    (distinct ids).Pairwise (fun a b => compare a b = .lt) :=
  ExtTreeSet.ordered_toList

@[simp]
theorem distinct_nil : distinct ([] : List α) = [] := rfl

variable [Std.LawfulEqOrd α]

@[simp]
theorem mem_distinct {ids : List α} {id : α} : id ∈ distinct ids ↔ id ∈ ids := by
  classical
  simp [distinct, ExtTreeSet.mem_toList, ExtTreeSet.mem_ofList]

theorem nodup_distinct (ids : List α) : (distinct ids).Nodup :=
  (pairwise_distinct ids).imp fun {a b} hlt heq => by
    subst heq
    simp [Std.ReflOrd.compare_self] at hlt

/-- Only the set of ids matters. -/
theorem distinct_congr {ids ids' : List α} (h : ∀ id, id ∈ ids ↔ id ∈ ids') :
    distinct ids = distinct ids' := by
  classical
  have : ExtTreeSet.ofList ids = ExtTreeSet.ofList ids' := by
    apply ExtTreeSet.ext_mem
    simpa using h
  rw [distinct, this, distinct]

theorem distinct_eq_nil {ids : List α} : distinct ids = [] ↔ ids = [] := by
  constructor
  · intro h
    cases ids with
    | nil => rfl
    | cons id ids =>
      have : id ∈ distinct (id :: ids) := mem_distinct.2 (by simp)
      simp [h] at this
  · rintro rfl
    rfl

/-- Elements of a list with their places are at distinct places, in whatever order they are put. -/
theorem pairwise_places_ne {β : Type} {items : List β} {entries : List (β × Nat)}
    (h : entries.Sublist items.zipIdx) (le : β × Nat → β × Nat → Bool) :
    (entries.mergeSort le).Pairwise fun a b => a.2 ≠ b.2 := by
  have hnodup : (items.zipIdx.map Prod.snd).Nodup := by
    rw [List.zipIdx_map_snd]
    exact List.nodup_range'
  have hplaces : (entries.map Prod.snd).Nodup := (h.map Prod.snd).nodup hnodup
  exact List.pairwise_map.1 (((List.mergeSort_perm _ le).map Prod.snd).nodup_iff.2 hplaces)

end FeedHydration
