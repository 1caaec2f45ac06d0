import FeedHydration.Distinct
import FeedHydration.Index.Tables

/-!
# Lookups

Every load of a request ends in a table built from rows. What such a table says is settled by the
ids that were asked for and by a value for each id, never by the order or the number of the rows.
`IsLookup` states this once, and each load is described by it.
-/

namespace FeedHydration

open Std (ExtTreeMap)

section Tables

variable {κ ρ : Type} [Ord κ] [Std.TransOrd κ]

theorem values_eq_map_toList (table : ExtTreeMap κ ρ) : table.values = table.toList.map (·.2) := by
  obtain ⟨⟨table⟩⟩ := table
  induction table using Quotient.ind with
  | _ table =>
    change table.inner.values = (Std.DTreeMap.Internal.Impl.Const.toList table.inner).map (·.2)
    rw [Std.DTreeMap.Internal.Impl.values_eq_map_snd,
      Std.DTreeMap.Internal.Impl.Const.toList_eq_toListModel_map, List.map_map]
    rfl

variable [Std.LawfulEqOrd κ]

theorem mem_values {table : ExtTreeMap κ ρ} {row : ρ} :
    row ∈ table.values ↔ ∃ id : κ, table[id]? = some row := by
  rw [values_eq_map_toList, List.mem_map]
  constructor
  · rintro ⟨⟨id, row⟩, hmem, rfl⟩
    exact ⟨id, ExtTreeMap.mem_toList_iff_getElem?_eq_some.1 hmem⟩
  · rintro ⟨id, hrow⟩
    exact ⟨(id, row), ExtTreeMap.mem_toList_iff_getElem?_eq_some.2 hrow, rfl⟩

theorem mem_keys_iff_exists {table : ExtTreeMap κ ρ} {id : κ} :
    id ∈ table.keys ↔ ∃ row, table[id]? = some row := by
  rw [ExtTreeMap.mem_keys, ExtTreeMap.mem_iff_isSome_getElem?, Option.isSome_iff_exists]

/-- Of several rows under one id the last counts. -/
theorem getElem?_ofList (rows : List (κ × ρ)) (id : κ) :
    (ExtTreeMap.ofList rows)[id]? = rows.reverse.findSome? fun entry =>
      if compare entry.1 id = .eq then some entry.2 else none := by
  classical
  rw [ExtTreeMap.ofList_eq_insertMany_empty, ExtTreeMap.getElem?_insertMany_list,
    ExtTreeMap.getElem?_empty, Option.or_none, List.findSomeRev?_eq_findSome?_reverse]

theorem mem_of_getElem?_ofList {rows : List (κ × ρ)} {id : κ} {row : ρ}
    (h : (ExtTreeMap.ofList rows)[id]? = some row) : (id, row) ∈ rows := by
  rw [getElem?_ofList] at h
  obtain ⟨⟨id', row'⟩, hmem, hrow⟩ := List.exists_of_findSome?_eq_some h
  dsimp only at hrow
  split at hrow
  · rename_i heq
    have hid : id' = id := Std.LawfulEqOrd.eq_of_compare heq
    rw [Option.some.injEq] at hrow
    rw [← hid, ← hrow]
    exact List.mem_reverse.1 hmem
  · cases hrow

theorem getElem?_ofList_append_cons {before after : List (κ × ρ)} {id : κ} {row : ρ}
    (hafter : ∀ row', (id, row') ∉ after) :
    (ExtTreeMap.ofList (before ++ (id, row) :: after))[id]? = some row := by
  have hnone : after.reverse.findSome? (fun entry =>
      if compare entry.1 id = .eq then some entry.2 else none) = none := by
    rw [List.findSome?_eq_none_iff]
    intro entry hmem
    rw [if_neg]
    intro heq
    apply hafter entry.2
    rw [← Std.LawfulEqOrd.eq_of_compare heq]
    exact List.mem_reverse.1 hmem
  rw [getElem?_ofList, List.reverse_append, List.reverse_cons, List.append_assoc,
    List.findSome?_append, hnone, Option.none_or]
  simp

/-- Rows that give each id one value may be repeated. -/
theorem getElem?_ofList_eq_some_iff {rows : List (κ × ρ)} {value : κ → Option ρ}
    (hvalue : ∀ entry ∈ rows, value entry.1 = some entry.2) {id : κ} {row : ρ} :
    (ExtTreeMap.ofList rows)[id]? = some row ↔ (id, row) ∈ rows := by
  classical
  constructor
  · exact mem_of_getElem?_ofList
  · intro hmem
    have hkey : id ∈ ExtTreeMap.ofList rows :=
      ExtTreeMap.mem_ofList.2 (List.contains_iff_mem.2 (List.mem_map_of_mem (f := Prod.fst) hmem))
    rw [ExtTreeMap.mem_iff_isSome_getElem?, Option.isSome_iff_exists] at hkey
    obtain ⟨row', hrow'⟩ := hkey
    have hsame := hvalue _ (mem_of_getElem?_ofList hrow')
    rw [hvalue _ hmem] at hsame
    rw [hrow', hsame]

/-- The values of the ids of a table. -/
def tabulate {ε : Type} (table : ExtTreeMap κ ρ) (value : κ → Option ε) : ExtTreeMap κ ε :=
  table.filterMap fun id _ => value id

theorem getElem?_tabulate {ε : Type} {table : ExtTreeMap κ ρ} {value : κ → Option ε}
    (hvalue : ∀ id, table[id]? = none → value id = none) (id : κ) :
    (tabulate table value)[id]? = value id := by
  rw [tabulate, ExtTreeMap.getElem?_filterMap']
  cases hrow : table[id]? with
  | none => exact (hvalue id hrow).symm
  | some row => rfl

end Tables

/-- A table in which nothing but values stand. -/
def IsPart {κ ρ : Type} [Ord κ] [Std.TransOrd κ] (table : ExtTreeMap κ ρ)
    (value : κ → Option ρ) : Prop :=
  ∀ id row, table[id]? = some row → value id = some row

namespace IsPart

variable {κ ρ : Type} [Ord κ] [Std.TransOrd κ]

variable {table table' : ExtTreeMap κ ρ} {value : κ → Option ρ}

theorem empty (value : κ → Option ρ) : IsPart ∅ value := by
  intro id row hrow
  simp at hrow

theorem union (h : IsPart table value) (h' : IsPart table' value) :
    IsPart (table ∪ table') value := by
  intro id row hrow
  rw [ExtTreeMap.getElem?_union] at hrow
  cases hnew : table'[id]? with
  | none =>
    rw [hnew, Option.none_or] at hrow
    exact h id row hrow
  | some row' =>
    rw [hnew, Option.some_or] at hrow
    exact h' id row (hnew.trans hrow)

end IsPart

/-- A table that gives to each of some ids its value, and nothing to any other id. -/
def IsLookup {κ ρ : Type} [Ord κ] [Std.TransOrd κ] (table : ExtTreeMap κ ρ) (ids : List κ)
    (value : κ → Option ρ) : Prop :=
  ∀ id row, table[id]? = some row ↔ id ∈ ids ∧ value id = some row

namespace IsLookup

variable {κ ρ : Type} [Ord κ] [Std.TransOrd κ]

variable {table table' : ExtTreeMap κ ρ} {ids ids' : List κ} {value : κ → Option ρ}

theorem empty (value : κ → Option ρ) : IsLookup ∅ [] value := by
  intro id row
  simp

theorem value_eq (h : IsLookup table ids value) {id : κ} {row : ρ} (hrow : table[id]? = some row) :
    value id = some row :=
  ((h id row).1 hrow).2

theorem isPart (h : IsLookup table ids value) : IsPart table value :=
  fun _ _ => h.value_eq

theorem mem (h : IsLookup table ids value) {id : κ} {row : ρ} (hrow : table[id]? = some row) :
    id ∈ ids :=
  ((h id row).1 hrow).1

theorem getElem?_of_mem (h : IsLookup table ids value) {id : κ} (hmem : id ∈ ids) :
    table[id]? = value id := by
  apply Option.ext
  intro row
  rw [h id row]
  exact and_iff_right hmem

theorem exists_iff (h : IsLookup table ids value) {id : κ} :
    (∃ row, table[id]? = some row) ↔ id ∈ ids ∧ ∃ row, value id = some row := by
  rw [← exists_and_left]
  exact exists_congr fun row => h id row

theorem congr (h : IsLookup table ids value) (hids : ∀ id, id ∈ ids ↔ id ∈ ids') :
    IsLookup table ids' value := by
  intro id row
  rw [h id row, hids id]

/-- Ids without a value may be added. -/
theorem extend (h : IsLookup table ids value) (hsub : ∀ id ∈ ids, id ∈ ids')
    (hvalue : ∀ id ∈ ids', ∀ row, value id = some row → id ∈ ids) : IsLookup table ids' value := by
  intro id row
  rw [h id row]
  constructor
  · rintro ⟨hmem, hrow⟩
    exact ⟨hsub id hmem, hrow⟩
  · rintro ⟨hmem, hrow⟩
    exact ⟨hvalue id hmem row hrow, hrow⟩

theorem union (h : IsLookup table ids value) (h' : IsLookup table' ids' value) :
    IsLookup (table ∪ table') (ids ++ ids') value := by
  intro id row
  rw [ExtTreeMap.getElem?_union, List.mem_append, or_and_right, ← h id row, ← h' id row]
  cases hnew : table'[id]? with
  | none => simp
  | some row' =>
    rw [Option.some_or]
    constructor
    · exact Or.inr
    · rintro (hrow | hrow)
      · rw [← h'.value_eq hnew, h.value_eq hrow]
      · exact hrow

variable [Std.LawfulEqOrd κ]

/-- Lookups of the same ids differ only where their values do. -/
theorem eq_iff (h : IsLookup table ids value) {value' : κ → Option ρ}
    (h' : IsLookup table' ids value') :
    table = table' ↔ ∀ id ∈ ids, value id = value' id := by
  constructor
  · rintro rfl id hmem
    rw [← h.getElem?_of_mem hmem, h'.getElem?_of_mem hmem]
  · intro hvalue
    apply ExtTreeMap.ext_getElem?
    intro id
    apply Option.ext
    intro row
    rw [h id row, h' id row]
    exact and_congr_right fun hmem => by rw [hvalue id hmem]

theorem of_rows {rows : List (κ × ρ)}
    (h : ∀ id row, (id, row) ∈ rows ↔ id ∈ ids ∧ value id = some row) :
    IsLookup (ExtTreeMap.ofList rows) ids value := by
  intro id row
  rw [getElem?_ofList_eq_some_iff fun entry hmem => ((h _ _).1 hmem).2, h]

end IsLookup

namespace Tables

variable {κ ρ : Type} [Ord κ] [Std.TransOrd κ]

theorem mem_select {table : ExtTreeMap κ ρ} {ids : List κ} {id : κ} {row : ρ} :
    (id, row) ∈ select table ids ↔ id ∈ ids ∧ table[id]? = some row := by
  unfold select
  simp only [List.mem_filterMap, Option.map_eq_some_iff, Prod.mk.injEq]
  constructor
  · rintro ⟨id', hmem, row', hrow, rfl, rfl⟩
    exact ⟨hmem, hrow⟩
  · rintro ⟨hmem, hrow⟩
    exact ⟨id, hmem, row, hrow, rfl, rfl⟩

end Tables

end FeedHydration
