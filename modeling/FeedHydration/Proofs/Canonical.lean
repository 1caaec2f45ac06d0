import FeedHydration.Json.Document
import Mathlib.Order.Defs.LinearOrder
import Mathlib.Data.List.Induction
import Mathlib.Data.String.Basic

/-!
# Canonical values

The members of an object are kept in the order of their names, each name once. Members that are put
in order are the same members, and whatever their order was before, it is the same object
afterwards. A value of this form comes back from its document as it was.
-/

namespace FeedHydration

namespace Json

variable {α : Type} {name : String} {value : Json} {members members' : List (String × Json)}

/-- Members in the order of their names, each name once. -/
def IsSorted (members : List (String × α)) : Prop :=
  (members.map Prod.fst).Pairwise (· < ·)

theorem IsSorted.nodup (h : IsSorted members) : (members.map Prod.fst).Nodup :=
  List.Pairwise.imp (fun hlt => ne_of_lt hlt) h

theorem mem_names_insertMember {k : String} :
    k ∈ (insertMember name value members).map Prod.fst ↔ k = name ∨ k ∈ members.map Prod.fst := by
  induction members with
  | nil => simp [insertMember]
  | cons member members ih =>
    obtain ⟨key, v⟩ := member
    unfold insertMember
    split
    · simp
    · split
      · rename_i heq
        simp [heq]
      · simp only [List.map_cons, List.mem_cons, ih]
        exact or_left_comm

theorem isSorted_insertMember (h : IsSorted members) :
    IsSorted (insertMember name value members) := by
  induction members with
  | nil => simp [IsSorted, insertMember]
  | cons member members ih =>
    obtain ⟨key, v⟩ := member
    obtain ⟨hkey, hmembers⟩ := List.pairwise_cons.1 h
    unfold insertMember
    split
    · rename_i hlt
      refine List.pairwise_cons.2 ⟨fun k hk => ?_, h⟩
      obtain rfl | hk := List.mem_cons.1 hk
      · exact hlt
      · exact String.lt_trans hlt (hkey k hk)
    · rename_i hnot
      split
      · rename_i heq
        exact List.pairwise_cons.2 ⟨heq ▸ hkey, hmembers⟩
      · rename_i hne
        refine List.pairwise_cons.2 ⟨fun k hk => ?_, ih hmembers⟩
        obtain rfl | hk := mem_names_insertMember.1 hk
        · exact lt_of_le_of_ne (String.not_lt.1 hnot) (Ne.symm hne)
        · exact hkey k hk

theorem perm_insertMember (h : name ∉ members.map Prod.fst) :
    (insertMember name value members).Perm ((name, value) :: members) := by
  induction members with
  | nil => exact .refl _
  | cons member members ih =>
    obtain ⟨key, v⟩ := member
    simp only [List.map_cons, List.mem_cons, not_or] at h
    unfold insertMember
    rw [if_neg h.1]
    split
    · exact .refl _
    · exact ((ih h.2).cons _).trans (.swap ..)

/-- Members are put in order one after the other. -/
theorem sortMembers_concat :
    sortMembers (members ++ [(name, value)]) = insertMember name value (sortMembers members) := by
  rw [sortMembers, List.foldl_concat]
  rfl

theorem isSorted_sortMembers (members : List (String × Json)) : IsSorted (sortMembers members) := by
  induction members using List.reverseRecOn with
  | nil => exact List.Pairwise.nil
  | append_singleton members member ih =>
    rw [sortMembers_concat]
    exact isSorted_insertMember ih

theorem perm_sortMembers (h : (members.map Prod.fst).Nodup) :
    (sortMembers members).Perm members := by
  induction members using List.reverseRecOn with
  | nil => exact .refl _
  | append_singleton members member ih =>
    rw [List.map_append, List.map_singleton, List.nodup_append] at h
    obtain ⟨hmembers, -, hnew⟩ := h
    have hperm := ih hmembers
    rw [sortMembers_concat]
    refine (perm_insertMember ?_).trans ((hperm.cons _).trans (List.perm_append_singleton ..).symm)
    rw [(hperm.map Prod.fst).mem_iff]
    intro hmem
    exact hnew _ hmem _ (List.mem_singleton_self _) rfl

/-- There is one order for given members. -/
theorem IsSorted.eq_of_perm (h : IsSorted members) (h' : IsSorted members')
    (hperm : members.Perm members') : members = members' := by
  have hasymm : ∀ a b, a ∈ members → b ∈ members' → a.1 < b.1 → b.1 < a.1 → a = b :=
    fun a b _ _ hab hba => absurd hba (String.lt_asymm hab)
  exact hperm.eq_of_pairwise hasymm (List.pairwise_map.1 h) (List.pairwise_map.1 h')

theorem sortMembers_eq_of_perm (h : IsSorted members') (hperm : members.Perm members') :
    sortMembers members = members' :=
  (isSorted_sortMembers members).eq_of_perm h
    ((perm_sortMembers ((hperm.map Prod.fst).nodup_iff.2 h.nodup)).trans hperm)

theorem sortMembers_eq_self (h : IsSorted members) : sortMembers members = members :=
  sortMembers_eq_of_perm h (.refl _)

theorem lookup_cons_eq_ite {key : String} {v : α} {l : List (String × α)} :
    ((name, v) :: l).lookup key = if key = name then some v else l.lookup key := by
  by_cases hkey : key = name
  · rw [if_pos hkey, hkey, List.lookup_cons_self]
  · rw [if_neg hkey, List.lookup_cons, beq_eq_false_iff_ne.2 hkey]

theorem lookup_eq_some_iff_mem {v : α} {l : List (String × α)} (h : (l.map Prod.fst).Nodup) :
    l.lookup name = some v ↔ (name, v) ∈ l := by
  induction l with
  | nil => simp
  | cons member l ih =>
    obtain ⟨key, w⟩ := member
    obtain ⟨hnew, hrest⟩ := List.nodup_cons.1 h
    rw [lookup_cons_eq_ite, List.mem_cons]
    split
    · rename_i hkey
      subst hkey
      have hnot : (name, v) ∉ l := fun hmem => hnew (List.mem_map.2 ⟨_, hmem, rfl⟩)
      simp [hnot, eq_comm]
    · rename_i hkey
      simp [hkey, ih hrest]

theorem lookup_of_perm {l l' : List (String × α)} (h : (l.map Prod.fst).Nodup)
    (hperm : l.Perm l') : l.lookup name = l'.lookup name := by
  apply Option.ext
  intro v
  rw [lookup_eq_some_iff_mem h, hperm.mem_iff,
    lookup_eq_some_iff_mem ((hperm.map Prod.fst).nodup_iff.1 h)]

theorem lookup_insertMember (key : String) :
    (insertMember name value members).lookup key =
      if key = name then some value else members.lookup key := by
  induction members with
  | nil => exact lookup_cons_eq_ite
  | cons member members ih =>
    obtain ⟨k, v⟩ := member
    unfold insertMember
    split
    · exact lookup_cons_eq_ite
    · split
      · rename_i heq
        rw [lookup_cons_eq_ite, lookup_cons_eq_ite, heq]
        split <;> rfl
      · rename_i hne
        rw [lookup_cons_eq_ite, lookup_cons_eq_ite, ih]
        split
        · rename_i hkey
          rw [if_neg (hkey ▸ Ne.symm hne)]
        · rfl

/-- Of several members of one name the last one counts. -/
theorem lookup_sortMembers (members : List (String × Json)) (key : String) :
    (sortMembers members).lookup key = members.reverse.lookup key := by
  induction members using List.reverseRecOn with
  | nil => rfl
  | append_singleton members member ih =>
    rw [sortMembers_concat, lookup_insertMember, ih, List.reverse_concat, lookup_cons_eq_ite]

theorem lookup_filter {members : List (String × α)} (p : String → Bool) (hp : p name = true) :
    (members.filter fun member => p member.1).lookup name = members.lookup name := by
  induction members with
  | nil => rfl
  | cons member members ih =>
    rw [List.filter_cons]
    split
    · rw [lookup_cons_eq_ite, lookup_cons_eq_ite, ih]
    · rename_i hnot
      rw [ih, lookup_cons_eq_ite, if_neg]
      rintro rfl
      exact hnot hp

theorem mem_names_sortMembers :
    name ∈ (sortMembers members).map Prod.fst ↔ name ∈ members.map Prod.fst := by
  induction members using List.reverseRecOn with
  | nil => rfl
  | append_singleton members member ih =>
    rw [sortMembers_concat, mem_names_insertMember, ih, List.map_append, List.mem_append,
      List.map_singleton, List.mem_singleton, or_comm]

/-! ### Values -/

mutual

/-- Every object in a value is in order. -/
def IsCanonical : Json → Prop
  | .null | .bool _ | .num _ | .str _ => True
  | .arr items => AreCanonical items
  | .obj members => IsSorted members ∧ HaveCanonical members

def AreCanonical : List Json → Prop
  | [] => True
  | item :: items => IsCanonical item ∧ AreCanonical items

def HaveCanonical : List (String × Json) → Prop
  | [] => True
  | (_, value) :: members => IsCanonical value ∧ HaveCanonical members

end

theorem areCanonical_iff {items : List Json} :
    AreCanonical items ↔ ∀ item ∈ items, item.IsCanonical := by
  induction items with
  | nil => simp [AreCanonical]
  | cons item items ih => rw [AreCanonical, ih, List.forall_mem_cons]

theorem haveCanonical_iff :
    HaveCanonical members ↔ ∀ member ∈ members, member.2.IsCanonical := by
  induction members with
  | nil => simp [HaveCanonical]
  | cons member members ih => rw [HaveCanonical, ih, List.forall_mem_cons]

theorem mem_of_mem_insertMember {member : String × Json}
    (h : member ∈ insertMember name value members) : member = (name, value) ∨ member ∈ members := by
  induction members with
  | nil => exact .inl (List.mem_singleton.1 h)
  | cons first members ih =>
    obtain ⟨key, v⟩ := first
    unfold insertMember at h
    split at h
    · exact List.mem_cons.1 h
    · split at h
      · exact (List.mem_cons.1 h).imp_right (List.mem_cons_of_mem _)
      · obtain rfl | h := List.mem_cons.1 h
        · exact .inr List.mem_cons_self
        · exact (ih h).imp_right (List.mem_cons_of_mem _)

theorem mem_of_mem_sortMembers {member : String × Json} (h : member ∈ sortMembers members) :
    member ∈ members := by
  induction members using List.reverseRecOn with
  | nil => cases h
  | append_singleton members last ih =>
    rw [sortMembers_concat] at h
    obtain rfl | h := mem_of_mem_insertMember h
    · exact List.mem_append_right _ (List.mem_singleton_self _)
    · exact List.mem_append_left _ (ih h)

mutual

/-- What is read off a document is canonical. -/
theorem isCanonical_of_toJson? : ∀ {node : JsonNode} {value : Json},
    node.toJson? = some value → value.IsCanonical
  | .null, _, h => by cases h; trivial
  | .bool _, _, h => by cases h; trivial
  | .num _, _, h => by cases h; trivial
  | .str _, _, h => by cases h; trivial
  | .arr nodes, _, h => by
    rw [JsonNode.toJson?, Option.map_eq_some_iff] at h
    obtain ⟨items, hitems, rfl⟩ := h
    exact areCanonical_of_toJsonItems? hitems
  | .obj nodes, _, h => by
    rw [JsonNode.toJson?, Option.map_eq_some_iff] at h
    obtain ⟨members, hmembers, rfl⟩ := h
    have hall := haveCanonical_iff.1 (haveCanonical_of_toJsonMembers? hmembers)
    exact ⟨isSorted_sortMembers members,
      haveCanonical_iff.2 fun member hmem => hall member (mem_of_mem_sortMembers hmem)⟩

theorem areCanonical_of_toJsonItems? : ∀ {nodes : List JsonNode} {items : List Json},
    JsonNode.toJsonItems? nodes = some items → AreCanonical items
  | [], _, h => by cases h; trivial
  | node :: nodes, _, h => by
    simp only [JsonNode.toJsonItems?, Option.bind_eq_bind, Option.bind_eq_some_iff,
      Option.some.injEq] at h
    obtain ⟨item, hitem, items, hitems, rfl⟩ := h
    exact ⟨isCanonical_of_toJson? hitem, areCanonical_of_toJsonItems? hitems⟩

theorem haveCanonical_of_toJsonMembers? :
    ∀ {nodes : List (String × JsonNode)} {members : List (String × Json)},
      JsonNode.toJsonMembers? nodes = some members → HaveCanonical members
  | [], _, h => by cases h; trivial
  | (name, node) :: nodes, _, h => by
    simp only [JsonNode.toJsonMembers?, Option.bind_eq_bind, Option.bind_eq_some_iff,
      Option.some.injEq] at h
    obtain ⟨value, hvalue, members, hmembers, rfl⟩ := h
    exact ⟨isCanonical_of_toJson? hvalue, haveCanonical_of_toJsonMembers? hmembers⟩

end

mutual

/-- A canonical value is read off its document as it is. -/
theorem toJson?_ofJson : ∀ {value : Json}, value.IsCanonical →
    (JsonNode.ofJson value).toJson? = some value
  | .null, _ => rfl
  | .bool _, _ => rfl
  | .num _, _ => rfl
  | .str _, _ => rfl
  | .arr items, h => by
    rw [JsonNode.ofJson, JsonNode.toJson?, toJsonItems?_ofJson h]
    rfl
  | .obj members, h => by
    rw [JsonNode.ofJson, JsonNode.toJson?, toJsonMembers?_ofJson h.2, Option.map_some, object,
      sortMembers_eq_self h.1]

theorem toJsonItems?_ofJson : ∀ {items : List Json}, AreCanonical items →
    JsonNode.toJsonItems? (JsonNode.ofJsonItems items) = some items
  | [], _ => rfl
  | item :: items, h => by
    rw [JsonNode.ofJsonItems, JsonNode.toJsonItems?, toJson?_ofJson h.1,
      toJsonItems?_ofJson h.2]
    rfl

theorem toJsonMembers?_ofJson : ∀ {members : List (String × Json)}, HaveCanonical members →
    JsonNode.toJsonMembers? (JsonNode.ofJsonMembers members) = some members
  | [], _ => rfl
  | (name, value) :: members, h => by
    rw [JsonNode.ofJsonMembers, JsonNode.toJsonMembers?, toJson?_ofJson h.1,
      toJsonMembers?_ofJson h.2]
    rfl

end

end Json

end FeedHydration
