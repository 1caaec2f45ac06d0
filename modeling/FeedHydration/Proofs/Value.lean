import FeedHydration.Proofs.Canonical
import FeedHydration.Proofs.Member

/-!
# Documents that hold a value

One value has many documents: the members of an object may come in any order. A document that
repeats no name holds its value, and whatever the order is, its strings, its lists and the members
of its objects are those of the value.
-/

namespace FeedHydration

namespace JsonNode

variable {node : JsonNode} {nodes : List JsonNode} {members : List (String × JsonNode)}
  {values written : List (String × Json)} {name : String}

mutual

/-- No object in a document repeats a name. -/
def HasDistinctNames : JsonNode → Prop
  | .null | .bool _ | .num _ | .str _ | .unreadable => True
  | .arr nodes => AllDistinctNames nodes
  | .obj members => (members.map Prod.fst).Nodup ∧ MembersDistinctNames members

def AllDistinctNames : List JsonNode → Prop
  | [] => True
  | node :: nodes => HasDistinctNames node ∧ AllDistinctNames nodes

def MembersDistinctNames : List (String × JsonNode) → Prop
  | [] => True
  | (_, node) :: members => HasDistinctNames node ∧ MembersDistinctNames members

end

/-- A document of the value. -/
structure Holds (node : JsonNode) (value : Json) : Prop where
  value : node.toJson? = some value
  distinct : node.HasDistinctNames

theorem membersDistinctNames_iff :
    MembersDistinctNames members ↔ ∀ member ∈ members, member.2.HasDistinctNames := by
  induction members with
  | nil => simp [MembersDistinctNames]
  | cons member members ih => rw [MembersDistinctNames, ih, List.forall_mem_cons]

theorem Holds.isReadable {value : Json} (h : node.Holds value) : node.isReadable = true := by
  rw [JsonNode.isReadable, h.value, Option.isSome_some]

/-! ### Scalars and lists -/

theorem Holds.ne_null {value : Json} (h : node.Holds value) (hvalue : value ≠ .null) :
    node ≠ .null := by
  rintro rfl
  have hnull := h.value
  rw [toJson?, Option.some.injEq] at hnull
  exact hvalue hnull.symm

theorem Holds.eq_str {s : String} (h : node.Holds (.str s)) : node = .str s := by
  have hvalue := h.value
  cases node <;> simp [toJson?, Json.object] at hvalue
  rw [hvalue]

theorem Holds.eq_bool {b : Bool} (h : node.Holds (.bool b)) : node = .bool b := by
  have hvalue := h.value
  cases node <;> simp [toJson?, Json.object] at hvalue
  rw [hvalue]

theorem Holds.eq_num {n : JsonNumber} (h : node.Holds (.num n)) : node = .num n := by
  have hvalue := h.value
  cases node <;> simp [toJson?, Json.object] at hvalue
  rw [hvalue]

theorem Holds.eq_arr {items : List Json} (h : node.Holds (.arr items)) :
    ∃ nodes, node = .arr nodes ∧ List.Forall₂ Holds nodes items := by
  have hvalue := h.value
  cases node <;> simp [toJson?, Json.object] at hvalue
  rename_i nodes
  have hdistinct : AllDistinctNames nodes := h.distinct
  refine ⟨nodes, rfl, ?_⟩
  clear h
  induction nodes generalizing items with
  | nil =>
    cases hvalue
    exact .nil
  | cons node nodes ih =>
    simp only [toJsonItems?, Option.bind_eq_bind, Option.bind_eq_some_iff, Option.some.injEq]
      at hvalue
    obtain ⟨item, hitem, items, hitems, rfl⟩ := hvalue
    exact .cons ⟨hitem, hdistinct.1⟩ (ih hitems hdistinct.2)

/-! ### Objects -/

theorem toJsonMembers?_cons_eq_some_iff :
    toJsonMembers? ((name, node) :: members) = some written ↔ ∃ value values,
      node.toJson? = some value ∧ toJsonMembers? members = some values ∧
        written = (name, value) :: values := by
  simp only [toJsonMembers?, Option.bind_eq_bind, Option.bind_eq_some_iff, Option.some.injEq]
  constructor
  · rintro ⟨value, hvalue, values, hvalues, rfl⟩
    exact ⟨value, values, hvalue, hvalues, rfl⟩
  · rintro ⟨value, values, hvalue, hvalues, rfl⟩
    exact ⟨value, hvalue, values, hvalues, rfl⟩

theorem names_of_toJsonMembers? (h : toJsonMembers? members = some written) :
    written.map Prod.fst = members.map Prod.fst := by
  induction members generalizing written with
  | nil =>
    cases h
    rfl
  | cons member members ih =>
    obtain ⟨value, values, -, hvalues, rfl⟩ := toJsonMembers?_cons_eq_some_iff.1 h
    rw [List.map_cons, List.map_cons, ih hvalues]

theorem lookup_of_toJsonMembers? (h : toJsonMembers? members = some written) :
    written.lookup name = (members.lookup name).bind toJson? := by
  induction members generalizing written with
  | nil =>
    cases h
    rfl
  | cons member members ih =>
    obtain ⟨value, values, hvalue, hvalues, rfl⟩ := toJsonMembers?_cons_eq_some_iff.1 h
    rw [Json.lookup_cons_eq_ite, Json.lookup_cons_eq_ite, ih hvalues]
    split
    · rw [Option.bind_some, hvalue]
    · rfl

theorem exists_toJson?_of_mem (h : toJsonMembers? members = some written)
    (hmem : (name, node) ∈ members) : ∃ value, node.toJson? = some value := by
  induction members generalizing written with
  | nil => cases hmem
  | cons member members ih =>
    obtain ⟨value, values, hvalue, hvalues, -⟩ := toJsonMembers?_cons_eq_some_iff.1 h
    obtain rfl | hmem := List.mem_cons.1 hmem
    · exact ⟨value, hvalue⟩
    · exact ih hvalues hmem

theorem toJsonMembers?_filter (p : String → Bool) (h : toJsonMembers? members = some written) :
    toJsonMembers? (members.filter fun member => p member.1) =
      some (written.filter fun member => p member.1) := by
  induction members generalizing written with
  | nil =>
    cases h
    rfl
  | cons member members ih =>
    obtain ⟨value, values, hvalue, hvalues, rfl⟩ := toJsonMembers?_cons_eq_some_iff.1 h
    rw [List.filter_cons, List.filter_cons]
    split
    · exact toJsonMembers?_cons_eq_some_iff.2 ⟨value, _, hvalue, ih hvalues, rfl⟩
    · exact ih hvalues

theorem toJsonMembers?_concat {value : Json} {node : JsonNode} (hnode : node.toJson? = some value)
    (h : toJsonMembers? members = some written) :
    toJsonMembers? (members ++ [(name, node)]) = some (written ++ [(name, value)]) := by
  induction members generalizing written with
  | nil =>
    cases h
    exact toJsonMembers?_cons_eq_some_iff.2 ⟨value, [], hnode, rfl, rfl⟩
  | cons member members ih =>
    obtain ⟨first, rest, hfirst, hrest, rfl⟩ := toJsonMembers?_cons_eq_some_iff.1 h
    exact toJsonMembers?_cons_eq_some_iff.2 ⟨first, _, hfirst, ih hrest, rfl⟩

theorem toJsonMembers?_reverse (h : toJsonMembers? members = some written) :
    toJsonMembers? members.reverse = some written.reverse := by
  induction members generalizing written with
  | nil =>
    cases h
    rfl
  | cons member members ih =>
    obtain ⟨value, rest, hvalue, hrest, rfl⟩ := toJsonMembers?_cons_eq_some_iff.1 h
    rw [List.reverse_cons, List.reverse_cons]
    exact toJsonMembers?_concat hvalue (ih hrest)

/-- What a record has for a name, as a value. -/
def Member.value? : Member → Option Json
  | .given node => node.toJson?
  | .absent | .cutOff => none

/-- The value of an object has for a name what the object gives for it, unless it gives it twice. -/
theorem lookup_sortMembers_of_findMember? {m : Member} (h : toJsonMembers? members = some written)
    (hfound : findMember? name members = some m) :
    (Json.sortMembers written).lookup name = m.value? := by
  rw [Json.lookup_sortMembers, lookup_of_toJsonMembers? (toJsonMembers?_reverse h)]
  have hgiven : ∀ node, m = .given node ↔ (name, node) ∈ members :=
    fun _ => eq_given_iff_of_findMember? hfound
  cases hlookup : members.reverse.lookup name with
  | some node =>
    obtain ⟨before, after, heq, -⟩ := List.lookup_eq_some_iff.1 hlookup
    rw [(hgiven node).2 (List.mem_reverse.1 (heq ▸ by simp)), Option.bind_some, Member.value?]
  | none =>
    have hnot : ∀ node, m ≠ .given node := by
      rintro node rfl
      have hne := List.lookup_eq_none_iff.1 hlookup _ (List.mem_reverse.2 ((hgiven node).1 rfl))
      simp at hne
    cases m with
    | given node => exact absurd rfl (hnot node)
    | absent | cutOff => rfl

/-- The members that a reader collects are those without a name of its own, each with the last value
that is given for it. -/
theorem collected_of_extras? {names : List String}
    (h : extras? names (.obj members) = some written) :
    Json.IsSorted written ∧
      (∀ name, name ∈ written.map Prod.fst ↔ name ∉ names ∧ name ∈ members.map Prod.fst) ∧
      ∀ name ∉ names, written.lookup name = (members.reverse.lookup name).bind toJson? := by
  obtain ⟨read, hread, rfl⟩ := Option.map_eq_some_iff.1 h
  refine ⟨Json.isSorted_sortMembers _, fun name => ?_, fun name hname => ?_⟩
  · rw [Json.mem_names_sortMembers, names_of_toJsonMembers? hread]
    simp only [List.mem_map, List.mem_filter, Bool.not_eq_true', List.contains_eq_mem,
      decide_eq_false_iff_not]
    constructor
    · rintro ⟨member, ⟨hmember, hnot⟩, rfl⟩
      exact ⟨hnot, member, hmember, rfl⟩
    · rintro ⟨hnot, member, hmember, rfl⟩
      exact ⟨member, ⟨hmember, hnot⟩, rfl⟩
  · have hother : (!names.contains name) = true := by simpa using hname
    rw [Json.lookup_sortMembers, lookup_of_toJsonMembers? (toJsonMembers?_reverse hread),
      ← List.filter_reverse, Json.lookup_filter (fun name => !names.contains name) hother]

/-- An object holds the members of its value, in some order. -/
theorem Holds.eq_obj (h : node.Holds (.obj values)) : ∃ members written, node = .obj members ∧
    (members.map Prod.fst).Nodup ∧ toJsonMembers? members = some written ∧
    written.Perm values ∧ Json.IsSorted values := by
  have hvalue := h.value
  cases node <;> simp [toJson?, Json.object] at hvalue
  rename_i members
  obtain ⟨written, hwritten, rfl⟩ := hvalue
  have hnodup := h.distinct.1
  have hperm := Json.perm_sortMembers (names_of_toJsonMembers? hwritten ▸ hnodup)
  exact ⟨members, written, rfl, hnodup, hwritten, hperm.symm, Json.isSorted_sortMembers written⟩

theorem Holds.names_nodup (h : (JsonNode.obj members).Holds (.obj values)) :
    (members.map Prod.fst).Nodup := h.distinct.1

/-- What an object gives for a name is a document of what its value has there. -/
theorem Holds.lookup (h : (JsonNode.obj members).Holds (.obj values)) (name : String) :
    Option.Rel Holds (members.lookup name) (values.lookup name) := by
  obtain ⟨_, written, heq, hnodup, hwritten, hperm, -⟩ := h.eq_obj
  cases heq
  rw [← Json.lookup_of_perm (names_of_toJsonMembers? hwritten ▸ hnodup) hperm,
    lookup_of_toJsonMembers? hwritten]
  cases hlookup : members.lookup name with
  | none => exact .none
  | some node =>
    have hmem := (Json.lookup_eq_some_iff_mem hnodup).1 hlookup
    obtain ⟨value, hvalue⟩ := exists_toJson?_of_mem hwritten hmem
    rw [Option.bind_some, hvalue]
    exact .some ⟨hvalue, membersDistinctNames_iff.1 h.distinct.2 _ hmem⟩

/-- Members that are chosen by name are chosen alike in the document and in the value. -/
theorem Holds.filter (h : (JsonNode.obj members).Holds (.obj values)) (p : String → Bool) :
    (JsonNode.obj (members.filter fun member => p member.1)).Holds
      (.obj (values.filter fun member => p member.1)) := by
  obtain ⟨_, written, heq, hnodup, hwritten, hperm, hsorted⟩ := h.eq_obj
  cases heq
  have hfiltered : Json.IsSorted (values.filter fun member => p member.1) :=
    hsorted.sublist (List.filter_sublist.map _)
  refine ⟨?_, ?_, ?_⟩
  · rw [toJson?, toJsonMembers?_filter p hwritten, Option.map_some, Json.object,
      Json.sortMembers_eq_of_perm hfiltered (hperm.filter _)]
  · exact hnodup.sublist (List.filter_sublist.map _)
  · exact membersDistinctNames_iff.2 fun member hmember =>
      membersDistinctNames_iff.1 h.distinct.2 member (List.mem_filter.1 hmember).1

/-! ### Values as documents -/

theorem names_ofJsonMembers (values : List (String × Json)) :
    (ofJsonMembers values).map Prod.fst = values.map Prod.fst := by
  induction values with
  | nil => rfl
  | cons member values ih => rw [ofJsonMembers, List.map_cons, List.map_cons, ih]

mutual

theorem hasDistinctNames_ofJson : ∀ {value : Json}, value.IsCanonical →
    (ofJson value).HasDistinctNames
  | .null, _ | .bool _, _ | .num _, _ | .str _, _ => trivial
  | .arr _, h => allDistinctNames_ofJsonItems h
  | .obj values, h => by
    refine ⟨?_, membersDistinctNames_ofJsonMembers h.2⟩
    rw [names_ofJsonMembers]
    exact h.1.nodup

theorem allDistinctNames_ofJsonItems : ∀ {items : List Json}, Json.AreCanonical items →
    AllDistinctNames (ofJsonItems items)
  | [], _ => trivial
  | _ :: _, h => ⟨hasDistinctNames_ofJson h.1, allDistinctNames_ofJsonItems h.2⟩

theorem membersDistinctNames_ofJsonMembers : ∀ {values : List (String × Json)},
    Json.HaveCanonical values → MembersDistinctNames (ofJsonMembers values)
  | [], _ => trivial
  | (_, _) :: _, h => ⟨hasDistinctNames_ofJson h.1, membersDistinctNames_ofJsonMembers h.2⟩

end

/-- A canonical value is held by its own document. -/
theorem holds_ofJson {value : Json} (h : value.IsCanonical) : (ofJson value).Holds value :=
  ⟨Json.toJson?_ofJson h, hasDistinctNames_ofJson h⟩

end JsonNode

end FeedHydration
