import FeedHydration.Proofs.Record
import Mathlib.Data.List.Nodup

/-!
# What open records are read from

A reader is described by how what it takes is related to the value of the node it takes it from. The
description of a record follows from those of its members. An open record is read from an object: of
its own members it takes the values that are there and not null, and it collects all the others. If
what it collected is written beside what it has for its own, each name gives again what it gave.
-/

namespace FeedHydration

namespace Json

variable {α : Type} {name : String} {names : List String} {given given' : List (String × Json)}
  {fields : List (String × Option Json)}

/-- Members in order are told by what they give for each name. -/
theorem IsSorted.eq_of_lookup (h : IsSorted given) (h' : IsSorted given')
    (hlookup : ∀ name, given.lookup name = given'.lookup name) : given = given' := by
  refine h.eq_of_perm h' ((List.perm_ext_iff_of_nodup (List.Nodup.of_map _ h.nodup)
    (List.Nodup.of_map _ h'.nodup)).2 ?_)
  rintro ⟨name, value⟩
  rw [← lookup_eq_some_iff_mem h.nodup, hlookup, lookup_eq_some_iff_mem h'.nodup]

theorem lookup_eq_none_of_notMem {l : List (String × α)} (h : name ∉ l.map Prod.fst) :
    l.lookup name = none := by
  rw [List.lookup_eq_none_iff]
  intro member hmember
  exact bne_iff_ne.2 fun heq => h (heq ▸ List.mem_map_of_mem hmember)

theorem lookup_filter_of_nodup {l : List (String × α)} (h : (l.map Prod.fst).Nodup)
    (p : String × α → Bool) :
    (l.filter p).lookup name = (l.lookup name).filter fun value => p (name, value) := by
  apply Option.ext
  intro value
  rw [lookup_eq_some_iff_mem (h.sublist (List.filter_sublist.map _)), List.mem_filter,
    Option.filter_eq_some_iff, lookup_eq_some_iff_mem h]

/-- The members without those of some names that are null. -/
def withoutNull (names : List String) (members : List (String × Json)) : List (String × Json) :=
  members.filter fun member => member.1 ∉ names ∨ member.2 ≠ .null

/-- The members that an open record has beside its own. -/
def others (names : List String) (members : List (String × Json)) : List (String × Json) :=
  members.filter fun member => member.1 ∉ names

theorem isSorted_others (h : IsSorted given) : IsSorted (others names given) :=
  h.sublist (List.filter_sublist.map _)

theorem notMem_of_mem_others {member : String × Json} (h : member ∈ others names given) :
    member.1 ∉ names :=
  of_decide_eq_true (List.mem_filter.1 h).2

theorem haveCanonical_others (h : HaveCanonical given) : HaveCanonical (others names given) :=
  haveCanonical_iff.2 fun member hmember =>
    haveCanonical_iff.1 h member (List.mem_filter.1 hmember).1

theorem lookup_others (hname : name ∉ names) :
    (others names given).lookup name = given.lookup name :=
  lookup_filter (fun name => decide (name ∉ names)) (decide_eq_true hname)

/-- A record does not depend on the order of its fields. -/
theorem record_append_comm {fields' : List (String × Option Json)}
    (h : ((fields ++ fields').map Prod.fst).Nodup) :
    record (fields ++ fields') = record (fields' ++ fields) := by
  have hperm : (present (fields ++ fields')).Perm (present (fields' ++ fields)) :=
    List.perm_append_comm.filterMap _
  have hnodup := (present_names_sublist _).nodup h
  rw [record_eq, record_eq, sortMembers_eq_of_perm (isSorted_sortMembers _)
    (hperm.trans (perm_sortMembers ((hperm.map Prod.fst).nodup_iff.1 hnodup)).symm)]

theorem isSorted_withoutNull (h : IsSorted given) : IsSorted (withoutNull names given) :=
  h.sublist (List.filter_sublist.map _)

theorem lookup_withoutNull (h : IsSorted given) : (withoutNull names given).lookup name =
    if name ∈ names then (given.lookup name).filter (fun value => value ≠ .null)
      else given.lookup name := by
  rw [withoutNull, lookup_filter_of_nodup h.nodup]
  split
  · rename_i hname
    simp [hname]
  · rename_i hname
    cases given.lookup name <;> simp [hname]

/-- An open record that is written has its own fields and beside them what it was given. -/
theorem lookup_open (hnames : fields.map Prod.fst = names) (hnodup : names.Nodup)
    (hgiven : IsSorted given) (name : String) :
    (sortMembers (present (openFields (others names given) fields))).lookup name =
      if name ∈ names then (fields.lookup name).join else given.lookup name := by
  have hopen : ∀ member ∈ others names given, member.1 ∉ names := fun _ => notMem_of_mem_others
  rw [lookup_record (nodup_openFields hnames hnodup (isSorted_others hgiven) hopen)]
  split
  · rename_i hname
    rw [lookup_openFields hopen hname]
  · rename_i hname
    have hown : fields.lookup name = none := lookup_eq_none_of_notMem (hnames ▸ hname)
    have hextra : ∀ members : List (String × Json),
        (members.map fun member => (member.1, some member.2)).lookup name =
          (members.lookup name).map some := by
      intro members
      induction members with
      | nil => rfl
      | cons member members ih =>
        rw [List.map_cons, lookup_cons_eq_ite, lookup_cons_eq_ite, ih]
        split <;> rfl
    rw [openFields, List.lookup_append, hown, Option.or_none, hextra, lookup_others hname]
    cases given.lookup name <;> rfl

end Json

namespace JsonNode

variable {α : Type} {read : JsonNode → Option α} {rel : α → Json → Prop} {r : Record}
  {name : String} {names : List String} {node : JsonNode}

theorem exists_toJsonMembers? {members : List (String × JsonNode)}
    (h : ∀ member ∈ members, ∃ value, member.2.toJson? = some value) :
    ∃ written, toJsonMembers? members = some written := by
  induction members with
  | nil => exact ⟨[], rfl⟩
  | cons member members ih =>
    obtain ⟨⟨value, hvalue⟩, hrest⟩ := List.forall_mem_cons.1 h
    obtain ⟨written, hwritten⟩ := ih hrest
    exact ⟨_, toJsonMembers?_cons_eq_some_iff.2 ⟨value, written, hvalue, hwritten, rfl⟩⟩

theorem eq_null_of_toJson? (h : node.toJson? = some .null) : node = .null := by
  cases node <;> simp [toJson?, Json.object] at h
  rfl

/-! ### What readers take -/

/-- What a reader takes has a value, and what it is taken as is related to it. -/
def Takes (read : JsonNode → Option α) (rel : α → Json → Prop) : Prop :=
  ∀ node a, read node = some a → ∃ value, node.toJson? = some value ∧ rel a value

theorem takes_str : Takes str? fun s value => value = .str s := by
  intro node s h
  cases node with
  | str s' =>
    cases h
    exact ⟨_, rfl, rfl⟩
  | _ => cases h

theorem takes_toJson : Takes toJson? Eq :=
  fun _ value h => ⟨value, h, rfl⟩

theorem Takes.list (h : Takes read rel) :
    Takes (list? read) fun items value =>
      ∃ values, value = .arr values ∧ List.Forall₂ rel items values := by
  intro node items hread
  cases node with
  | arr nodes =>
    rw [list?] at hread
    suffices ∃ values, toJsonItems? nodes = some values ∧ List.Forall₂ rel items values by
      obtain ⟨values, hvalues, hrel⟩ := this
      exact ⟨_, by rw [toJson?, hvalues, Option.map_some], values, rfl, hrel⟩
    induction nodes generalizing items with
    | nil =>
      cases hread
      exact ⟨[], rfl, .nil⟩
    | cons node nodes ih =>
      simp only [List.mapM_cons, Option.bind_eq_bind, Option.bind_eq_some_iff] at hread
      obtain ⟨a, ha, rest, hrest, heq⟩ := hread
      cases heq
      obtain ⟨value, hvalue, hrel⟩ := h node a ha
      obtain ⟨values, hvalues, hrels⟩ := ih rest hrest
      exact ⟨value :: values, by simp [toJsonItems?, hvalue, hvalues], .cons hrel hrels⟩
  | _ => cases hread

theorem eq_map_of_forall₂ {write : α → Json} {items : List α} {values : List Json}
    (h : List.Forall₂ (fun a value => value = write a) items values) :
    values = items.map write := by
  induction h with
  | nil => rfl
  | cons heq _ ih => rw [List.map_cons, heq, ih]

/-- What is given for a name has a value. -/
def Member.IsReadable (m : Member) : Prop :=
  ∀ node, m = .given node → ∃ value, node.toJson? = some value

theorem Takes.required? {a : α} (h : Takes read rel) (hread : r.required? name read = some a) :
    (r.member name).IsReadable ∧ ∃ value, (r.member name).value? = some value ∧ rel a value := by
  unfold Record.required? at hread
  split at hread
  · rename_i node hmember
    obtain ⟨value, hvalue, hrel⟩ := h node a hread
    rw [hmember]
    exact ⟨fun _ heq => Member.given.inj heq ▸ ⟨value, hvalue⟩, value, hvalue, hrel⟩
  · cases hread

/-- A member that may be left out is one that is not null. -/
theorem Takes.trailing? {o : Option α} (h : Takes read rel)
    (hread : r.trailing? name read = some o) :
    (r.member name).IsReadable ∧
      Option.Rel rel o ((r.member name).value?.filter fun value => value ≠ .null) := by
  unfold Record.trailing? Record.defaulted? at hread
  cases hmember : r.member name with
  | given node =>
    rw [hmember] at hread
    by_cases hnull : node = .null
    · subst hnull
      cases hread
      exact ⟨fun _ heq => Member.given.inj heq ▸ ⟨_, rfl⟩, .none⟩
    · have hread : (read node).map some = some o := by
        cases node <;> first | exact absurd rfl hnull | exact hread
      obtain ⟨a, ha, rfl⟩ := Option.map_eq_some_iff.1 hread
      obtain ⟨value, hvalue, hrel⟩ := h node a ha
      have hvalue' : value ≠ .null := by
        rintro rfl
        exact hnull (eq_null_of_toJson? hvalue)
      refine ⟨fun _ heq => Member.given.inj heq ▸ ⟨value, hvalue⟩, ?_⟩
      rw [Member.value?, hvalue, Option.filter_some, if_pos (decide_eq_true hvalue')]
      exact .some hrel
  | absent | cutOff =>
    rw [hmember] at hread
    cases hread
    exact ⟨fun _ heq => Member.noConfusion heq, .none⟩

/-- An open record whose own members have values is an object with a value. What it collects are the
members of the value that are not its own. -/
theorem exists_members_of_extras? {extra : List (String × Json)}
    (hextra : node.extras? names = some extra) (hr : node.record? names = some r)
    (hown : ∀ name ∈ names, (r.member name).IsReadable) :
    ∃ given, node.toJson? = some (.obj given) ∧ extra = Json.others names given ∧
      ∀ name ∈ names, given.lookup name = (r.member name).value? := by
  cases node with
  | obj members =>
    obtain ⟨collected, hcollected, -⟩ := Option.map_eq_some_iff.1 hextra
    have hfound : ∀ name ∈ names, findMember? name members = some (r.member name) :=
      fun name => findMember?_of_named? hr
    have hreadable : ∀ member ∈ members, ∃ value, member.2.toJson? = some value := by
      rintro ⟨name, node⟩ hmember
      by_cases hname : name ∈ names
      · exact hown name hname node ((eq_given_iff_of_findMember? (hfound name hname)).2 hmember)
      · exact exists_toJson?_of_mem hcollected (List.mem_filter.2 ⟨hmember, by simpa using hname⟩)
    obtain ⟨written, hwritten⟩ := exists_toJsonMembers? hreadable
    have hsorted := Json.isSorted_sortMembers written
    obtain ⟨hcollects, hnames, hvalues⟩ := collected_of_extras? hextra
    refine ⟨Json.sortMembers written, ?_, ?_, fun name hname =>
      lookup_sortMembers_of_findMember? hwritten (hfound name hname)⟩
    · rw [toJson?, hwritten, Option.map_some, Json.object]
    · apply hcollects.eq_of_lookup (Json.isSorted_others hsorted)
      intro name
      by_cases hname : name ∈ names
      · rw [Json.lookup_eq_none_of_notMem fun hmem => ((hnames name).1 hmem).1 hname,
          Json.lookup_eq_none_of_notMem]
        intro hmem
        obtain ⟨member, hmember, rfl⟩ := List.mem_map.1 hmem
        exact Json.notMem_of_mem_others hmember hname
      · rw [hvalues name hname, Json.lookup_others hname, Json.lookup_sortMembers,
          lookup_of_toJsonMembers? (toJsonMembers?_reverse hwritten)]
  | _ => cases hextra

end JsonNode

end FeedHydration
