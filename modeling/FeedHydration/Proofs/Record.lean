import FeedHydration.Proofs.Value

/-!
# Records that are read back

A record is written as an object of those of its members that have a value. Read as a record, every
document of that object gives for each declared member what was written, or says that the member is
absent, so a value that was left out comes back as its default. The tag of a union is one more
member, and the rest of the object is the record of the variant.
-/

namespace FeedHydration

open JsonNode (ofJson)

variable {α : Type} {read : JsonNode → Option α} {write : α → Json} {name : String}
  {fields : List (String × Option Json)} {names : List String}

/-- A list that is written also when it has no items. -/
def Json.listOf (write : α → Json) (items : List α) : Json :=
  .arr (items.map write)

/-- A reader takes every document of what is written for `a` as `a`. Nothing but the lack of a value
is written as null. -/
structure ReadsBack (read : JsonNode → Option α) (write : α → Json) (a : α) : Prop where
  reads : ∀ {node : JsonNode}, node.Holds (write a) → read node = some a
  present : write a ≠ .null

theorem ReadsBack.value {a : α} (h : ReadsBack read write a) (hcanonical : (write a).IsCanonical) :
    read (ofJson (write a)) = some a :=
  h.reads (JsonNode.holds_ofJson hcanonical)

namespace JsonNode

theorem readsBack_str (s : String) : ReadsBack str? .str s where
  reads h := by rw [h.eq_str, str?]
  present := Json.noConfusion

theorem readsBack_bool (b : Bool) : ReadsBack bool? .bool b where
  reads h := by rw [h.eq_bool, bool?]
  present := Json.noConfusion

theorem readsBack_count (n : Nat) : ReadsBack count? Json.nat n where
  reads h := by
    rw [h.eq_num]
    rfl
  present := Json.noConfusion

theorem nullable?_of_readsBack {a : α} (h : ReadsBack read write a) {node : JsonNode}
    (hnode : node.Holds (write a)) : nullable? read node = some (some a) := by
  have hnull := hnode.ne_null h.present
  unfold nullable?
  split
  · contradiction
  · rw [h.reads hnode, Option.map_some]

theorem readsBack_list {items : List α} (h : ∀ a ∈ items, ReadsBack read write a) :
    ReadsBack (list? read) (Json.listOf write) items where
  reads hnode := by
    obtain ⟨nodes, rfl, hnodes⟩ := hnode.eq_arr
    rw [list?]
    clear hnode
    induction items generalizing nodes with
    | nil =>
      cases hnodes
      rfl
    | cons a items ih =>
      rw [List.map_cons] at hnodes
      cases hnodes with
      | cons hfirst hrest =>
        rw [List.mapM_cons, (h a List.mem_cons_self).reads hfirst,
          ih (fun b hb => h b (List.mem_cons_of_mem _ hb)) _ hrest]
        rfl
  present := Json.noConfusion

end JsonNode

/-! ### Fields -/

namespace Json

/-- The fields that have a value. -/
def present (fields : List (String × Option Json)) : List (String × Json) :=
  fields.filterMap fun field => field.2.map (field.1, ·)

theorem record_eq (fields : List (String × Option Json)) :
    record fields = .obj (sortMembers (present fields)) := rfl

theorem mem_present {value : Json} :
    (name, value) ∈ present fields ↔ (name, some value) ∈ fields := by
  simp [present, List.mem_filterMap]

theorem present_names_sublist (fields : List (String × Option Json)) :
    ((present fields).map Prod.fst).Sublist (fields.map Prod.fst) := by
  induction fields with
  | nil => exact .slnil
  | cons field fields ih =>
    obtain ⟨name, _ | value⟩ := field
    · exact ih.cons _
    · exact ih.cons_cons _

theorem lookup_present (h : (fields.map Prod.fst).Nodup) :
    (present fields).lookup name = (fields.lookup name).join := by
  apply Option.ext
  intro value
  rw [lookup_eq_some_iff_mem ((present_names_sublist fields).nodup h), mem_present,
    ← lookup_eq_some_iff_mem h, Option.join_eq_some_iff]

theorem lookup_record (h : (fields.map Prod.fst).Nodup) :
    (sortMembers (present fields)).lookup name = (fields.lookup name).join := by
  have hpresent := (present_names_sublist fields).nodup h
  rw [lookup_of_perm (isSorted_sortMembers _).nodup (perm_sortMembers hpresent), lookup_present h]

/-- A record is in order if its values are. -/
theorem isCanonical_record (h : ∀ field ∈ fields, ∀ value ∈ field.2, value.IsCanonical) :
    (record fields).IsCanonical := by
  refine ⟨isSorted_sortMembers _, haveCanonical_iff.2 fun member hmember => ?_⟩
  exact h (member.1, some member.2) (mem_present.1 (mem_of_mem_sortMembers hmember)) _ rfl

theorem isCanonical_tagged {tag : String} {value : Json} (h : value.IsCanonical) :
    (value.tagged tag).IsCanonical := by
  cases value with
  | obj members =>
    refine ⟨isSorted_insertMember h.1, haveCanonical_iff.2 fun member hmember => ?_⟩
    obtain rfl | hmember := mem_of_mem_insertMember hmember
    · trivial
    · exact haveCanonical_iff.1 h.2 member hmember
  | _ => exact h

@[simp] theorem isCanonical_str (s : String) : (str s).IsCanonical := trivial

@[simp] theorem isCanonical_bool (b : Bool) : (bool b).IsCanonical := trivial

@[simp] theorem isCanonical_nat (n : Nat) : (nat n).IsCanonical := trivial

@[simp] theorem isCanonical_listOf {items : List α} :
    (listOf write items).IsCanonical ↔ ∀ a ∈ items, (write a).IsCanonical := by
  change AreCanonical (items.map write) ↔ _
  rw [areCanonical_iff, List.forall_mem_map]

@[simp] theorem flag?_eq_some_iff {b : Bool} {value : Json} :
    flag? b = some value ↔ b = true ∧ value = .bool true := by
  cases b <;> simp [flag?, eq_comm]

@[simp] theorem isCanonical_of_items? {items : List α} :
    (∀ value, items? write items = some value → value.IsCanonical) ↔
      ∀ a ∈ items, (write a).IsCanonical := by
  cases items with
  | nil => simp [items?]
  | cons a items =>
    have hitems : items? write (a :: items) = some (listOf write (a :: items)) := rfl
    rw [hitems, ← isCanonical_listOf]
    exact ⟨fun h => h _ rfl, fun h value hvalue => Option.some.inj hvalue ▸ h⟩

end Json

/-! ### Records -/

namespace JsonNode

namespace Record

/-- A record that was read off a document with these fields: for each of its names it has a document
of the value, or knows that there is none. -/
def IsOf (r : Record) (names : List String) (fields : List (String × Option Json)) : Prop :=
  ∀ name ∈ names, match (fields.lookup name).join with
    | some value => ∃ node, r.member name = .given node ∧ node.Holds value
    | none => r.member name = .absent

variable {r : Record} {o : Option α}

theorem member_map {f : String → Member} (h : name ∈ names) :
    member (names.map fun name => (name, f name)) name = f name := by
  unfold member
  induction names with
  | nil => cases h
  | cons first names ih =>
    rw [List.map_cons, Json.lookup_cons_eq_ite]
    split
    · rename_i hname
      rw [hname, Option.getD_some]
    · rename_i hname
      exact ih ((List.mem_cons.1 h).resolve_left hname)

theorem IsOf.given (h : r.IsOf names fields) (hname : name ∈ names) {value : Json}
    (hfield : fields.lookup name = some (some value)) :
    ∃ node, r.member name = .given node ∧ node.Holds value := by
  have hmember := h name hname
  rwa [hfield] at hmember

theorem IsOf.absent (h : r.IsOf names fields) (hname : name ∈ names)
    (hfield : fields.lookup name = some none) : r.member name = .absent := by
  have hmember := h name hname
  rwa [hfield] at hmember

theorem IsOf.required? (h : r.IsOf names fields) (hname : name ∈ names) {a : α}
    (hfield : fields.lookup name = some (some (write a)))
    (hread : ∀ {node : JsonNode}, node.Holds (write a) → read node = some a) :
    r.required? name read = some a := by
  obtain ⟨node, hmember, hholds⟩ := h.given hname hfield
  rw [Record.required?, hmember]
  exact hread hholds

theorem IsOf.optional? (h : r.IsOf names fields) (hname : name ∈ names)
    (hfield : fields.lookup name = some (o.map write)) (hread : ∀ a ∈ o, ReadsBack read write a) :
    r.optional? name read = some o := by
  cases o with
  | none =>
    rw [Record.optional?, h.absent hname hfield]
  | some a =>
    obtain ⟨node, hmember, hholds⟩ := h.given hname hfield
    rw [Record.optional?, hmember]
    exact nullable?_of_readsBack (hread a rfl) hholds

theorem IsOf.trailing? (h : r.IsOf names fields) (hname : name ∈ names)
    (hfield : fields.lookup name = some (o.map write)) (hread : ∀ a ∈ o, ReadsBack read write a) :
    r.trailing? name read = some o := by
  cases o with
  | none =>
    rw [Record.trailing?, defaulted?, h.absent hname hfield]
  | some a =>
    obtain ⟨node, hmember, hholds⟩ := h.given hname hfield
    rw [Record.trailing?, defaulted?, hmember]
    exact nullable?_of_readsBack (hread a rfl) hholds

theorem IsOf.flag? (h : r.IsOf names fields) (hname : name ∈ names) {b : Bool}
    (hfield : fields.lookup name = some (Json.flag? b)) :
    r.defaulted? name bool? false = some b := by
  cases b with
  | false =>
    rw [defaulted?, h.absent hname hfield]
  | true =>
    obtain ⟨node, hmember, hholds⟩ := h.given hname hfield
    rw [defaulted?, hmember, hholds.eq_bool]
    rfl

theorem IsOf.items? (h : r.IsOf names fields) (hname : name ∈ names) {items : List α}
    (hfield : fields.lookup name = some (Json.items? write items))
    (hread : ∀ a ∈ items, ReadsBack read write a) :
    r.defaulted? name (list? read) [] = some items := by
  cases items with
  | nil =>
    rw [defaulted?, h.absent hname hfield]
  | cons a items =>
    obtain ⟨node, hmember, hholds⟩ := h.given hname hfield
    rw [defaulted?, hmember]
    exact (readsBack_list hread).reads hholds

end Record

/-- What an object gives for a name is a document of the value that it has there. -/
theorem memberOf_of_rel {members : List (String × JsonNode)} {value : Option Json} :
    Option.Rel Holds (members.lookup name) value →
      match value with
      | some value => ∃ node, memberOf members name = .given node ∧ node.Holds value
      | none => memberOf members name = .absent := by
  intro h
  unfold memberOf
  generalize members.lookup name = found at h ⊢
  cases h with
  | some hnode => exact ⟨_, rfl, hnode⟩
  | none => rfl

/-- The names that a reader declares give what is written for them. -/
theorem Holds.exists_record? {node : JsonNode} (h : node.Holds (Json.record fields))
    (hfields : (fields.map Prod.fst).Nodup) (names : List String) :
    ∃ r, node.record? names = some r ∧ r.IsOf names fields := by
  rw [Json.record_eq] at h
  obtain ⟨members, -, rfl, hnodup, -⟩ := h.eq_obj
  refine ⟨_, named?_of_nodup hnodup, fun name hname => ?_⟩
  have hmember : Record.member (names.map fun name => (name, memberOf members name)) name =
      memberOf members name := Record.member_map hname
  rw [hmember, ← Json.lookup_record hfields]
  exact memberOf_of_rel (h.lookup name)

theorem Holds.bind_record? {node : JsonNode} (h : node.Holds (Json.record fields))
    (hfields : (fields.map Prod.fst).Nodup) {next : Record → Option α} {a : α}
    (hnext : ∀ r : Record, r.IsOf names fields → next r = some a) :
    (node.record? names).bind next = some a := by
  obtain ⟨r, hr, hof⟩ := h.exists_record? hfields names
  rw [hr, Option.bind_some, hnext r hof]

end JsonNode

/-! ### Unions -/

namespace Json

theorem filter_insertMember {value : Json} {members : List (String × Json)}
    (h : name ∉ members.map Prod.fst) :
    (insertMember name value members).filter (fun member => member.1 != name) = members := by
  induction members with
  | nil => simp [insertMember]
  | cons member members ih =>
    obtain ⟨key, v⟩ := member
    simp only [List.map_cons, List.mem_cons, not_or] at h
    have hrest : members.filter (fun member => member.1 != name) = members := by
      rw [List.filter_eq_self]
      intro other hother
      rw [bne_iff_ne]
      rintro rfl
      exact h.2 (List.mem_map_of_mem hother)
    unfold insertMember
    rw [if_neg h.1]
    split
    · simp [Ne.symm h.1, hrest]
    · simp [Ne.symm h.1, ih h.2]

end Json

namespace JsonNode

/-- A union gives the name of its variant and the record of its members. -/
theorem Holds.exists_tagged? {node : JsonNode} {value : Json} {tag : String}
    (h : node.Holds (value.tagged tag)) (hvalue : value = Json.record fields)
    (hfields : (fields.map Prod.fst).Nodup) (htag : "$type" ∉ fields.map Prod.fst)
    (form : TagForm) (variants : List String) :
    ∃ content, node.tagged? form variants = some ⟨tag, content⟩ ∧ content.Holds value := by
  have hnot : "$type" ∉ (Json.sortMembers (Json.present fields)).map Prod.fst := by
    have hpresent := (Json.present_names_sublist fields).nodup hfields
    rw [((Json.perm_sortMembers hpresent).map Prod.fst).mem_iff]
    exact fun hmem => htag ((Json.present_names_sublist fields).mem hmem)
  rw [hvalue, Json.record_eq, Json.tagged] at h
  have hreadable := h.isReadable
  obtain ⟨members, -, rfl, hnodup, -⟩ := h.eq_obj
  have hlookup := h.lookup "$type"
  rw [Json.lookup_insertMember, if_pos rfl] at hlookup
  obtain ⟨node, hmember, hholds⟩ := memberOf_of_rel hlookup
  have hcontent := h.filter (· != "$type")
  rw [Json.filter_insertMember hnot, ← Json.record_eq, ← hvalue] at hcontent
  refine ⟨_, ?_, hcontent⟩
  unfold tagged?
  rw [if_pos hreadable]
  dsimp only
  rw [findMember?_of_nodup hnodup, hmember, hholds.eq_str]
  rfl

theorem Holds.bind_tagged? {node : JsonNode} {value : Json} {tag : String}
    (h : node.Holds (value.tagged tag)) (hvalue : value = Json.record fields)
    (hfields : (fields.map Prod.fst).Nodup) (htag : "$type" ∉ fields.map Prod.fst)
    {form : TagForm} {variants : List String} {next : Tagged → Option α} {a : α}
    (hnext : ∀ content : JsonNode, content.Holds value → next ⟨tag, content⟩ = some a) :
    (node.tagged? form variants).bind next = some a := by
  obtain ⟨content, htagged, hcontent⟩ := h.exists_tagged? hvalue hfields htag form variants
  rw [htagged, Option.bind_some, hnext content hcontent]

end JsonNode

namespace Json

/-! ### Open records -/

section Open

variable {extra : List (String × Json)}

/-- The fields of an open record: what is handed on, and its own. -/
def openFields (extra : List (String × Json)) (fields : List (String × Option Json)) :
    List (String × Option Json) :=
  extra.map (fun member => (member.1, some member.2)) ++ fields

theorem names_openFields :
    (openFields extra fields).map Prod.fst = extra.map Prod.fst ++ fields.map Prod.fst := by
  simp [openFields, Function.comp_def]

theorem present_openFields :
    present (openFields extra fields) = extra ++ present fields := by
  rw [openFields, present, List.filterMap_append, List.filterMap_map]
  congr
  exact List.filterMap_some ..

theorem forall_mem_openFields {p : Json → Prop} :
    (∀ field ∈ openFields extra fields, ∀ value ∈ field.2, p value) ↔
      (∀ member ∈ extra, p member.2) ∧ ∀ field ∈ fields, ∀ value ∈ field.2, p value := by
  rw [openFields, List.forall_mem_append, List.forall_mem_map]
  simp

theorem isCanonical_openFields (hextra : HaveCanonical extra)
    (hfields : ∀ field ∈ fields, ∀ value ∈ field.2, value.IsCanonical) :
    (record (openFields extra fields)).IsCanonical :=
  isCanonical_record (forall_mem_openFields.2 ⟨haveCanonical_iff.1 hextra, hfields⟩)

theorem nodup_openFields (hnames : fields.map Prod.fst = names) (hnodup : names.Nodup)
    (hextra : IsSorted extra) (hopen : ∀ member ∈ extra, member.1 ∉ names) :
    ((openFields extra fields).map Prod.fst).Nodup := by
  rw [names_openFields, hnames, List.nodup_append]
  refine ⟨hextra.nodup, hnodup, ?_⟩
  intro name hname other hother
  obtain ⟨member, hmember, rfl⟩ := List.mem_map.1 hname
  rintro rfl
  exact hopen member hmember hother

theorem lookup_openFields (hopen : ∀ member ∈ extra, member.1 ∉ names) (hname : name ∈ names) :
    (openFields extra fields).lookup name = fields.lookup name := by
  have hnone : (extra.map fun member => (member.1, some member.2)).lookup name = none := by
    rw [List.lookup_eq_none_iff]
    intro field hfield
    obtain ⟨member, hmember, rfl⟩ := List.mem_map.1 hfield
    rw [bne_iff_ne]
    rintro rfl
    exact hopen member hmember hname
  rw [openFields, List.lookup_append, hnone, Option.none_or]

/-- Without its own fields an open record is what is handed on. -/
theorem perm_filter_openFields (hnames : fields.map Prod.fst = names) (hnodup : names.Nodup)
    (hextra : IsSorted extra) (hopen : ∀ member ∈ extra, member.1 ∉ names) :
    ((sortMembers (present (openFields extra fields))).filter
      fun member => !names.contains member.1).Perm extra := by
  have hown : (present (openFields extra fields)).filter
      (fun member => !names.contains member.1) = extra := by
    rw [present_openFields, List.filter_append, List.filter_eq_self.2, List.filter_eq_nil_iff.2,
      List.append_nil]
    · intro member hmember
      have hname : member.1 ∈ names :=
        hnames ▸ (present_names_sublist _).mem (List.mem_map_of_mem hmember)
      rw [List.contains_iff_mem.2 hname]
      decide
    · intro member hmember
      rw [List.contains_eq_mem, decide_eq_false (hopen member hmember)]
      rfl
  have hperm := (perm_sortMembers ((present_names_sublist _).nodup
    (nodup_openFields hnames hnodup hextra hopen))).filter fun member => !names.contains member.1
  rwa [hown] at hperm

end Open

end Json

section Open

variable {extra : List (String × Json)} {node : JsonNode}

/-- An open record reads back what is handed on. -/
theorem JsonNode.Holds.extras? (h : node.Holds (Json.record (Json.openFields extra fields)))
    (hnames : fields.map Prod.fst = names) (hnodup : names.Nodup) (hextra : Json.IsSorted extra)
    (hopen : ∀ member ∈ extra, member.1 ∉ names) : node.extras? names = some extra := by
  rw [Json.record_eq] at h
  obtain ⟨members, -, rfl, -⟩ := h.eq_obj
  have hfilter := (h.filter fun name => !names.contains name).value
  have hperm := Json.perm_filter_openFields hnames hnodup hextra hopen
  have hsorted : Json.IsSorted ((Json.sortMembers (Json.present
      (Json.openFields extra fields))).filter fun member => !names.contains member.1) :=
    (Json.isSorted_sortMembers _).sublist (List.filter_sublist.map _)
  rw [toJson?, hsorted.eq_of_perm hextra hperm, Option.map_eq_some_iff] at hfilter
  obtain ⟨written, hwritten, heq⟩ := hfilter
  rw [JsonNode.extras?, hwritten, Option.map_some]
  exact congrArg some (Json.obj.inj heq)

/-- What is handed on does not hide the fields of an open record. -/
theorem JsonNode.Record.IsOf.of_openFields {r : JsonNode.Record}
    (h : r.IsOf names (Json.openFields extra fields))
    (hopen : ∀ member ∈ extra, member.1 ∉ names) : r.IsOf names fields := by
  intro name hname
  rw [← Json.lookup_openFields hopen hname]
  exact h name hname

end Open

end FeedHydration
