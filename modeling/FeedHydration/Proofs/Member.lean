import FeedHydration.Json.Decoder

/-!
# Members of an object

A reader asks an object for its members by name. It gets a member that is there once, learns that
there is none, and refuses an object in which the name is repeated.
-/

namespace FeedHydration

/-- The one member of its name in an object. -/
structure JsonNode.IsSole (members : List (String × JsonNode)) (name : String) (node : JsonNode) :
    Prop where
  mem : (name, node) ∈ members
  once : (members.map Prod.fst).count name = 1

namespace JsonNode

variable {members : List (String × JsonNode)} {name : String} {node : JsonNode}

theorem length_filter_name :
    (members.filter (·.1 == name)).length = (members.map Prod.fst).count name := by
  rw [List.count, List.countP_map, List.countP_eq_length_filter]
  rfl

theorem findMember?_eq_given_iff :
    findMember? name members = some (.given node) ↔ IsSole members name node := by
  have hmem : ∀ member, member ∈ members.filter (·.1 == name) ↔
      member ∈ members ∧ member.1 = name :=
    fun member => by rw [List.mem_filter, beq_iff_eq]
  have hlength : (members.filter (·.1 == name)).length = (members.map Prod.fst).count name :=
    length_filter_name
  unfold findMember?
  constructor
  · intro h
    split at h
    · simp at h
    · rename_i key value hfilter
      cases h
      have hmember := (hmem (key, node)).1 (hfilter ▸ List.mem_singleton_self _)
      obtain ⟨hin, rfl⟩ := hmember
      exact ⟨hin, by rw [← hlength, hfilter]; rfl⟩
    · cases h
  · rintro ⟨hin, honce⟩
    obtain ⟨member, hfilter⟩ := List.length_eq_one_iff.1 (hlength.trans honce)
    have hmember : (name, node) ∈ members.filter (·.1 == name) := (hmem _).2 ⟨hin, rfl⟩
    rw [hfilter, List.mem_singleton] at hmember
    rw [hfilter, ← hmember]

theorem findMember?_eq_absent_iff :
    findMember? name members = some .absent ↔ name ∉ members.map Prod.fst := by
  rw [← List.count_eq_zero, ← length_filter_name, List.length_eq_zero_iff]
  unfold findMember?
  constructor
  · intro h
    split at h
    · assumption
    · cases h
    · cases h
  · intro hfilter
    rw [hfilter]

theorem findMember?_ne_cutOff : findMember? name members ≠ some .cutOff := by
  unfold findMember?
  split <;> simp

theorem findMember?_eq_none_iff :
    findMember? name members = none ↔ 1 < (members.map Prod.fst).count name := by
  rw [← length_filter_name]
  unfold findMember?
  cases members.filter (·.1 == name) with
  | nil => simp
  | cons member rest => cases rest <;> simp

theorem named?_pair_eq_some_iff {first second : String} {r : Record} :
    named? [first, second] (.obj members) = some r ↔
      ∃ a b, findMember? first members = some a ∧ findMember? second members = some b ∧
        r = [(first, a), (second, b)] := by
  unfold named?
  cases ha : findMember? first members <;> cases hb : findMember? second members <;>
    simp [List.mapM_cons, ha, hb, eq_comm]

theorem record?_pair_of_arr {first second : String} {items : List JsonNode} {r : Record}
    (h : record? [first, second] (.arr items) = some r) :
    (items = [] ∧ r = [(first, .cutOff), (second, .cutOff)]) ∨
      (∃ a, items = [a] ∧ r = [(first, .given a), (second, .cutOff)]) ∨
      ∃ a b, items = [a, b] ∧ r = [(first, .given a), (second, .given b)] := by
  match items, h with
  | [], h =>
    cases h
    exact .inl ⟨rfl, rfl⟩
  | [a], h =>
    cases h
    exact .inr (.inl ⟨a, rfl, rfl⟩)
  | [a, b], h =>
    cases h
    exact .inr (.inr ⟨a, b, rfl, rfl⟩)

/-- What an object without repeated names gives for a name. -/
def memberOf (members : List (String × JsonNode)) (name : String) : Member :=
  (members.lookup name).elim .absent .given

theorem findMember?_of_nodup (h : (members.map Prod.fst).Nodup) :
    findMember? name members = some (memberOf members name) := by
  unfold memberOf
  cases hlookup : members.lookup name with
  | none =>
    rw [Option.elim_none, findMember?_eq_absent_iff]
    intro hmem
    obtain ⟨member, hmember, rfl⟩ := List.mem_map.1 hmem
    exact absurd rfl (bne_iff_ne.1 (List.lookup_eq_none_iff.1 hlookup member hmember))
  | some node =>
    rw [Option.elim_some, findMember?_eq_given_iff]
    obtain ⟨before, after, rfl, -⟩ := List.lookup_eq_some_iff.1 hlookup
    exact ⟨by simp, by rw [h.count, if_pos (by simp)]⟩

theorem named?_of_nodup {names : List String} (h : (members.map Prod.fst).Nodup) :
    named? names (.obj members) = some (names.map fun name => (name, memberOf members name)) := by
  induction names with
  | nil => rfl
  | cons name names ih =>
    rw [named?] at ih ⊢
    rw [List.mapM_cons, findMember?_of_nodup h, ih]
    rfl

/-! ### Records -/

/-- A document gives a record one of its members: an object by its name, an array by its place. -/
def Gives (document : JsonNode) (names : List String) (name : String) (node : JsonNode) : Prop :=
  match document with
  | .obj members => (name, node) ∈ members
  | .arr items => (name, node) ∈ names.zip items
  | _ => False

variable {names : List String} {r : Record}

theorem eq_given_iff_of_findMember? {m : Member} (h : findMember? name members = some m) :
    m = .given node ↔ (name, node) ∈ members := by
  have hmem : (name, node) ∈ members.filter (·.1 == name) ↔ (name, node) ∈ members := by
    rw [List.mem_filter, beq_self_eq_true, and_iff_left rfl]
  rw [← hmem]
  unfold findMember? at h
  split at h
  · rename_i hfilter
    cases h
    simp [hfilter]
  · rename_i key value hfilter
    have hkey := (List.mem_filter.1 (hfilter ▸ List.mem_singleton_self (key, value))).2
    obtain rfl : key = name := beq_iff_eq.1 hkey
    cases h
    simp [hfilter, eq_comm]
  · cases h

theorem findMember?_of_named? (h : named? names (.obj members) = some r) (hname : name ∈ names) :
    findMember? name members = some (r.member name) := by
  rw [named?] at h
  induction names generalizing r with
  | nil => cases hname
  | cons first names ih =>
    rw [List.mapM_cons] at h
    simp only [Option.bind_eq_bind, Option.bind_eq_some_iff, Option.map_eq_some_iff] at h
    obtain ⟨_, ⟨m, hfirst, rfl⟩, rest, hrest, heq⟩ := h
    cases heq
    by_cases hne : name = first
    · subst hne
      rw [hfirst, Record.member, List.lookup_cons_self, Option.getD_some]
    · rw [ih hrest ((List.mem_cons.1 hname).resolve_left hne), Record.member, Record.member,
        List.lookup_cons, beq_eq_false_iff_ne.2 hne]

theorem member_placeMembers (items : List JsonNode) (hnames : names.Nodup) (hname : name ∈ names) :
    (placeMembers names items).member name = .given node ↔ (name, node) ∈ names.zip items := by
  induction names generalizing items with
  | nil => cases hname
  | cons first names ih =>
    obtain ⟨hfirst, hrest⟩ := List.nodup_cons.1 hnames
    unfold Record.member at ih ⊢
    by_cases hne : name = first
    · subst hne
      have hnot : ∀ items : List JsonNode, (name, node) ∉ names.zip items :=
        fun items hmem => hfirst (List.of_mem_zip hmem).1
      cases items with
      | nil => simp [placeMembers]
      | cons item items => simp [placeMembers, hnot, eq_comm]
    · have hrest := fun items => ih items hrest ((List.mem_cons.1 hname).resolve_left hne)
      cases items with
      | nil =>
        rw [placeMembers, List.lookup_cons, beq_eq_false_iff_ne.2 hne]
        simpa using hrest []
      | cons item items =>
        rw [placeMembers, List.lookup_cons, beq_eq_false_iff_ne.2 hne]
        simp [hrest, hne]

/-- What a record has for one of its names is what the document gives. -/
theorem member_eq_given_iff {document : JsonNode} (h : document.record? names = some r)
    (hnames : names.Nodup) (hname : name ∈ names) :
    r.member name = .given node ↔ document.Gives names name node := by
  cases document with
  | obj members =>
    have hfound := findMember?_of_named? h hname
    exact eq_given_iff_of_findMember? hfound
  | arr items =>
    rw [record?] at h
    split at h
    · cases h
      exact member_placeMembers items hnames hname
    · cases h
  | _ => cases h

section Read

variable {α : Type} {document : JsonNode} {read : JsonNode → Option α}

/-- A required member is given, and by one node only. -/
theorem exists_given_of_required? {a : α} (h : document.record? names = some r)
    (hnames : names.Nodup) (hname : name ∈ names) (hread : r.required? name read = some a) :
    ∃ node, document.Gives names name node ∧ read node = some a ∧
      ∀ other, document.Gives names name other → other = node := by
  unfold Record.required? at hread
  split at hread
  · rename_i node hmember
    refine ⟨node, (member_eq_given_iff h hnames hname).1 hmember, hread, fun other hother => ?_⟩
    have hgiven := (member_eq_given_iff h hnames hname).2 hother
    rw [hmember, Member.given.injEq] at hgiven
    exact hgiven.symm
  · cases hread

/-- A member that may be left out is what is given for it, and has no value if nothing is given. -/
theorem of_trailing? {o : Option α} (h : document.record? names = some r) (hnames : names.Nodup)
    (hname : name ∈ names) (hread : r.trailing? name read = some o) :
    (∀ node, document.Gives names name node → nullable? read node = some o) ∧
      ((∀ node, ¬ document.Gives names name node) → o = none) := by
  have hgiven : ∀ node, r.member name = .given node ↔ document.Gives names name node :=
    fun _ => member_eq_given_iff h hnames hname
  rw [Record.trailing?, Record.defaulted?] at hread
  cases hmember : r.member name with
  | given node =>
    rw [hmember] at hread
    refine ⟨fun other hother => ?_, fun hnone => absurd ((hgiven node).1 hmember) (hnone node)⟩
    obtain rfl := Member.given.inj (hmember.symm.trans ((hgiven other).2 hother))
    exact hread
  | absent | cutOff =>
    rw [hmember] at hread
    refine ⟨fun node hnode => ?_, fun _ => (Option.some.inj hread).symm⟩
    cases hmember.symm.trans ((hgiven node).2 hnode)

theorem eq_of_nullable?_str? {node : JsonNode} {o : Option String}
    (h : nullable? str? node = some o) : node = o.elim .null .str := by
  cases node <;> simp [nullable?, str?] at h <;> subst h <;> rfl

/-- A text that may be left out is given as a string, and left out or given as null if there is
none. -/
theorem trailing?_str?_iff {document : JsonNode} {names : List String} {name : String} {r : Record}
    {o : Option String} (h : document.record? names = some r) (hnames : names.Nodup)
    (hname : name ∈ names) (hread : r.trailing? name str? = some o) :
    (∀ text, o = some text ↔ document.Gives names name (.str text)) ∧
      (o = none ↔ ∀ node, document.Gives names name node → node = .null) := by
  obtain ⟨hgiven, hnone⟩ := of_trailing? h hnames hname hread
  have hfound : o = none ∨ ∃ node, document.Gives names name node := by
    by_cases hex : ∃ node, document.Gives names name node
    · exact .inr hex
    · exact .inl (hnone fun node hnode => hex ⟨node, hnode⟩)
  refine ⟨fun text => ⟨fun htext => ?_, fun htext => ?_⟩, ⟨fun hnull node hnode => ?_,
    fun hall => ?_⟩⟩
  · subst htext
    obtain hnull | ⟨node, hnode⟩ := hfound
    · cases hnull
    · have hstr : node = .str text := eq_of_nullable?_str? (hgiven node hnode)
      exact hstr ▸ hnode
  · exact (Option.some.inj (hgiven _ htext)).symm
  · subst hnull
    exact eq_of_nullable?_str? (hgiven node hnode)
  · obtain hnull | ⟨node, hnode⟩ := hfound
    · exact hnull
    · obtain rfl := hall node hnode
      exact (Option.some.inj (hgiven _ hnode)).symm

/-- What is given for a member that may be left out is null or can be read. -/
theorem read_given_of_trailing? {o : Option α} (h : document.record? names = some r)
    (hnames : names.Nodup) (hname : name ∈ names) (hread : r.trailing? name read = some o)
    (hgiven : document.Gives names name node) (hnull : node ≠ .null) :
    ∃ a, read node = some a := by
  have hread := (of_trailing? h hnames hname hread).1 node hgiven
  unfold nullable? at hread
  split at hread
  · contradiction
  · obtain ⟨a, ha, -⟩ := Option.map_eq_some_iff.1 hread
    exact ⟨a, ha⟩

/-- A list is read only if each of its items can be read. -/
theorem exists_read_of_list? {items : List JsonNode} {values : List α}
    (h : list? read (.arr items) = some values) : ∀ item ∈ items, ∃ a, read item = some a := by
  rw [list?] at h
  induction items generalizing values with
  | nil => exact fun item hitem => absurd hitem List.not_mem_nil
  | cons item items ih =>
    simp only [List.mapM_cons, Option.bind_eq_bind, Option.bind_eq_some_iff] at h
    obtain ⟨a, hitem, rest, hrest, -⟩ := h
    exact List.forall_mem_cons.2 ⟨⟨a, hitem⟩, ih hrest⟩

end Read

/-! ### Unions -/

theorem eq_str_of_tagName? {tag : JsonNode} {variants : List String} {s : String}
    (h : tagName? .name variants tag = some s) : tag = .str s := by
  unfold tagName? at h
  split at h <;> cases h
  rfl

/-- A union that is told by name gives one tag, and its content gives what it gives beside it. -/
theorem tagged?_gives {document : JsonNode} {variants : List String} {t : Tagged}
    (h : document.tagged? .name variants = some t) (names : List String)
    (hnames : ("$type" :: names).Nodup) :
    (∀ tag, document.Gives ("$type" :: names) "$type" tag ↔ tag = .str t.tag) ∧
      ∀ name ∈ names, ∀ node,
        t.content.Gives names name node ↔ document.Gives ("$type" :: names) name node := by
  -- An object gives members by name, so the tag must not be taken for one of them, nor the reverse.
  have hfresh : "$type" ∉ names := (List.nodup_cons.1 hnames).1
  have hne : ∀ name ∈ names, name ≠ "$type" := fun name hname heq => hfresh (heq ▸ hname)
  unfold tagged? at h
  split at h
  · split at h
    · split at h
      · rename_i members _ _ tag hfound
        obtain ⟨s, hs, rfl⟩ := Option.map_eq_some_iff.1 h
        obtain rfl := eq_str_of_tagName? hs
        have hsole : ∀ node, Member.given (.str s) = .given node ↔ ("$type", node) ∈ members :=
          fun _ => eq_given_iff_of_findMember? hfound
        refine ⟨fun tag => ?_, fun name hname node => ?_⟩
        · rw [Gives, ← hsole tag, Member.given.injEq, eq_comm]
        · simp [Gives, List.mem_filter, hne name hname]
      · cases h
    · rename_i tag items _
      obtain ⟨s, hs, rfl⟩ := Option.map_eq_some_iff.1 h
      obtain rfl := eq_str_of_tagName? hs
      have hzip : ∀ tag, ("$type", tag) ∉ names.zip items :=
        fun tag hmem => hfresh (List.of_mem_zip hmem).1
      refine ⟨fun tag => ?_, fun name hname node => ?_⟩
      · simp [Gives, hzip]
      · simp [Gives, hne name hname]
    · cases h
  · cases h

end JsonNode

end FeedHydration
