import FeedHydration.Proofs.Record
import FeedHydration.Proofs.Token
import FeedHydration.Proofs.Utf8

/-!
# The document of a printed value

Read back, a printed value is its own document: each value is completed into the innermost open
container, and a container is as deep as it is nested. So a value comes back as long as no container
in it is nested too deeply.
-/

namespace FeedHydration

namespace Json

mutual

/-- How deeply containers are nested in a value. -/
def depth : Json → Nat
  | .null | .bool _ | .num _ | .str _ => 0
  | .arr items => itemsDepth items + 1
  | .obj members => membersDepth members + 1

def itemsDepth : List Json → Nat
  | [] => 0
  | item :: items => max (depth item) (itemsDepth items)

def membersDepth : List (String × Json) → Nat
  | [] => 0
  | (_, value) :: members => max (depth value) (membersDepth members)

end

end Json

namespace JsonNode.Builder

variable {stack : List Frame} {root : JsonNode} {token : Json.Token} {tokens : List Json.Token}
  {value : Json}

/-- A value may come where a container may end, too. -/
theorem accept?_valueOrEnd (h : token ≠ .endArray) :
    accept? ⟨stack, .valueOrEnd, root⟩ token = accept? ⟨stack, .value, root⟩ token := by
  unfold accept?
  cases token <;> first | rfl | contradiction

theorem accept?_nameOrEnd (h : token ≠ .endObject) :
    accept? ⟨stack, .nameOrEnd, root⟩ token = accept? ⟨stack, .name, root⟩ token := by
  unfold accept?
  cases token <;> first | rfl | contradiction

theorem exists_tokensOf_eq_cons (value : Json) :
    ∃ token tokens, value.tokensOf = token :: tokens ∧ token ≠ .endArray := by
  cases value <;> exact ⟨_, _, by rw [Json.tokensOf], by simp⟩

theorem foldlM_itemTokens_valueOrEnd {item : Json} {items : List Json} :
    (Json.itemTokens (item :: items) ++ tokens).foldlM accept? ⟨stack, .valueOrEnd, root⟩ =
      (Json.itemTokens (item :: items) ++ tokens).foldlM accept? ⟨stack, .value, root⟩ := by
  obtain ⟨token, more, heq, hne⟩ := exists_tokensOf_eq_cons item
  have hcons : ∃ more, Json.itemTokens (item :: items) = token :: more := by
    cases items with
    | nil => exact ⟨more, heq⟩
    | cons next items =>
      exact ⟨_, by rw [Json.itemTokens, heq, List.cons_append]⟩
  obtain ⟨more, heq⟩ := hcons
  rw [heq, List.cons_append, List.foldlM_cons, List.foldlM_cons, accept?_valueOrEnd hne]

theorem foldlM_memberTokens_nameOrEnd {member : String × Json} {members : List (String × Json)} :
    (Json.memberTokens (member :: members) ++ tokens).foldlM accept? ⟨stack, .nameOrEnd, root⟩ =
      (Json.memberTokens (member :: members) ++ tokens).foldlM accept? ⟨stack, .name, root⟩ := by
  have hcons : ∃ more, Json.memberTokens (member :: members) = .string (some member.1) :: more := by
    cases members <;> exact ⟨_, by rw [Json.memberTokens]⟩
  obtain ⟨more, heq⟩ := hcons
  rw [heq, List.cons_append, List.foldlM_cons, List.foldlM_cons,
    accept?_nameOrEnd Json.Token.noConfusion]

theorem container_of_le {depth : Nat} {node : JsonNode} (h : depth ≤ maxDepth) :
    container depth (some node) = node := by
  rw [container, if_neg (Nat.not_lt.2 h)]
  rfl

/-- The names and values of an open object, all of them readable. -/
def named (members : List (String × JsonNode)) : List (Option String × JsonNode) :=
  members.map fun member => (some member.1, member.2)

theorem namedMembers?_named (members : List (String × JsonNode)) :
    namedMembers? (named members) = some members := by
  rw [namedMembers?, named]
  induction members with
  | nil => rfl
  | cons member members ih =>
    rw [List.map_cons, List.mapM_cons, ih]
    rfl

mutual

/-- A value is completed into what is open. -/
theorem foldlM_tokensOf : ∀ {value : Json} {stack : List Frame},
    stack.length + value.depth ≤ maxDepth → ∀ root tokens,
      (value.tokensOf ++ tokens).foldlM accept? ⟨stack, .value, root⟩ =
        tokens.foldlM accept? (complete (ofJson value) stack)
  | .null, _, _, _, _ => rfl
  | .bool _, _, _, _, _ => rfl
  | .num _, _, _, _, _ => rfl
  | .str _, _, _, _, _ => rfl
  | .arr [], stack, h, root, tokens => by
    have hdepth : stack.length + 1 ≤ maxDepth := h
    change tokens.foldlM accept? (complete (container (stack.length + 1) (some (.arr []))) stack) =
      _
    rw [container_of_le hdepth]
    rfl
  | .arr (item :: items), stack, h, root, tokens => by
    rw [Json.depth] at h
    rw [Json.tokensOf, List.cons_append, List.append_assoc, List.foldlM_cons]
    change (Json.itemTokens (item :: items) ++ _).foldlM accept?
      ⟨.array [] :: stack, .valueOrEnd, .unreadable⟩ = _
    -- An array may end before its first item, but not before the others.
    rw [foldlM_itemTokens_valueOrEnd, foldlM_itemTokens (List.cons_ne_nil _ _) (by omega),
      List.append_nil]
    change tokens.foldlM accept? (complete (container (stack.length + 1)
      (some (.arr (ofJsonItems (item :: items)).reverse.reverse))) stack) = _
    rw [container_of_le (by omega), List.reverse_reverse, ofJson]
  | .obj [], stack, h, root, tokens => by
    have hdepth : stack.length + 1 ≤ maxDepth := h
    change tokens.foldlM accept? (complete (container (stack.length + 1) (some (.obj []))) stack) =
      _
    rw [container_of_le hdepth]
    rfl
  | .obj (member :: members), stack, h, root, tokens => by
    rw [Json.depth] at h
    rw [Json.tokensOf, List.cons_append, List.append_assoc, List.foldlM_cons]
    change (Json.memberTokens (member :: members) ++ _).foldlM accept?
      ⟨.object [] :: stack, .nameOrEnd, .unreadable⟩ = _
    rw [foldlM_memberTokens_nameOrEnd, foldlM_memberTokens (List.cons_ne_nil _ _) (by omega),
      List.append_nil]
    change tokens.foldlM accept? (complete (container (stack.length + 1) ((namedMembers?
      (named (ofJsonMembers (member :: members))).reverse.reverse).map .obj)) stack) = _
    rw [List.reverse_reverse, namedMembers?_named, Option.map_some, container_of_le (by omega),
      ofJson]

/-- Items are added to the innermost array. -/
theorem foldlM_itemTokens : ∀ {items : List Json}, items ≠ [] → ∀ {stack : List Frame}
    {before : List JsonNode} {root : JsonNode} {tokens : List Json.Token},
    stack.length + 1 + Json.itemsDepth items ≤ maxDepth →
      (Json.itemTokens items ++ tokens).foldlM accept? ⟨.array before :: stack, .value, root⟩ =
        tokens.foldlM accept? ⟨.array ((ofJsonItems items).reverse ++ before) :: stack,
          .separator, .unreadable⟩
  | [], hne, _, _, _, _, _ => absurd rfl hne
  | [item], _, stack, before, root, tokens, h => by
    rw [Json.itemsDepth] at h
    rw [Json.itemTokens, foldlM_tokensOf (by rw [List.length_cons]; omega)]
    rfl
  | item :: next :: items, _, stack, before, root, tokens, h => by
    rw [Json.itemsDepth] at h
    rw [Json.itemTokens, List.append_assoc, foldlM_tokensOf (by rw [List.length_cons]; omega),
      List.cons_append, List.foldlM_cons]
    change (Json.itemTokens (next :: items) ++ tokens).foldlM accept?
      ⟨.array (ofJson item :: before) :: stack, .value, .unreadable⟩ = _
    rw [foldlM_itemTokens (List.cons_ne_nil _ _) (by omega), ofJsonItems.eq_2 item,
      List.reverse_cons, List.append_assoc, List.singleton_append]

/-- Members are added to the innermost object. -/
theorem foldlM_memberTokens : ∀ {members : List (String × Json)}, members ≠ [] →
    ∀ {stack : List Frame} {before : List (Option String × JsonNode)} {root : JsonNode}
      {tokens : List Json.Token},
    stack.length + 1 + Json.membersDepth members ≤ maxDepth →
      (Json.memberTokens members ++ tokens).foldlM accept? ⟨.object before :: stack, .name, root⟩ =
        tokens.foldlM accept? ⟨.object ((named (ofJsonMembers members)).reverse ++ before) :: stack,
          .separator, .unreadable⟩
  | [], hne, _, _, _, _, _ => absurd rfl hne
  | [(name, item)], _, stack, before, root, tokens, h => by
    rw [Json.membersDepth] at h
    rw [Json.memberTokens, List.cons_append, List.cons_append, List.foldlM_cons]
    change (item.tokensOf ++ tokens).foldlM accept?
      ⟨.member before (some name) :: stack, .value, .unreadable⟩ = _
    rw [foldlM_tokensOf (by rw [List.length_cons]; omega)]
    rfl
  | (name, item) :: next :: members, _, stack, before, root, tokens, h => by
    rw [Json.membersDepth] at h
    rw [Json.memberTokens, List.cons_append, List.cons_append, List.foldlM_cons, List.append_assoc]
    change (item.tokensOf ++ (_ ++ tokens)).foldlM accept?
      ⟨.member before (some name) :: stack, .value, .unreadable⟩ = _
    rw [foldlM_tokensOf (by rw [List.length_cons]; omega), List.cons_append, List.foldlM_cons]
    change (Json.memberTokens (next :: members) ++ tokens).foldlM accept?
      ⟨.object ((some name, ofJson item) :: before) :: stack, .name, .unreadable⟩ = _
    rw [foldlM_memberTokens (List.cons_ne_nil _ _) (by omega), ofJsonMembers.eq_2 name item, named,
      named, List.map_cons, List.reverse_cons, List.append_assoc, List.singleton_append]

end

end JsonNode.Builder

namespace JsonNode

variable {value : Json}

/-- The tokens of a value make up its document. -/
theorem ofTokens?_tokensOf (h : value.depth ≤ maxDepth) :
    ofTokens? value.tokensOf = some (ofJson value) := by
  rw [← List.append_nil value.tokensOf, ofTokens?, Builder.start,
    Builder.foldlM_tokensOf (by simpa using h)]
  rfl

/-- The bytes of a printed value hold its document. -/
theorem ofBytes?_render (hwhole : value.IsWhole) (hdepth : value.depth ≤ maxDepth) :
    ofBytes? (Utf8.encode value.render) = some (ofJson value) := by
  rw [ofBytes?, Utf8.decode_encode, parse?, Json.tokens?_render hwhole]
  exact ofTokens?_tokensOf hdepth

end JsonNode

/-! ### Records as texts -/

namespace Json

variable {fields : List (String × Option Json)} {members : List (String × Json)} {items : List Json}
  {value : Json} {tag : String} {n : Nat}

theorem areWhole_iff : AreWhole items ↔ ∀ item ∈ items, item.IsWhole := by
  induction items with
  | nil => simp [AreWhole]
  | cons item items ih => rw [AreWhole, ih, List.forall_mem_cons]

theorem haveWhole_iff : HaveWhole members ↔ ∀ member ∈ members, member.2.IsWhole := by
  induction members with
  | nil => simp [HaveWhole]
  | cons member members ih => rw [HaveWhole, ih, List.forall_mem_cons]

theorem itemsDepth_le_iff : itemsDepth items ≤ n ↔ ∀ item ∈ items, item.depth ≤ n := by
  induction items with
  | nil => simp [itemsDepth]
  | cons item items ih => rw [itemsDepth, Nat.max_le, ih, List.forall_mem_cons]

theorem membersDepth_le_iff :
    membersDepth members ≤ n ↔ ∀ member ∈ members, member.2.depth ≤ n := by
  induction members with
  | nil => simp [membersDepth]
  | cons member members ih => rw [membersDepth, Nat.max_le, ih, List.forall_mem_cons]

theorem exists_field_of_mem_record {member : String × Json}
    (h : member ∈ sortMembers (present fields)) : (member.1, some member.2) ∈ fields :=
  mem_present.1 (mem_of_mem_sortMembers h)

theorem isWhole_record (h : ∀ field ∈ fields, ∀ value ∈ field.2, value.IsWhole) :
    (record fields).IsWhole :=
  haveWhole_iff.2 fun _ hmember => h _ (exists_field_of_mem_record hmember) _ rfl

theorem depth_record_le (h : ∀ field ∈ fields, ∀ value ∈ field.2, value.depth ≤ n) :
    (record fields).depth ≤ n + 1 :=
  Nat.succ_le_succ (membersDepth_le_iff.2 fun _ hmember =>
    h _ (exists_field_of_mem_record hmember) _ rfl)

theorem isWhole_tagged (h : value.IsWhole) : (value.tagged tag).IsWhole := by
  cases value with
  | obj members =>
    refine haveWhole_iff.2 fun member hmember => ?_
    obtain rfl | hmember := mem_of_mem_insertMember hmember
    · trivial
    · exact haveWhole_iff.1 h member hmember
  | _ => exact h

theorem depth_tagged_le (h : value.depth ≤ n) : (value.tagged tag).depth ≤ n := by
  cases value with
  | obj members =>
    obtain ⟨n, rfl⟩ : ∃ m, n = m + 1 := ⟨n - 1, by rw [depth] at h; omega⟩
    refine Nat.succ_le_succ (membersDepth_le_iff.2 fun member hmember => ?_)
    obtain rfl | hmember := mem_of_mem_insertMember hmember
    · exact Nat.zero_le _
    · exact membersDepth_le_iff.1 (Nat.le_of_succ_le_succ h) member hmember
  | _ => exact h

end Json

end FeedHydration
