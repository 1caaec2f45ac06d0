import FeedHydration.Proofs.Document
import FeedHydration.Proofs.Reply
import FeedHydration.Proofs.Wire

/-!
# Skeletons are read back, whole or not at all

A skeleton has a written form: the entries in their order, a repost as the reason of its entry, the
cursor if there is one, and beside them what the generator wants to have handed on. Every document
of that form is read as the skeleton. A body with an entry that is not right, or without entries, is
read as no skeleton.
-/

namespace FeedHydration

open JsonNode (ofJson readsBack_str)

/-! ### The written form -/

namespace SkeletonItem

/-- The reason of an entry that is there because of a repost. -/
def repostReason (repost : AtUri) : Json :=
  (Json.record [("repost", some repost.toJson)]).tagged "app.bsky.feed.defs#skeletonReasonRepost"

def toJson (item : SkeletonItem) : Json :=
  Json.record [
    ("post", some item.post.toJson),
    ("reason", item.repost.map repostReason),
    ("feedContext", item.feedContext.map .str)]

theorem readsBack_repostReason (repost : AtUri) :
    ReadsBack reason? (Option.elim · .null repostReason) (some repost) where
  reads {node} h := by
    change node.Holds (repostReason repost) at h
    refine h.bind_tagged? rfl (by simp) (by simp) fun content hcontent => ?_
    refine hcontent.bind_record? (by simp) fun r hof => ?_
    rw [hof.required? (by simp) rfl repost.readsBack.reads]
    rfl
  present := Json.noConfusion

theorem readsBack (item : SkeletonItem) : ReadsBack ofNode? toJson item where
  reads h := by
    have hreason : item.repost.map repostReason =
        (item.repost.map some).map (Option.elim · .null repostReason) := by
      rw [Option.map_map]
      rfl
    have hreads : ∀ reason ∈ item.repost.map some,
        ReadsBack reason? (Option.elim · .null repostReason) reason := by
      intro reason h
      obtain ⟨repost, -, rfl⟩ := Option.map_eq_some_iff.1 h
      exact readsBack_repostReason repost
    have hjoin : (item.repost.map some).join = item.repost := by cases item.repost <;> rfl
    refine h.bind_record? (by simp) fun r hof => ?_
    simp only [Option.bind_eq_bind]
    rw [hof.required? (by simp) rfl item.post.readsBack.reads, Option.bind_some,
      hof.trailing? (by simp) (by exact congrArg some hreason) hreads, Option.bind_some,
      hof.trailing? (by simp) rfl fun text _ => readsBack_str text, Option.bind_some, hjoin]
  present := Json.noConfusion

theorem isWhole_toJson (item : SkeletonItem) : item.toJson.IsWhole := by
  have hreason : ∀ repost, (repostReason repost).IsWhole :=
    fun repost => Json.isWhole_tagged (Json.isWhole_record (by simp [AtUri.toJson, Json.IsWhole]))
  exact Json.isWhole_record (by simp [AtUri.toJson, Json.IsWhole, hreason])

theorem depth_toJson_le (item : SkeletonItem) : item.toJson.depth ≤ 2 := by
  have hreason : ∀ repost, (repostReason repost).depth ≤ 1 :=
    fun repost => Json.depth_tagged_le (Json.depth_record_le (by simp [AtUri.toJson, Json.depth]))
  exact Json.depth_record_le (by simp [AtUri.toJson, Json.depth, hreason])

theorem isCanonical_toJson (item : SkeletonItem) : item.toJson.IsCanonical := by
  have hreason : ∀ repost, (repostReason repost).IsCanonical :=
    fun repost => Json.isCanonical_tagged (Json.isCanonical_record (by simp))
  exact Json.isCanonical_record (by simp [hreason])

end SkeletonItem

namespace Skeleton

variable {skeleton : Skeleton}

def fields (skeleton : Skeleton) : List (String × Option Json) :=
  [("feed", some (Json.listOf SkeletonItem.toJson skeleton.items)),
    ("cursor", skeleton.cursor.map .str)]

def toJson (skeleton : Skeleton) : Json :=
  Json.record (Json.openFields skeleton.passthrough skeleton.fields)

/-- What is handed on is in order and takes neither of the names that a skeleton has for its own. -/
structure IsOpen (skeleton : Skeleton) : Prop where
  sorted : Json.IsSorted skeleton.passthrough
  values : Json.HaveCanonical skeleton.passthrough
  names : ∀ member ∈ skeleton.passthrough, member.1 ∉ members

theorem names_fields (skeleton : Skeleton) : skeleton.fields.map Prod.fst = members := rfl

theorem isCanonical_toJson (h : skeleton.IsOpen) : skeleton.toJson.IsCanonical :=
  Json.isCanonical_openFields h.values (by simp [fields, SkeletonItem.isCanonical_toJson])

/-- Every document of the written form is read as the skeleton. -/
theorem ofNode?_of_holds (h : skeleton.IsOpen) {node : JsonNode}
    (hnode : node.Holds skeleton.toJson) :
    ofNode? skeleton.contentLanguage node = some skeleton := by
  have hitems : ReadsBack (JsonNode.list? SkeletonItem.ofNode?)
      (Json.listOf SkeletonItem.toJson) skeleton.items :=
    JsonNode.readsBack_list fun item _ => item.readsBack
  have hnodup := Json.nodup_openFields skeleton.names_fields (by decide) h.sorted h.names
  rw [ofNode?, hnode.extras? skeleton.names_fields (by decide) h.sorted h.names,
    Option.bind_eq_bind, Option.bind_some]
  refine hnode.bind_record? hnodup fun r hof => ?_
  have hof := hof.of_openFields h.names
  simp only [Option.bind_eq_bind]
  rw [hof.required? (by simp [members]) rfl hitems.reads, Option.bind_some,
    hof.trailing? (by simp [members]) rfl fun text _ => readsBack_str text, Option.bind_some]

/-! ### Texts of the written form -/

/-- A body whose document holds a value. -/
def IsBodyOf (value : Json) (body : Bytes) : Prop :=
  ∃ node, JsonNode.ofBytes? body = some node ∧ node.Holds value

/-- What is handed on can be given in a text: its numbers are whole, and it is not nested too
deeply. -/
structure IsPrintable (skeleton : Skeleton) : Prop where
  whole : (Json.obj skeleton.passthrough).IsWhole
  depth : (Json.obj skeleton.passthrough).depth ≤ JsonNode.maxDepth

theorem isWhole_toJson (h : skeleton.IsPrintable) : skeleton.toJson.IsWhole := by
  have hitems : (Json.listOf SkeletonItem.toJson skeleton.items).IsWhole :=
    Json.areWhole_iff.2 (List.forall_mem_map.2 fun item _ => item.isWhole_toJson)
  refine Json.isWhole_record (Json.forall_mem_openFields.2 ⟨Json.haveWhole_iff.1 h.whole, ?_⟩)
  simp [fields, hitems, Json.IsWhole]

theorem depth_toJson_le (h : skeleton.IsPrintable) :
    skeleton.toJson.depth ≤ JsonNode.maxDepth := by
  have hextra := Json.membersDepth_le_iff.1 (Nat.le_of_succ_le_succ h.depth)
  have hitems : (Json.listOf SkeletonItem.toJson skeleton.items).depth ≤ 3 :=
    Nat.succ_le_succ (Json.itemsDepth_le_iff.2
      (List.forall_mem_map.2 fun item _ => item.depth_toJson_le))
  -- What is handed on may go as deep as a text may; the entries stay far above that.
  have hfeed := hitems.trans (show 3 ≤ 126 by decide)
  refine Json.depth_record_le (Json.forall_mem_openFields.2 ⟨hextra, ?_⟩)
  simp [fields, hfeed, Json.depth]

theorem isBodyOf_render (h : skeleton.IsOpen) (hprint : skeleton.IsPrintable) :
    IsBodyOf skeleton.toJson (Utf8.encode skeleton.toJson.render) :=
  ⟨_, JsonNode.ofBytes?_render (isWhole_toJson hprint) (depth_toJson_le hprint),
    JsonNode.holds_ofJson (isCanonical_toJson h)⟩

end Skeleton

/-! ### Malformed documents -/

/-- A string that spells a uri. -/
def JsonNode.IsUri (node : JsonNode) : Prop :=
  ∃ s uri, node = .str s ∧ AtUri.parse s = .ok uri

theorem AtUri.isUri_of_ofNode? {node : JsonNode} {uri : AtUri} (h : ofNode? node = some uri) :
    node.IsUri := by
  cases node with
  | str s =>
    change (AtUri.parse s).toOption = some uri at h
    cases hparse : AtUri.parse s with
    | error e =>
      rw [hparse] at h
      cases h
    | ok uri => exact ⟨s, uri, rfl, hparse⟩
  | _ => cases h

namespace SkeletonItem

/-- What an entry gives for its reason is bad if it names no variant, or names a repost and tells no
uri of it. -/
inductive IsBadReason : JsonNode → Prop
  | noTag {reason : JsonNode} (h : ∀ tag, ¬ reason.Gives ["$type"] "$type" (.str tag)) :
      IsBadReason reason
  | noRepost {reason : JsonNode}
      (htag : reason.Gives ["$type", "repost"] "$type"
        (.str "app.bsky.feed.defs#skeletonReasonRepost"))
      (h : ∀ repost, ¬ reason.Gives ["$type", "repost"] "repost" repost) : IsBadReason reason
  | badRepost {reason repost : JsonNode}
      (htag : reason.Gives ["$type", "repost"] "$type"
        (.str "app.bsky.feed.defs#skeletonReasonRepost"))
      (hgiven : reason.Gives ["$type", "repost"] "repost" repost) (h : ¬ repost.IsUri) :
      IsBadReason reason

def members : List String := ["post", "reason", "feedContext"]

/-- An entry is malformed if its post is missing or no uri, or if there is a reason that is bad or a
context that is no string. Null stands for no reason and for no context. -/
inductive IsMalformed : JsonNode → Prop
  | noPost {entry : JsonNode} (h : ∀ post, ¬ entry.Gives members "post" post) : IsMalformed entry
  | badPost {entry post : JsonNode} (hgiven : entry.Gives members "post" post)
      (h : ¬ post.IsUri) : IsMalformed entry
  | badReason {entry reason : JsonNode} (hgiven : entry.Gives members "reason" reason)
      (hnull : reason ≠ .null) (h : IsBadReason reason) : IsMalformed entry
  | badContext {entry context : JsonNode} (hgiven : entry.Gives members "feedContext" context)
      (hnull : context ≠ .null) (h : ∀ s, context ≠ .str s) : IsMalformed entry

/-- The repost of a reason of that variant is given once, as a uri. -/
theorem exists_repost_of_reason? {reason : JsonNode} {repost : Option AtUri}
    (h : reason? reason = some repost) :
    (∃ tag, reason.Gives ["$type"] "$type" (.str tag)) ∧
      (reason.Gives ["$type", "repost"] "$type" (.str "app.bsky.feed.defs#skeletonReasonRepost") →
        ∃ node, reason.Gives ["$type", "repost"] "repost" node ∧ node.IsUri ∧
          ∀ other, reason.Gives ["$type", "repost"] "repost" other → other = node) := by
  unfold reason? at h
  obtain ⟨⟨tag, content⟩, htagged, h⟩ := Option.bind_eq_some_iff.1 h
  have htag := JsonNode.tagged?_gives htagged [] (by decide)
  have hgives := JsonNode.tagged?_gives htagged ["repost"] (by decide)
  refine ⟨⟨tag, (htag.1 _).2 rfl⟩, fun hrepost => ?_⟩
  obtain rfl : "app.bsky.feed.defs#skeletonReasonRepost" = tag :=
    JsonNode.str.inj ((hgives.1 _).1 hrepost)
  obtain ⟨r, hr, h⟩ := Option.bind_eq_some_iff.1 h
  obtain ⟨uri, huri, -⟩ := Option.map_eq_some_iff.1 h
  obtain ⟨node, hnode, hread, honly⟩ :=
    JsonNode.exists_given_of_required? hr (by decide) (by decide) huri
  have hcontent := hgives.2 "repost" (by decide)
  exact ⟨node, (hcontent node).1 hnode, AtUri.isUri_of_ofNode? hread,
    fun other hother => honly other ((hcontent other).2 hother)⟩

theorem reason?_of_isBadReason {reason : JsonNode} (h : IsBadReason reason) :
    reason? reason = none := by
  rw [Option.eq_none_iff_forall_ne_some]
  intro repost hreason
  obtain ⟨⟨tag, htag⟩, hrepost⟩ := exists_repost_of_reason? hreason
  cases h with
  | noTag hnone => exact hnone tag htag
  | noRepost htag hnone =>
    obtain ⟨node, hgiven, -⟩ := hrepost htag
    exact hnone node hgiven
  | badRepost htag hgiven hbad =>
    obtain ⟨node, -, huri, honly⟩ := hrepost htag
    exact hbad (honly _ hgiven ▸ huri)

theorem ofNode?_of_isMalformed {entry : JsonNode} (h : IsMalformed entry) :
    ofNode? entry = none := by
  rw [Option.eq_none_iff_forall_ne_some]
  intro item hitem
  unfold ofNode? at hitem
  obtain ⟨r, hr, hitem⟩ := Option.bind_eq_some_iff.1 hitem
  obtain ⟨post, hpost, hitem⟩ := Option.bind_eq_some_iff.1 hitem
  obtain ⟨reason, hreason, hitem⟩ := Option.bind_eq_some_iff.1 hitem
  obtain ⟨context, hcontext, -⟩ := Option.bind_eq_some_iff.1 hitem
  obtain ⟨node, hnode, hread, honly⟩ :=
    JsonNode.exists_given_of_required? hr (by decide) (by decide) hpost
  cases h with
  | noPost hnone => exact hnone node hnode
  | badPost hgiven hbad => exact hbad (honly _ hgiven ▸ AtUri.isUri_of_ofNode? hread)
  | badReason hgiven hnull hbad =>
    obtain ⟨repost, hrepost⟩ :=
      JsonNode.read_given_of_trailing? hr (by decide) (by decide) hreason hgiven hnull
    rw [reason?_of_isBadReason hbad] at hrepost
    cases hrepost
  | badContext hgiven hnull hbad =>
    obtain ⟨s, hs⟩ :=
      JsonNode.read_given_of_trailing? hr (by decide) (by decide) hcontext hgiven hnull
    unfold JsonNode.str? at hs
    split at hs
    · exact hbad _ rfl
    · cases hs

end SkeletonItem

namespace Skeleton

/-- A document without a list of entries, or with an entry that is malformed. -/
inductive IsMalformed : JsonNode → Prop
  | noObject {document : JsonNode} (h : ∀ given, document ≠ .obj given) : IsMalformed document
  | noFeed {given : List (String × JsonNode)} (h : ∀ entries, ("feed", .arr entries) ∉ given) :
      IsMalformed (.obj given)
  | badEntry {given : List (String × JsonNode)} {entries : List JsonNode} {entry : JsonNode}
      (hfeed : ("feed", .arr entries) ∈ given) (hentry : entry ∈ entries)
      (h : SkeletonItem.IsMalformed entry) : IsMalformed (.obj given)

theorem ofNode?_of_isMalformed {contentLanguage : Option String} {document : JsonNode}
    (h : IsMalformed document) : ofNode? contentLanguage document = none := by
  rw [Option.eq_none_iff_forall_ne_some]
  intro skeleton hskeleton
  unfold ofNode? at hskeleton
  obtain ⟨extra, hextra, hskeleton⟩ := Option.bind_eq_some_iff.1 hskeleton
  obtain ⟨r, hr, hskeleton⟩ := Option.bind_eq_some_iff.1 hskeleton
  obtain ⟨items, hitems, -⟩ := Option.bind_eq_some_iff.1 hskeleton
  obtain ⟨node, hnode, hread, honly⟩ :=
    JsonNode.exists_given_of_required? hr (by decide) (by decide) hitems
  cases h with
  | noObject hnot =>
    cases document with
    | obj given => exact hnot given rfl
    | _ => cases hextra
  | noFeed hnone =>
    cases node with
    | arr entries => exact hnone entries hnode
    | _ => cases hread
  | badEntry hfeed hentry hbad =>
    obtain rfl := honly _ hfeed
    obtain ⟨item, hitem⟩ := JsonNode.exists_read_of_list? hread _ hentry
    rw [SkeletonItem.ofNode?_of_isMalformed hbad] at hitem
    cases hitem

end Skeleton

namespace Skeleton

variable {skeleton : Skeleton} {reply : HttpReply}

theorem ofReply_of_isBodyOf (h : skeleton.IsOpen) (hok : reply.status = HttpStatus.ok)
    (hbody : IsBodyOf skeleton.toJson reply.body) :
    ofReply reply = .ok { skeleton with
      contentLanguage := reply.headers.first? HeaderName.contentLanguage } := by
  obtain ⟨document, hdocument, hholds⟩ := hbody
  -- The language is told in a header, so the body is that of the skeleton with any language.
  have hopen : IsOpen { skeleton with
      contentLanguage := reply.headers.first? HeaderName.contentLanguage } :=
    ⟨h.sorted, h.values, h.names⟩
  have hread := ofNode?_of_holds hopen hholds
  rw [ofReply_of_ok hok, ofBody?, hdocument, Option.bind_some, hread]

theorem ofReply_of_isMalformed (hok : reply.status = HttpStatus.ok)
    (h : ∀ document, JsonNode.ofBytes? reply.body = some document → IsMalformed document) :
    ∃ reason, ofReply reply = .error (.invalidFeedResponse reason) := by
  refine ⟨"not a feed skeleton", ?_⟩
  rw [ofReply_of_ok hok, ofBody?]
  cases hdocument : JsonNode.ofBytes? reply.body with
  | none => rfl
  | some document => rw [Option.bind_some, ofNode?_of_isMalformed (h document hdocument)]

end Skeleton

/-- **A skeleton is read back, whole or not at all.** A body of the written form gives with 200 the
entries in their order, the cursor and what is handed on, and every skeleton whose numbers are whole
and that is not nested too deeply has such a body. A body that is malformed, in one of its entries
or for want of a list of them, gives with 200 an invalid response. -/
theorem skeletons_read_back (reply : HttpReply) (hok : reply.status = HttpStatus.ok) :
    (∀ skeleton : Skeleton, skeleton.IsOpen →
      (Skeleton.IsBodyOf skeleton.toJson reply.body →
        Skeleton.ofReply reply = .ok { skeleton with
          contentLanguage := reply.headers.first? HeaderName.contentLanguage }) ∧
      (skeleton.IsPrintable →
        Skeleton.IsBodyOf skeleton.toJson (Utf8.encode skeleton.toJson.render))) ∧
    ((∀ document, JsonNode.ofBytes? reply.body = some document →
        Skeleton.IsMalformed document) →
      ∃ reason, Skeleton.ofReply reply = .error (.invalidFeedResponse reason)) :=
  ⟨fun _ h => ⟨Skeleton.ofReply_of_isBodyOf h hok, Skeleton.isBodyOf_render h⟩,
    Skeleton.ofReply_of_isMalformed hok⟩

namespace Sample

/-- A repost and a post by itself, with a cursor and a member to hand on. -/
def writtenSkeleton : Skeleton :=
  ⟨[⟨draft, some draft, some "context"⟩, ⟨draft, none, none⟩], some "next",
    [("count", .num (.int (-1)))], none⟩

def writtenReply : HttpReply :=
  ⟨200, ⟨[]⟩, Utf8.encode writtenSkeleton.toJson.render⟩

theorem isOpen_writtenSkeleton : writtenSkeleton.IsOpen where
  sorted := List.pairwise_singleton ..
  values := ⟨trivial, trivial⟩
  names _ h := by
    cases List.mem_singleton.1 h
    decide

theorem isPrintable_writtenSkeleton : writtenSkeleton.IsPrintable where
  whole := ⟨⟨by decide, by decide⟩, trivial⟩
  depth := by decide

/-- An entry with the account of a post in place of the post. -/
def malformedBody : Json := .obj [("feed", .arr [.obj [("post", .str "did:plc:writer")]])]

def malformedReply : HttpReply := ⟨200, ⟨[]⟩, Utf8.encode malformedBody.render⟩

theorem isMalformed_malformedReply : ∀ document,
    JsonNode.ofBytes? malformedReply.body = some document → Skeleton.IsMalformed document := by
  intro document h
  have hbody : JsonNode.ofBytes? malformedReply.body = some (ofJson malformedBody) :=
    JsonNode.ofBytes?_render ⟨⟨⟨trivial, trivial⟩, trivial⟩, trivial⟩ (by decide)
  obtain rfl := Option.some.inj (hbody.symm.trans h)
  refine .badEntry List.mem_cons_self List.mem_cons_self (.badPost List.mem_cons_self ?_)
  rintro ⟨s, uri, hs, hparse⟩
  cases hs
  have herror : (AtUri.parse "did:plc:writer").toBool = false := by decide +kernel
  rw [hparse] at herror
  cases herror

end Sample

theorem skeletons_read_back_sample :
    Sample.writtenReply.status = HttpStatus.ok ∧
    Skeleton.ofReply Sample.writtenReply = .ok Sample.writtenSkeleton ∧
    ∃ reason, Skeleton.ofReply Sample.malformedReply = .error (.invalidFeedResponse reason) := by
  obtain ⟨hread, hbody⟩ := (skeletons_read_back Sample.writtenReply rfl).1
    Sample.writtenSkeleton Sample.isOpen_writtenSkeleton
  exact ⟨rfl, hread (hbody Sample.isPrintable_writtenSkeleton),
    (skeletons_read_back Sample.malformedReply rfl).2 Sample.isMalformed_malformedReply⟩

/-! ### Entries that are not objects -/

/-- What makes an entry malformed if it has to be an object, with an object that has a tag for its
reason and a string for its context. -/
inductive SkeletonItem.IsLoose : Json → Prop
  | noPost {entry : Json} (h : ∀ fields post, entry = .obj fields → ("post", post) ∉ fields) :
      IsLoose entry
  | noTag {fields : List (String × Json)} {reason : Json} (hreason : ("reason", reason) ∈ fields)
      (h : ∀ content tag, reason = .obj content → ("$type", tag) ∉ content) : IsLoose (.obj fields)
  | noText {fields : List (String × Json)} {context : Json}
      (hcontext : ("feedContext", context) ∈ fields) (h : ∀ s, context ≠ .str s) :
      IsLoose (.obj fields)

namespace Sample

/-- A reason in the form of an array, a context that is null, and an entry in the form of an
array. -/
def looseEntries : List Json :=
  [.obj [("post", draft.toJson),
      ("reason", .arr [.str "app.bsky.feed.defs#skeletonReasonRepost", draft.toJson])],
    .obj [("feedContext", .null), ("post", draft.toJson)],
    .arr [draft.toJson]]

def looseReply : HttpReply :=
  ⟨200, ⟨[]⟩, Utf8.encode (Json.obj [("feed", .arr looseEntries)]).render⟩

/-- Arrays stand for the objects of their members in order, and null for no context. -/
theorem exists_loose_entries :
    looseReply.status = HttpStatus.ok ∧
    JsonNode.ofBytes? looseReply.body = some (ofJson (.obj [("feed", .arr looseEntries)])) ∧
    (∀ entry ∈ looseEntries, SkeletonItem.IsLoose entry) ∧
    Skeleton.ofReply looseReply =
      .ok ⟨[⟨draft, some draft, none⟩, ⟨draft, none, none⟩, ⟨draft, none, none⟩], none, [],
        none⟩ := by
  have hbody : JsonNode.ofBytes? looseReply.body =
      some (ofJson (.obj [("feed", .arr looseEntries)])) :=
    JsonNode.ofBytes?_render (by simp [looseEntries, Json.IsWhole, Json.AreWhole, Json.HaveWhole,
      AtUri.toJson]) (by decide)
  refine ⟨rfl, hbody, ?_, ?_⟩
  · simp only [looseEntries, List.forall_mem_cons]
    refine ⟨.noTag (List.mem_cons_of_mem _ List.mem_cons_self) (fun _ _ h => Json.noConfusion h),
      .noText List.mem_cons_self (fun _ h => Json.noConfusion h),
      .noPost (fun _ _ h => Json.noConfusion h), List.forall_mem_nil _⟩
  · have hread : Skeleton.ofNode? none (ofJson (.obj [("feed", .arr looseEntries)])) =
        some ⟨[⟨draft, some draft, none⟩, ⟨draft, none, none⟩, ⟨draft, none, none⟩], none, [],
          none⟩ := by decide +kernel
    have hlanguage : looseReply.headers.first? HeaderName.contentLanguage = none := by decide
    rw [Skeleton.ofReply_of_ok rfl, Skeleton.ofBody?, hbody, Option.bind_some, hlanguage, hread]

end Sample

end FeedHydration
