import FeedHydration.Proofs.Grammar
import FeedHydration.Proofs.Instant
import FeedHydration.Proofs.Record
import FeedHydration.View.Feed

/-!
# Views are read back

Every view is read from what is written for it: flags that are not set, values that are absent and
lists without items are left out and come back as defaults, and a union is known by its tag however
deep it stands. The parts that have no form of their own, a record or what a generator sent, come
back if their objects are in order, as every value that was ever read is.
-/

namespace FeedHydration

open JsonNode (ofJson readsBack_str readsBack_bool readsBack_count)

/-! ### Identifiers, instants and labels -/

theorem Did.parse_text (did : Did) : parse did.text = .ok did := by
  have hnormal := normalize_of_slash_notMem did.slash_notMem
  rw [String.ofList_toList] at hnormal
  rw [parse, hnormal, check, dif_pos did.fits, dif_pos did.grammatical]

theorem Did.readsBack (did : Did) : ReadsBack ofNode? toJson did where
  reads h := by
    rw [h.eq_str, ofNode?, JsonNode.str?, Option.bind_eq_bind, Option.bind_some, parse_text]
    rfl
  present := Json.noConfusion

theorem Cid.readsBack (cid : Cid) : ReadsBack ofNode? toJson cid where
  reads h := by
    rw [h.eq_str, ofNode?, JsonNode.str?, Option.bind_eq_bind, Option.bind_some, parse,
      dif_pos cid.fits, dif_pos cid.grammatical]
    rfl
  present := Json.noConfusion

theorem AtUri.readsBack (uri : AtUri) : ReadsBack ofNode? toJson uri where
  reads h := by
    rw [h.eq_str, ofNode?, JsonNode.str?, Option.bind_eq_bind, Option.bind_some, parse_text]
    rfl
  present := Json.noConfusion

theorem Instant.readsBack (t : Instant) : ReadsBack ofNode? toJson t where
  reads h := by
    rw [h.eq_str]
    exact t.parse?_text
  present := Json.noConfusion

theorem StrongRef.toJson_eq (ref : StrongRef) :
    ref.toJson = Json.record [("uri", some ref.uri.toJson), ("cid", some ref.cid.toJson)] := rfl

theorem StrongRef.readsBack (ref : StrongRef) : ReadsBack ofNode? toJson ref where
  reads h := by
    rw [toJson_eq] at h
    refine h.bind_record? (by simp) fun r hof => ?_
    simp only [Option.bind_eq_bind]
    rw [hof.required? (by simp) rfl ref.uri.readsBack.reads, Option.bind_some,
      hof.required? (by simp) rfl ref.cid.readsBack.reads, Option.bind_some]
  present := Json.noConfusion

theorem Label.readsBack (label : Label) : ReadsBack ofNode? toJson label where
  reads h := by
    refine h.bind_record? (by simp) fun r hof => ?_
    simp only [Option.bind_eq_bind]
    rw [hof.required? (by simp [members]) rfl label.src.readsBack.reads, Option.bind_some,
      hof.required? (by simp [members]) rfl (readsBack_str label.uri).reads, Option.bind_some,
      hof.optional? (by simp [members]) rfl fun cid _ => cid.readsBack, Option.bind_some,
      hof.required? (by simp [members]) rfl (readsBack_str label.val).reads, Option.bind_some,
      hof.flag? (by simp [members]) rfl, Option.bind_some,
      hof.required? (by simp [members]) rfl label.cts.readsBack.reads, Option.bind_some,
      hof.optional? (by simp [members]) rfl fun t _ => t.readsBack, Option.bind_some]
  present := Json.noConfusion

/-! ### Accounts -/

theorem ListSummary.readsBack (view : ListSummary) : ReadsBack ofNode? toJson view where
  reads h := by
    refine h.bind_record? (by simp) fun r hof => ?_
    simp only [Option.bind_eq_bind]
    rw [hof.required? (by simp) rfl view.uri.readsBack.reads, Option.bind_some,
      hof.required? (by simp) rfl view.cid.readsBack.reads, Option.bind_some,
      hof.required? (by simp) rfl (readsBack_str view.name).reads, Option.bind_some,
      hof.required? (by simp) rfl (readsBack_str view.purpose).reads, Option.bind_some,
      hof.trailing? (by simp) rfl fun avatar _ => readsBack_str avatar, Option.bind_some,
      hof.trailing? (by simp) rfl fun t _ => t.readsBack, Option.bind_some]
  present := Json.noConfusion

theorem ProfileViewer.readsBack (view : ProfileViewer) : ReadsBack ofNode? toJson view where
  reads h := by
    refine h.bind_record? (by simp) fun r hof => ?_
    simp only [Option.bind_eq_bind]
    rw [hof.flag? (by simp) rfl, Option.bind_some,
      hof.trailing? (by simp) rfl fun list _ => list.readsBack, Option.bind_some,
      hof.flag? (by simp) rfl, Option.bind_some,
      hof.trailing? (by simp) rfl fun uri _ => uri.readsBack, Option.bind_some,
      hof.trailing? (by simp) rfl fun uri _ => uri.readsBack, Option.bind_some,
      hof.trailing? (by simp) rfl fun uri _ => uri.readsBack, Option.bind_some]
  present := Json.noConfusion

theorem ProfileView.readsBack (view : ProfileView) : ReadsBack ofNode? toJson view where
  reads h := by
    refine h.bind_record? (by simp) fun r hof => ?_
    simp only [Option.bind_eq_bind]
    rw [hof.required? (by simp) rfl view.did.readsBack.reads, Option.bind_some,
      hof.required? (by simp) rfl (readsBack_str view.handle).reads, Option.bind_some,
      hof.trailing? (by simp) rfl fun name _ => readsBack_str name, Option.bind_some,
      hof.trailing? (by simp) rfl fun avatar _ => readsBack_str avatar, Option.bind_some,
      hof.trailing? (by simp) rfl fun viewer _ => viewer.readsBack, Option.bind_some,
      hof.items? (by simp) rfl fun label _ => label.readsBack, Option.bind_some]
  present := Json.noConfusion

theorem BlockedAuthor.readsBack (view : BlockedAuthor) : ReadsBack ofNode? toJson view where
  reads h := by
    refine h.bind_record? (by simp) fun r hof => ?_
    simp only [Option.bind_eq_bind]
    rw [hof.required? (by simp) rfl view.did.readsBack.reads, Option.bind_some,
      hof.trailing? (by simp) rfl fun viewer _ => viewer.readsBack, Option.bind_some]
  present := Json.noConfusion

/-! ### Records in an embed -/

theorem ListView.readsBack (view : ListView) : ReadsBack ofNode? toJson view where
  reads h := by
    refine h.bind_record? (by simp) fun r hof => ?_
    simp only [Option.bind_eq_bind]
    rw [hof.required? (by simp [members]) rfl view.uri.readsBack.reads, Option.bind_some,
      hof.required? (by simp [members]) rfl view.cid.readsBack.reads, Option.bind_some,
      hof.required? (by simp [members]) rfl view.creator.readsBack.reads, Option.bind_some,
      hof.required? (by simp [members]) rfl (readsBack_str view.name).reads, Option.bind_some,
      hof.required? (by simp [members]) rfl (readsBack_str view.purpose).reads, Option.bind_some,
      hof.trailing? (by simp [members]) rfl fun text _ => readsBack_str text, Option.bind_some,
      hof.trailing? (by simp [members]) rfl fun avatar _ => readsBack_str avatar, Option.bind_some,
      hof.required? (by simp [members]) rfl view.indexedAt.readsBack.reads, Option.bind_some,
      hof.items? (by simp [members]) rfl fun label _ => label.readsBack, Option.bind_some]
  present := Json.noConfusion

theorem GeneratorViewer.readsBack (view : GeneratorViewer) : ReadsBack ofNode? toJson view where
  reads h := by
    refine h.bind_record? (by simp) fun r hof => ?_
    simp only [Option.bind_eq_bind]
    rw [hof.trailing? (by simp) rfl fun uri _ => uri.readsBack, Option.bind_some]
  present := Json.noConfusion

theorem GeneratorView.readsBack (view : GeneratorView) : ReadsBack ofNode? toJson view where
  reads h := by
    refine h.bind_record? (by simp) fun r hof => ?_
    simp only [Option.bind_eq_bind]
    rw [hof.required? (by simp [members]) rfl view.uri.readsBack.reads, Option.bind_some,
      hof.required? (by simp [members]) rfl view.cid.readsBack.reads, Option.bind_some,
      hof.required? (by simp [members]) rfl view.did.readsBack.reads, Option.bind_some,
      hof.required? (by simp [members]) rfl view.creator.readsBack.reads, Option.bind_some,
      hof.required? (by simp [members]) rfl (readsBack_str view.displayName).reads,
      Option.bind_some,
      hof.trailing? (by simp [members]) rfl fun text _ => readsBack_str text, Option.bind_some,
      hof.trailing? (by simp [members]) rfl fun avatar _ => readsBack_str avatar, Option.bind_some,
      hof.required? (by simp [members]) rfl (readsBack_count view.likeCount).reads,
      Option.bind_some,
      hof.trailing? (by simp [members]) rfl fun viewer _ => viewer.readsBack, Option.bind_some,
      hof.required? (by simp [members]) rfl view.indexedAt.readsBack.reads, Option.bind_some,
      hof.items? (by simp [members]) rfl fun label _ => label.readsBack, Option.bind_some]
  present := Json.noConfusion

theorem QuoteView.readsBack (view : QuoteView) : ReadsBack ofNode? toJson view where
  reads h := by
    have hvalue : ∀ {node : JsonNode}, node.Holds (id view.value) →
        node.toJson? = some view.value := JsonNode.Holds.value
    refine h.bind_record? (by simp) fun r hof => ?_
    simp only [Option.bind_eq_bind]
    rw [hof.required? (by simp [members]) rfl view.uri.readsBack.reads, Option.bind_some,
      hof.required? (by simp [members]) rfl view.cid.readsBack.reads, Option.bind_some,
      hof.required? (by simp [members]) rfl view.author.readsBack.reads, Option.bind_some,
      hof.required? (by simp [members]) rfl hvalue, Option.bind_some,
      hof.items? (by simp [members]) rfl fun label _ => label.readsBack, Option.bind_some,
      hof.required? (by simp [members]) rfl (readsBack_count view.replyCount).reads,
      Option.bind_some,
      hof.required? (by simp [members]) rfl (readsBack_count view.repostCount).reads,
      Option.bind_some,
      hof.required? (by simp [members]) rfl (readsBack_count view.likeCount).reads,
      Option.bind_some,
      hof.required? (by simp [members]) rfl view.indexedAt.readsBack.reads, Option.bind_some]
  present := Json.noConfusion

theorem MissingRecord.toJson_eq (view : MissingRecord) : view.toJson = Json.record [
    ("uri", some view.uri.toJson), ("notFound", some (.bool view.notFound))] := rfl

theorem MissingRecord.readsBack (view : MissingRecord) : ReadsBack ofNode? toJson view where
  reads h := by
    rw [toJson_eq] at h
    refine h.bind_record? (by simp) fun r hof => ?_
    simp only [Option.bind_eq_bind]
    rw [hof.required? (by simp) rfl view.uri.readsBack.reads, Option.bind_some,
      hof.required? (by simp) rfl (readsBack_bool view.notFound).reads, Option.bind_some]
  present := Json.noConfusion

theorem BlockedRecord.toJson_eq (view : BlockedRecord) : view.toJson = Json.record [
    ("uri", some view.uri.toJson),
    ("blocked", some (.bool view.blocked)),
    ("author", some view.author.toJson)] := rfl

theorem BlockedRecord.readsBack (view : BlockedRecord) : ReadsBack ofNode? toJson view where
  reads h := by
    rw [toJson_eq] at h
    refine h.bind_record? (by simp) fun r hof => ?_
    simp only [Option.bind_eq_bind]
    rw [hof.required? (by simp) rfl view.uri.readsBack.reads, Option.bind_some,
      hof.required? (by simp) rfl (readsBack_bool view.blocked).reads, Option.bind_some,
      hof.required? (by simp) rfl view.author.readsBack.reads, Option.bind_some]
  present := Json.noConfusion

theorem RecordSlot.readsBack (form : JsonNode.TagForm) (slot : RecordSlot) :
    ReadsBack (ofNode? form) toJson slot where
  reads h := by
    cases slot with
    | quote view =>
      refine h.bind_tagged? rfl (by simp) (by simp) fun content hcontent => ?_
      change quote <$> QuoteView.ofNode? content = _
      rw [view.readsBack.reads hcontent]
      rfl
    | missing view =>
      refine h.bind_tagged? view.toJson_eq (by simp) (by simp) fun content hcontent => ?_
      change missing <$> MissingRecord.ofNode? content = _
      rw [view.readsBack.reads hcontent]
      rfl
    | blocked view =>
      refine h.bind_tagged? view.toJson_eq (by simp) (by simp) fun content hcontent => ?_
      change blocked <$> BlockedRecord.ofNode? content = _
      rw [view.readsBack.reads hcontent]
      rfl
    | generator view =>
      refine h.bind_tagged? rfl (by simp) (by simp) fun content hcontent => ?_
      change generator <$> GeneratorView.ofNode? content = _
      rw [view.readsBack.reads hcontent]
      rfl
    | list view =>
      refine h.bind_tagged? rfl (by simp) (by simp) fun content hcontent => ?_
      change list <$> ListView.ofNode? content = _
      rw [view.readsBack.reads hcontent]
      rfl
  present := by cases slot <;> exact Json.noConfusion

/-! ### Embeds -/

theorem AspectRatio.toJson_eq (ratio : AspectRatio) : ratio.toJson = Json.record [
    ("width", some (Json.nat ratio.width)), ("height", some (Json.nat ratio.height))] := rfl

theorem AspectRatio.readsBack (ratio : AspectRatio) : ReadsBack ofNode? toJson ratio where
  reads h := by
    rw [toJson_eq] at h
    refine h.bind_record? (by simp) fun r hof => ?_
    simp only [Option.bind_eq_bind]
    rw [hof.required? (by simp) rfl (readsBack_count ratio.width).reads, Option.bind_some,
      hof.required? (by simp) rfl (readsBack_count ratio.height).reads, Option.bind_some]
  present := Json.noConfusion

theorem ImageView.readsBack (view : ImageView) : ReadsBack ofNode? toJson view where
  reads h := by
    refine h.bind_record? (by simp) fun r hof => ?_
    simp only [Option.bind_eq_bind]
    rw [hof.required? (by simp) rfl (readsBack_str view.thumb).reads, Option.bind_some,
      hof.required? (by simp) rfl (readsBack_str view.fullsize).reads, Option.bind_some,
      hof.required? (by simp) rfl (readsBack_str view.alt).reads, Option.bind_some,
      hof.trailing? (by simp) rfl fun ratio _ => ratio.readsBack, Option.bind_some]
  present := Json.noConfusion

theorem LinkView.readsBack (view : LinkView) : ReadsBack ofNode? toJson view where
  reads h := by
    refine h.bind_record? (by simp) fun r hof => ?_
    simp only [Option.bind_eq_bind]
    rw [hof.required? (by simp) rfl (readsBack_str view.uri).reads, Option.bind_some,
      hof.required? (by simp) rfl (readsBack_str view.title).reads, Option.bind_some,
      hof.required? (by simp) rfl (readsBack_str view.description).reads, Option.bind_some,
      hof.trailing? (by simp) rfl fun thumb _ => readsBack_str thumb, Option.bind_some]
  present := Json.noConfusion

namespace MediaView

/-- The name of the variant. -/
def tag : MediaView → String
  | images _ => "app.bsky.embed.images#view"
  | external _ => "app.bsky.embed.external#view"

/-- The members of the variant. -/
def fields : MediaView → List (String × Option Json)
  | images views => [("images", some (Json.listOf ImageView.toJson views))]
  | external view => [("external", some view.toJson)]

theorem toJson_eq (view : MediaView) : view.toJson = (Json.record view.fields).tagged view.tag := by
  cases view <;> rfl

theorem nodup_fields (view : MediaView) : (view.fields.map Prod.fst).Nodup := by
  cases view <;> simp [fields]

theorem type_notMem_fields (view : MediaView) : "$type" ∉ view.fields.map Prod.fst := by
  cases view <;> simp [fields]

theorem ofTagged?_of_holds (view : MediaView) {content : JsonNode}
    (h : content.Holds (Json.record view.fields)) : ofTagged? ⟨view.tag, content⟩ = some view := by
  cases view with
  | images views =>
    have hviews : ReadsBack (JsonNode.list? ImageView.ofNode?) (Json.listOf ImageView.toJson)
        views := JsonNode.readsBack_list fun view _ => view.readsBack
    simp only [ofTagged?, tag]
    refine h.bind_record? (by simp [fields]) fun r hof => ?_
    rw [hof.required? (by simp) rfl hviews.reads]
    rfl
  | external view =>
    simp only [ofTagged?, tag]
    refine h.bind_record? (by simp [fields]) fun r hof => ?_
    rw [hof.required? (by simp) rfl view.readsBack.reads]
    rfl

theorem readsBack (form : JsonNode.TagForm) (view : MediaView) :
    ReadsBack (ofNode? form) toJson view where
  reads h := by
    rw [toJson_eq] at h
    exact h.bind_tagged? rfl view.nodup_fields view.type_notMem_fields
      fun content hcontent => view.ofTagged?_of_holds hcontent
  present := by cases view <;> exact Json.noConfusion

end MediaView

namespace EmbedView

theorem innerJson_eq (slot : RecordSlot) :
    innerJson slot = Json.record [("record", some slot.toJson)] := rfl

theorem readsBack_inner (slot : RecordSlot) : ReadsBack inner? innerJson slot where
  reads h := by
    rw [innerJson_eq] at h
    refine h.bind_record? (by simp) fun r hof => ?_
    exact hof.required? (by simp) rfl (slot.readsBack .nameOrIndex).reads
  present := Json.noConfusion

theorem pairJson_eq (slot : RecordSlot) (beside : MediaView) :
    Json.object [("record", innerJson slot), ("media", beside.toJson)] =
      Json.record [("record", some (innerJson slot)), ("media", some beside.toJson)] := rfl

theorem readsBack (form : JsonNode.TagForm) (view : EmbedView) :
    ReadsBack (ofNode? form) toJson view where
  reads h := by
    cases view with
    | media view =>
      change JsonNode.Holds _ view.toJson at h
      rw [MediaView.toJson_eq] at h
      refine h.bind_tagged? rfl view.nodup_fields view.type_notMem_fields
        fun content hcontent => ?_
      have hmedia := view.ofTagged?_of_holds hcontent
      -- The reader chooses by the tag, which is known only once the variant is.
      cases view with
      | images views => exact congrArg (Option.map media) hmedia
      | external view => exact congrArg (Option.map media) hmedia
    | record slot =>
      refine h.bind_tagged? (innerJson_eq slot) (by simp) (by simp) fun content hcontent => ?_
      change record <$> inner? content = _
      rw [(readsBack_inner slot).reads hcontent]
      rfl
    | recordWithMedia slot beside =>
      refine h.bind_tagged? (pairJson_eq slot beside) (by simp) (by simp)
        fun content hcontent => ?_
      rw [pairJson_eq] at hcontent
      refine hcontent.bind_record? (by simp) fun r hof => ?_
      simp only [Option.bind_eq_bind]
      rw [hof.required? (by simp) rfl (readsBack_inner slot).reads, Option.bind_some,
        hof.required? (by simp) rfl (beside.readsBack .nameOrIndex).reads, Option.bind_some]
  present := by
    cases view with
    | media view => exact (view.readsBack form).present
    | record slot => exact Json.noConfusion
    | recordWithMedia slot beside => exact Json.noConfusion

end EmbedView

/-! ### Posts and their places in a feed -/

theorem PostViewer.readsBack (view : PostViewer) : ReadsBack ofNode? toJson view where
  reads h := by
    refine h.bind_record? (by simp) fun r hof => ?_
    simp only [Option.bind_eq_bind]
    rw [hof.trailing? (by simp) rfl fun uri _ => uri.readsBack, Option.bind_some,
      hof.trailing? (by simp) rfl fun uri _ => uri.readsBack, Option.bind_some]
  present := Json.noConfusion

theorem PostView.readsBack (form : JsonNode.TagForm) (view : PostView) :
    ReadsBack (ofNode? form) toJson view where
  reads h := by
    have hrecord : ∀ {node : JsonNode}, node.Holds (id view.record) →
        node.toJson? = some view.record := JsonNode.Holds.value
    refine h.bind_record? (by simp) fun r hof => ?_
    simp only [Option.bind_eq_bind]
    rw [hof.required? (by simp [members]) rfl view.uri.readsBack.reads, Option.bind_some,
      hof.required? (by simp [members]) rfl view.cid.readsBack.reads, Option.bind_some,
      hof.required? (by simp [members]) rfl view.author.readsBack.reads, Option.bind_some,
      hof.required? (by simp [members]) rfl hrecord, Option.bind_some,
      hof.trailing? (by simp [members]) rfl fun embed _ => embed.readsBack form, Option.bind_some,
      hof.required? (by simp [members]) rfl (readsBack_count view.replyCount).reads,
      Option.bind_some,
      hof.required? (by simp [members]) rfl (readsBack_count view.repostCount).reads,
      Option.bind_some,
      hof.required? (by simp [members]) rfl (readsBack_count view.likeCount).reads,
      Option.bind_some,
      hof.required? (by simp [members]) rfl view.indexedAt.readsBack.reads, Option.bind_some,
      hof.trailing? (by simp [members]) rfl fun viewer _ => viewer.readsBack, Option.bind_some,
      hof.items? (by simp [members]) rfl fun label _ => label.readsBack, Option.bind_some]
  present := Json.noConfusion

theorem ReplySlot.readsBack (form : JsonNode.TagForm) (slot : ReplySlot) :
    ReadsBack (ofNode? form) toJson slot where
  reads h := by
    cases slot with
    | post view =>
      refine h.bind_tagged? rfl (by simp) (by simp) fun content hcontent => ?_
      change post <$> PostView.ofNode? .nameOrIndex content = _
      rw [(view.readsBack .nameOrIndex).reads hcontent]
      rfl
    | missing view =>
      refine h.bind_tagged? view.toJson_eq (by simp) (by simp) fun content hcontent => ?_
      change missing <$> MissingRecord.ofNode? content = _
      rw [view.readsBack.reads hcontent]
      rfl
    | blocked view =>
      refine h.bind_tagged? view.toJson_eq (by simp) (by simp) fun content hcontent => ?_
      change blocked <$> BlockedRecord.ofNode? content = _
      rw [view.readsBack.reads hcontent]
      rfl
  present := by cases slot <;> exact Json.noConfusion

theorem ReplyView.toJson_eq (view : ReplyView) : view.toJson = Json.record [
    ("root", some view.root.toJson), ("parent", some view.parent.toJson)] := rfl

theorem ReplyView.readsBack (form : JsonNode.TagForm) (view : ReplyView) :
    ReadsBack (ofNode? form) toJson view where
  reads h := by
    rw [toJson_eq] at h
    refine h.bind_record? (by simp) fun r hof => ?_
    simp only [Option.bind_eq_bind]
    rw [hof.required? (by simp) rfl (view.root.readsBack form).reads, Option.bind_some,
      hof.required? (by simp) rfl (view.parent.readsBack form).reads, Option.bind_some]
  present := Json.noConfusion

theorem RepostReason.content_eq (view : RepostReason) :
    Json.object [("by", view.reposter.toJson), ("indexedAt", view.indexedAt.toJson)] =
      Json.record [("by", some view.reposter.toJson), ("indexedAt", some view.indexedAt.toJson)] :=
  rfl

theorem RepostReason.readsBack (form : JsonNode.TagForm) (view : RepostReason) :
    ReadsBack (ofNode? form) toJson view where
  reads h := by
    refine h.bind_tagged? view.content_eq (by simp) (by simp) fun content hcontent => ?_
    rw [content_eq] at hcontent
    refine hcontent.bind_record? (by simp) fun r hof => ?_
    simp only [Option.bind_eq_bind]
    rw [hof.required? (by simp) rfl view.reposter.readsBack.reads, Option.bind_some,
      hof.required? (by simp) rfl view.indexedAt.readsBack.reads, Option.bind_some]
  present := Json.noConfusion

theorem FeedEntry.readsBack (view : FeedEntry) : ReadsBack ofNode? toJson view where
  reads h := by
    refine h.bind_record? (by simp) fun r hof => ?_
    simp only [Option.bind_eq_bind]
    rw [hof.required? (by simp) rfl (view.post.readsBack .name).reads, Option.bind_some,
      hof.trailing? (by simp) rfl fun reply _ => reply.readsBack .name, Option.bind_some,
      hof.trailing? (by simp) rfl fun reason _ => reason.readsBack .name, Option.bind_some,
      hof.trailing? (by simp) rfl fun text _ => readsBack_str text, Option.bind_some]
  present := Json.noConfusion

/-! ### Pages -/

namespace FeedPage

/-- The members that a page has for its own. -/
def fields (page : FeedPage) : List (String × Option Json) :=
  [("feed", some (Json.listOf FeedEntry.toJson page.feed)), ("cursor", page.cursor.map .str)]

theorem toJson_eq (page : FeedPage) :
    page.toJson = Json.record (Json.openFields page.passthrough page.fields) := rfl

theorem names_fields (page : FeedPage) : page.fields.map Prod.fst = members := rfl

/-- What is handed on is in order and takes neither of the names that a page has for its own. -/
structure IsOpen (page : FeedPage) : Prop where
  sorted : Json.IsSorted page.passthrough
  names : ∀ member ∈ page.passthrough, member.1 ∉ members

theorem readsBack (page : FeedPage) (h : page.IsOpen) : ReadsBack ofNode? toJson page where
  reads hnode := by
    have hfeed : ReadsBack (JsonNode.list? FeedEntry.ofNode?) (Json.listOf FeedEntry.toJson)
        page.feed := JsonNode.readsBack_list fun entry _ => entry.readsBack
    have hnodup := Json.nodup_openFields page.names_fields (by decide) h.sorted h.names
    rw [toJson_eq] at hnode
    rw [ofNode?, hnode.extras? page.names_fields (by decide) h.sorted h.names, Option.bind_eq_bind,
      Option.bind_some]
    refine hnode.bind_record? hnodup fun r hof => ?_
    have hof := hof.of_openFields h.names
    simp only [Option.bind_eq_bind]
    rw [hof.required? (by simp [members]) rfl hfeed.reads, Option.bind_some,
      hof.trailing? (by simp [members]) rfl fun text _ => readsBack_str text, Option.bind_some]
  present := Json.noConfusion

end FeedPage

/-! ### What is written is in order

The bodies of posts are written as they are, so they have to be in order themselves. -/

section Canonical

@[simp] theorem Did.isCanonical_toJson (did : Did) : did.toJson.IsCanonical := trivial

@[simp] theorem Cid.isCanonical_toJson (cid : Cid) : cid.toJson.IsCanonical := trivial

@[simp] theorem AtUri.isCanonical_toJson (uri : AtUri) : uri.toJson.IsCanonical := trivial

@[simp] theorem Instant.isCanonical_toJson (t : Instant) : t.toJson.IsCanonical := trivial

theorem StrongRef.isCanonical_toJson (ref : StrongRef) : ref.toJson.IsCanonical :=
  ref.toJson_eq ▸ Json.isCanonical_record (by simp)

@[simp] theorem Label.isCanonical_toJson (label : Label) : label.toJson.IsCanonical :=
  Json.isCanonical_record (by simp)

@[simp] theorem ListSummary.isCanonical_toJson (view : ListSummary) : view.toJson.IsCanonical :=
  Json.isCanonical_record (by simp)

@[simp] theorem ProfileViewer.isCanonical_toJson (view : ProfileViewer) :
    view.toJson.IsCanonical :=
  Json.isCanonical_record (by simp)

@[simp] theorem ProfileView.isCanonical_toJson (view : ProfileView) : view.toJson.IsCanonical :=
  Json.isCanonical_record (by simp)

@[simp] theorem BlockedAuthor.isCanonical_toJson (view : BlockedAuthor) :
    view.toJson.IsCanonical :=
  Json.isCanonical_record (by simp)

@[simp] theorem ListView.isCanonical_toJson (view : ListView) : view.toJson.IsCanonical :=
  Json.isCanonical_record (by simp)

@[simp] theorem GeneratorViewer.isCanonical_toJson (view : GeneratorViewer) :
    view.toJson.IsCanonical :=
  Json.isCanonical_record (by simp)

@[simp] theorem GeneratorView.isCanonical_toJson (view : GeneratorView) :
    view.toJson.IsCanonical :=
  Json.isCanonical_record (by simp)

theorem QuoteView.isCanonical_toJson {view : QuoteView} (h : view.value.IsCanonical) :
    view.toJson.IsCanonical :=
  Json.isCanonical_record (by simp [h])

@[simp] theorem MissingRecord.isCanonical_toJson (view : MissingRecord) :
    view.toJson.IsCanonical :=
  view.toJson_eq ▸ Json.isCanonical_record (by simp)

@[simp] theorem BlockedRecord.isCanonical_toJson (view : BlockedRecord) :
    view.toJson.IsCanonical :=
  view.toJson_eq ▸ Json.isCanonical_record (by simp)

@[simp] theorem AspectRatio.isCanonical_toJson (ratio : AspectRatio) : ratio.toJson.IsCanonical :=
  ratio.toJson_eq ▸ Json.isCanonical_record (by simp)

@[simp] theorem ImageView.isCanonical_toJson (view : ImageView) : view.toJson.IsCanonical :=
  Json.isCanonical_record (by simp)

@[simp] theorem LinkView.isCanonical_toJson (view : LinkView) : view.toJson.IsCanonical :=
  Json.isCanonical_record (by simp)

@[simp] theorem MediaView.isCanonical_toJson (view : MediaView) : view.toJson.IsCanonical := by
  rw [toJson_eq]
  refine Json.isCanonical_tagged (Json.isCanonical_record ?_)
  cases view <;> simp [fields]

@[simp] theorem PostViewer.isCanonical_toJson (view : PostViewer) : view.toJson.IsCanonical :=
  Json.isCanonical_record (by simp)

/-- The body of a quoted post is in order. -/
def RecordSlot.IsCanonical : RecordSlot → Prop
  | quote view => view.value.IsCanonical
  | missing _ | blocked _ | generator _ | list _ => True

theorem RecordSlot.isCanonical_toJson {slot : RecordSlot} (h : slot.IsCanonical) :
    slot.toJson.IsCanonical := by
  cases slot with
  | quote view => exact Json.isCanonical_tagged (QuoteView.isCanonical_toJson h)
  | missing view => exact Json.isCanonical_tagged view.isCanonical_toJson
  | blocked view => exact Json.isCanonical_tagged view.isCanonical_toJson
  | generator view => exact Json.isCanonical_tagged view.isCanonical_toJson
  | list view => exact Json.isCanonical_tagged view.isCanonical_toJson

def EmbedView.IsCanonical : EmbedView → Prop
  | media _ => True
  | record slot | recordWithMedia slot _ => slot.IsCanonical

theorem EmbedView.isCanonical_innerJson {slot : RecordSlot} (h : slot.IsCanonical) :
    (innerJson slot).IsCanonical := by
  rw [innerJson_eq]
  exact Json.isCanonical_record (by simp [RecordSlot.isCanonical_toJson h])

theorem EmbedView.isCanonical_toJson {view : EmbedView} (h : view.IsCanonical) :
    view.toJson.IsCanonical := by
  cases view with
  | media view => exact view.isCanonical_toJson
  | record slot => exact Json.isCanonical_tagged (isCanonical_innerJson h)
  | recordWithMedia slot beside =>
    rw [toJson, pairJson_eq]
    refine Json.isCanonical_tagged (Json.isCanonical_record ?_)
    simp [isCanonical_innerJson h]

/-- The body of a post and that of a post quoted in it are in order. -/
structure PostView.IsCanonical (view : PostView) : Prop where
  record : view.record.IsCanonical
  embed : ∀ embed ∈ view.embed, embed.IsCanonical

theorem PostView.isCanonical_toJson {view : PostView} (h : view.IsCanonical) :
    view.toJson.IsCanonical := by
  have hembed : ∀ embed ∈ view.embed, embed.toJson.IsCanonical :=
    fun embed hembed => EmbedView.isCanonical_toJson (h.embed embed hembed)
  exact Json.isCanonical_record (by simpa [h.record] using hembed)

def ReplySlot.IsCanonical : ReplySlot → Prop
  | post view => view.IsCanonical
  | missing _ | blocked _ => True

theorem ReplySlot.isCanonical_toJson {slot : ReplySlot} (h : slot.IsCanonical) :
    slot.toJson.IsCanonical := by
  cases slot with
  | post view => exact Json.isCanonical_tagged (PostView.isCanonical_toJson h)
  | missing view => exact Json.isCanonical_tagged view.isCanonical_toJson
  | blocked view => exact Json.isCanonical_tagged view.isCanonical_toJson

structure ReplyView.IsCanonical (view : ReplyView) : Prop where
  root : view.root.IsCanonical
  parent : view.parent.IsCanonical

theorem ReplyView.isCanonical_toJson {view : ReplyView} (h : view.IsCanonical) :
    view.toJson.IsCanonical := by
  rw [toJson_eq]
  refine Json.isCanonical_record ?_
  simp [ReplySlot.isCanonical_toJson h.root, ReplySlot.isCanonical_toJson h.parent]

@[simp] theorem RepostReason.isCanonical_toJson (view : RepostReason) :
    view.toJson.IsCanonical := by
  rw [toJson, content_eq]
  exact Json.isCanonical_tagged (Json.isCanonical_record (by simp))

structure FeedEntry.IsCanonical (view : FeedEntry) : Prop where
  post : view.post.IsCanonical
  reply : ∀ reply ∈ view.reply, reply.IsCanonical

theorem FeedEntry.isCanonical_toJson {view : FeedEntry} (h : view.IsCanonical) :
    view.toJson.IsCanonical := by
  have hreply : ∀ reply ∈ view.reply, reply.toJson.IsCanonical :=
    fun reply hreply => ReplyView.isCanonical_toJson (h.reply reply hreply)
  exact Json.isCanonical_record (by simpa [PostView.isCanonical_toJson h.post] using hreply)

/-- A page with all its free parts in order. -/
structure FeedPage.IsCanonical (page : FeedPage) : Prop extends page.IsOpen where
  values : Json.HaveCanonical page.passthrough
  feed : ∀ entry ∈ page.feed, entry.IsCanonical

theorem FeedPage.isCanonical_toJson {page : FeedPage} (h : page.IsCanonical) :
    page.toJson.IsCanonical := by
  have hfeed : ∀ entry ∈ page.feed, entry.toJson.IsCanonical :=
    fun entry hentry => FeedEntry.isCanonical_toJson (h.feed entry hentry)
  rw [toJson_eq]
  exact Json.isCanonical_openFields h.values (by simpa [fields] using hfeed)

end Canonical

/-! ### The forms in which views go out -/

/-- Each form in which views go out gives the view back when it is read. -/
theorem views_read_back :
    (∀ page : FeedPage, page.IsCanonical → FeedPage.ofNode? (ofJson page.toJson) = some page) ∧
    (∀ entry : FeedEntry, entry.IsCanonical →
      FeedEntry.ofNode? (ofJson entry.toJson) = some entry) ∧
    (∀ form, ∀ view : PostView, view.IsCanonical →
      PostView.ofNode? form (ofJson view.toJson) = some view) ∧
    (∀ view : ProfileView, ProfileView.ofNode? (ofJson view.toJson) = some view) ∧
    (∀ form, ∀ slot : ReplySlot, slot.IsCanonical →
      ReplySlot.ofNode? form (ofJson slot.toJson) = some slot) ∧
    (∀ form, ∀ reason : RepostReason,
      RepostReason.ofNode? form (ofJson reason.toJson) = some reason) ∧
    (∀ form, ∀ embed : EmbedView, embed.IsCanonical →
      EmbedView.ofNode? form (ofJson embed.toJson) = some embed) ∧
    (∀ form, ∀ slot : RecordSlot, slot.IsCanonical →
      RecordSlot.ofNode? form (ofJson slot.toJson) = some slot) ∧
    (∀ label : Label, Label.ofNode? (ofJson label.toJson) = some label) ∧
    (∀ ref : StrongRef, StrongRef.ofNode? (ofJson ref.toJson) = some ref) :=
  ⟨fun page h => (page.readsBack h.toIsOpen).value (FeedPage.isCanonical_toJson h),
    fun entry h => entry.readsBack.value (FeedEntry.isCanonical_toJson h),
    fun form view h => (view.readsBack form).value (PostView.isCanonical_toJson h),
    fun view => view.readsBack.value view.isCanonical_toJson,
    fun form slot h => (slot.readsBack form).value (ReplySlot.isCanonical_toJson h),
    fun form reason => (reason.readsBack form).value reason.isCanonical_toJson,
    fun form embed h => (embed.readsBack form).value (EmbedView.isCanonical_toJson h),
    fun form slot h => (slot.readsBack form).value (RecordSlot.isCanonical_toJson h),
    fun label => label.readsBack.value label.isCanonical_toJson,
    fun ref => ref.readsBack.value ref.isCanonical_toJson⟩

namespace Sample

def writer : Did := ⟨"did:plc:writer", by decide, by decide⟩

def draft : AtUri := ⟨writer, "app.bsky.feed.draft", "d", by decide, by decide, by decide⟩

def draftCid : Cid := ⟨"bbbbbbbbb", by decide, by decide⟩

def dawn : Instant := ⟨-1, 2, 28, 6, 30, 60, 50000, by decide, by decide⟩

def writerProfile : ProfileView :=
  ⟨writer, "writer.test", none, none, some ⟨false, none, true, none, none, none⟩, []⟩

/-- A post that quotes itself beside no images. -/
def draftView : PostView :=
  ⟨draft, draftCid, writerProfile, .obj [("a", .null), ("b", .obj [])],
    some (.recordWithMedia
      (.quote ⟨draft, draftCid, writerProfile, .arr [.obj []],
        [⟨writer, "", none, "!hide", true, dawn, none⟩], 0, 0, 0, dawn⟩)
      (.images [])),
    0, 0, 0, dawn, none, []⟩

def writtenPage : FeedPage :=
  ⟨[("feeds", .bool true)],
    [⟨draftView, some ⟨.missing ⟨draft, true⟩, .blocked ⟨draft, true, ⟨writer, none⟩⟩⟩,
      some ⟨writerProfile, dawn⟩, none⟩],
    none⟩

theorem isCanonical_draftView : draftView.IsCanonical where
  record := by
    have hsorted : List.Pairwise (· < ·) ["a", "b"] := by decide
    exact ⟨hsorted, trivial, ⟨List.Pairwise.nil, trivial⟩, trivial⟩
  embed _ h := by
    cases h
    exact ⟨⟨List.Pairwise.nil, trivial⟩, trivial⟩

theorem isCanonical_writtenPage : writtenPage.IsCanonical where
  sorted := List.pairwise_singleton ..
  names _ h := by
    cases List.mem_singleton.1 h
    decide
  values := ⟨trivial, trivial⟩
  feed _ h := by
    cases List.mem_singleton.1 h
    refine ⟨isCanonical_draftView, fun _ hreply => ?_⟩
    cases hreply
    exact ⟨trivial, trivial⟩

theorem writtenPage_read_back :
    writtenPage.IsCanonical ∧ draftView.IsCanonical ∧
      FeedPage.ofNode? (ofJson writtenPage.toJson) = some writtenPage ∧
      PostView.ofNode? .nameOrIndex (ofJson draftView.toJson) = some draftView := by
  obtain ⟨hpage, -, hpost, -⟩ := views_read_back
  exact ⟨isCanonical_writtenPage, isCanonical_draftView, hpage _ isCanonical_writtenPage,
    hpost .nameOrIndex _ isCanonical_draftView⟩

end Sample

end FeedHydration
