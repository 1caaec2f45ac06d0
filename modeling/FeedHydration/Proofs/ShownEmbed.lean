import FeedHydration.Proofs.EmbedContent
import FeedHydration.Proofs.Value

/-!
# The embed of the record that is shown

A stored body is read twice. It is shown as a value, in which the last of several members of one
name stands; and its embed is resolved from a record that must not repeat `embed` and that an array
may stand for. On a body that names `embed` once or not at all both see the same embed, so what a
post embeds on a page is what its record there says.
-/

namespace FeedHydration

open Std (ExtTreeMap)

namespace JsonNode

/-- An object that gives a name more than once. -/
def Repeats : JsonNode → String → Prop
  | .obj members, name => 1 < (members.map Prod.fst).count name
  | _, _ => False

instance (document : JsonNode) (name : String) : Decidable (document.Repeats name) :=
  match document with
  | .obj members => inferInstanceAs (Decidable (1 < (members.map Prod.fst).count name))
  | .null | .bool _ | .num _ | .str _ | .arr _ | .unreadable => isFalse id

end JsonNode

namespace PostEmbed

variable {body : Bytes} {document : JsonNode} {record : Json}

/-- The embed that a record has as a value: what its member `embed` can be read as. -/
def ofRecord? (record : Json) : Option PostEmbed :=
  (record.get? "embed").bind fun value => ofNode? (.ofJson value)

/-- A list of one thing, which can be read as an embed itself. -/
def IsListed : Json → Prop
  | .arr [item] => ofNode? (.ofJson item) ≠ none
  | _ => False

instance (record : Json) : Decidable (IsListed record) :=
  match record with
  | .arr [item] => inferInstanceAs (Decidable (ofNode? (.ofJson item) ≠ none))
  | .null | .bool _ | .num _ | .str _ | .arr [] | .arr (_ :: _ :: _) | .obj _ => isFalse id

/-- A body that names `embed` once or not at all, and does not list an embed in its place. -/
structure IsPlain (body : Bytes) : Prop where
  once : ∀ document ∈ JsonNode.ofBytes? body, ¬ document.Repeats "embed"
  unlisted : ∀ record ∈ Json.ofBytes? body, ¬ IsListed record

instance (body : Bytes) : Decidable (IsPlain body) :=
  decidable_of_iff ((∀ document ∈ JsonNode.ofBytes? body, ¬ document.Repeats "embed") ∧
      ∀ record ∈ Json.ofBytes? body, ¬ IsListed record)
    ⟨fun h => ⟨h.1, h.2⟩, fun h => ⟨h.once, h.unlisted⟩⟩

/-! ### Reading a body twice -/

/-- The embed of a body that is a document. -/
def ofDocument? (document : JsonNode) : Option PostEmbed := do
  let r ← document.record? ["embed"]
  let value ← (← r.trailing? "embed" JsonNode.toJson?)
  ofNode? (JsonNode.ofJson value)

theorem ofBody?_eq (h : JsonNode.ofBytes? body = some document) :
    ofBody? body = ofDocument? document := by
  rw [ofBody?, h]
  rfl

/-- A record whose `embed` is null has no embed. -/
theorem ofNode?_null : ofNode? .null = none := rfl

/-- What stands in the place of the embed is read as an embed, null included. -/
theorem ofNode?_of_given {node : JsonNode} {value : Json} (h : node.toJson? = some value) :
    ((JsonNode.nullable? JsonNode.toJson? node).bind fun given =>
      given.bind fun value => ofNode? (.ofJson value)) = ofNode? (.ofJson value) := by
  cases node with
  | null =>
    cases h
    exact ofNode?_null.symm
  | _ => simp [JsonNode.nullable?, h]

theorem ofDocument?_obj {members : List (String × JsonNode)} :
    ofDocument? (.obj members) = (JsonNode.findMember? "embed" members).bind fun
      | .given node => (JsonNode.nullable? JsonNode.toJson? node).bind fun given =>
          given.bind fun value => ofNode? (.ofJson value)
      | _ => none := by
  unfold ofDocument? JsonNode.record? JsonNode.named?
  cases hmember : JsonNode.findMember? "embed" members with
  | none => simp [hmember]
  | some m =>
    cases m <;> simp [hmember, JsonNode.Record.trailing?, JsonNode.Record.defaulted?,
      JsonNode.Record.member]

/-- A body that repeats `embed` cannot be read as a record, and has no embed. -/
theorem ofDocument?_of_repeats (h : document.Repeats "embed") : ofDocument? document = none := by
  cases document with
  | obj members => rw [ofDocument?_obj, JsonNode.findMember?_eq_none_iff.2 h, Option.bind_none]
  | _ => exact h.elim

theorem ofDocument?_obj_eq {members : List (String × JsonNode)} {written : List (String × Json)}
    (hwritten : JsonNode.toJsonMembers? members = some written)
    (honce : ¬ (JsonNode.obj members).Repeats "embed") :
    ofDocument? (.obj members) = ofRecord? (Json.object written) := by
  rw [ofDocument?_obj, ofRecord?]
  cases hfound : JsonNode.findMember? "embed" members with
  | none => exact absurd (JsonNode.findMember?_eq_none_iff.1 hfound) honce
  | some m =>
    have hget : (Json.object written).get? "embed" = m.value? :=
      JsonNode.lookup_sortMembers_of_findMember? hwritten hfound
    rw [hget]
    cases m with
    | given node =>
      have hsole := JsonNode.findMember?_eq_given_iff.1 hfound
      obtain ⟨value, hvalue⟩ := JsonNode.exists_toJson?_of_mem hwritten hsole.mem
      rw [JsonNode.Member.value?, hvalue]
      exact ofNode?_of_given hvalue
    | absent => rfl
    | cutOff => exact absurd hfound JsonNode.findMember?_ne_cutOff

/-- An array stands for a record with its one item for the embed. -/
theorem ofDocument?_arr {items : List JsonNode} (h : (JsonNode.arr items).toJson? = some record)
    (hunlisted : ¬ IsListed record) :
    ofDocument? (.arr items) = none := by
  rw [JsonNode.toJson?, Option.map_eq_some_iff] at h
  obtain ⟨written, hwritten, rfl⟩ := h
  match items, hwritten with
  | [], _ => rfl
  | [item], hwritten =>
    simp only [JsonNode.toJsonItems?, Option.bind_eq_bind, Option.bind_some,
      Option.bind_eq_some_iff, Option.some.injEq] at hwritten
    obtain ⟨value, hvalue, rfl⟩ := hwritten
    exact (ofNode?_of_given hvalue).trans (not_ne_iff.1 hunlisted)
  | _ :: _ :: _, _ => rfl

/-- A plain body has the embed of the record that it is shown as. -/
theorem IsPlain.ofBody?_eq (h : IsPlain body) (hrecord : Json.ofBytes? body = some record) :
    ofBody? body = ofRecord? record := by
  obtain ⟨document, hdocument, hvalue⟩ := Option.bind_eq_some_iff.1 hrecord
  rw [PostEmbed.ofBody?_eq hdocument]
  cases document with
  | obj members =>
    obtain ⟨written, hwritten, rfl⟩ := Option.map_eq_some_iff.1 hvalue
    exact ofDocument?_obj_eq hwritten (h.once _ hdocument)
  | arr items =>
    obtain ⟨written, -, rfl⟩ := Option.map_eq_some_iff.1 hvalue
    exact ofDocument?_arr hvalue (h.unlisted _ hrecord)
  | _ => cases hvalue <;> rfl

end PostEmbed

/-! ### Posts that are shown -/

theorem Display.embed_of_postView? {d : Display} {post : Post} {author : Actor}
    {c : EmbedContext} {view : PostView} (hplain : PostEmbed.IsPlain post.body)
    (h : d.postView? post author (c.view? post) = some view) :
    view.embed = (PostEmbed.ofRecord? view.record).bind fun embed =>
      c.embedView? ⟨post, embed⟩ := by
  obtain ⟨record, hrecord, hview⟩ := Option.bind_eq_some_iff.1 h
  cases hview
  rw [EmbedContext.view?, EmbedHost.ofPost?, hplain.ofBody?_eq hrecord, Option.bind_map]
  rfl

namespace Fetch

variable {index : Index} {images : ImageService} {nameBytes : Nat} {viewer : Option Did}

/-- Posts that are kept by their uris do not take the embeds of one another. -/
theorem getElem?_embedRows_values (c : EmbedContext) {posts : ExtTreeMap AtUri Post}
    (hposts : ∀ (uri : AtUri) (post : Post), posts[uri]? = some post → post.uri = uri)
    {uri : AtUri} {post : Post} (hpost : posts[uri]? = some post) :
    (ExtTreeMap.ofList (embedRows c (posts.values.filterMap EmbedHost.ofPost?)))[uri]? =
      c.view? post := by
  have hlookup : IsLookup (ExtTreeMap.ofList (embedRows c (posts.values.filterMap
      EmbedHost.ofPost?))) posts.keys fun uri => posts[uri]?.bind c.view? := by
    apply IsLookup.of_rows
    intro uri view
    rw [EmbedContext.embedRows_eq]
    simp only [List.mem_filterMap, Option.map_eq_some_iff, Prod.mk.injEq, mem_values,
      mem_keys_iff_exists, Option.bind_eq_some_iff]
    constructor
    · rintro ⟨post, ⟨id, hid⟩, _, hview, rfl, rfl⟩
      rw [hposts id post hid]
      exact ⟨⟨post, hid⟩, post, hid, hview⟩
    · rintro ⟨-, post, hpost, hview⟩
      exact ⟨post, ⟨uri, hpost⟩, view, hview, hposts uri post hpost, rfl⟩
  rw [hlookup.getElem?_of_mem (mem_keys_iff_exists.2 ⟨post, hpost⟩), hpost,
    Option.bind_some]

/-- The embeds of a page are resolved in one context, each post's own embed for it. -/
theorem exists_context_of_hydrate {items : List SkeletonItem} {page : Hydration}
    (h : (hydrate images nameBytes items viewer).Gives index page) :
    ∃ hosts known labels c,
      (embedContext images nameBytes hosts viewer known labels).Gives index c ∧
        ∀ (uri : AtUri) (post : Post), page.posts[uri]? = some post →
          page.embeds[uri]? = c.view? post := by
  have hposts : ∀ (uri : AtUri) (post : Post), page.posts[uri]? = some post → post.uri = uri :=
    fun uri post hpost => Tables.uri_of_post? ((hydrate_isOf h).posts.value_eq hpost)
  simp only [hydrate] at h
  split at h
  · rw [gives_pure] at h
    subst h
    obtain ⟨c, hc⟩ : (embedContext images nameBytes [] viewer ∅ LabelSet.empty).Answers index :=
      answers_embedContext images [] ∅ LabelSet.empty
    exact ⟨_, _, _, c, hc, fun uri post hpost => by simp [Hydration.empty] at hpost⟩
  · simp only [gives_bind, gives_pure] at h
    obtain ⟨posts, -, reposts, -, ancestors, -, actors, -, labels, -, views, hviews, rfl⟩ := h
    obtain ⟨c, hc, rfl⟩ := exists_context_of_embeds hviews
    exact ⟨_, _, _, c, hc, fun uri post hpost => getElem?_embedRows_values c hposts hpost⟩

end Fetch

/-- **What is resolved is what is shown.** The embed of a plain body is that of the record that the
body is shown as, and a body that repeats `embed` has none. On a page every post with a plain body
is shown with the view of the embed that its record there has, and with none if it has none. -/
theorem PostEmbed.embed_is_shown :
    (∀ body record, Json.ofBytes? body = some record → IsPlain body →
        ofBody? body = ofRecord? record) ∧
      (∀ body document, JsonNode.ofBytes? body = some document → document.Repeats "embed" →
        ofBody? body = none) ∧
      ∀ index images nameBytes items viewer page,
        (Fetch.hydrate images nameBytes items viewer).Gives index page →
          ∃ hosts known labels c,
            (Fetch.embedContext images nameBytes hosts viewer known labels).Gives index c ∧
              ∀ (uri : AtUri) (post : Post), page.posts[uri]? = some post → IsPlain post.body →
                ∀ d author view, Display.postView? d post author page.embeds[uri]? = some view →
                  view.embed = (ofRecord? view.record).bind fun embed =>
                    c.embedView? ⟨post, embed⟩ := by
  refine ⟨fun body record hrecord hplain => hplain.ofBody?_eq hrecord,
    fun body document hdocument hrepeats => ?_,
    fun index images nameBytes items viewer page h => ?_⟩
  · rw [ofBody?_eq hdocument, ofDocument?_of_repeats hrepeats]
  · obtain ⟨hosts, known, labels, c, hc, hembeds⟩ := Fetch.exists_context_of_hydrate h
    refine ⟨hosts, known, labels, c, hc, fun uri post hpost hplain d author view hview => ?_⟩
    rw [hembeds uri post hpost] at hview
    exact Display.embed_of_postView? hplain hview

namespace Sample

/-- A body that gives two embeds, of which the last one is shown. -/
def twofold : Bytes :=
  Utf8.encode ("\x7b\"embed\":null,\"embed\":\x7b\"$type\":\"app.bsky.embed.images\"," ++
    "\"images\":[]\x7d\x7d").toList

/-- A list of one embed, which is shown as a list. -/
def listed : Bytes :=
  Utf8.encode "[\x7b\"$type\":\"app.bsky.embed.images\",\"images\":[]\x7d]".toList

/-- The friend shows the generator that they embed, and a body with two embeds has none. -/
theorem embed_is_shown_sample :
    (∃ record, Json.ofBytes? advert.body = some record ∧ PostEmbed.IsPlain advert.body ∧
        PostEmbed.ofBody? advert.body = PostEmbed.ofRecord? record) ∧
      (∃ document, JsonNode.ofBytes? twofold = some document ∧ document.Repeats "embed" ∧
        PostEmbed.ofBody? twofold = none) ∧
      ∃ page post author view, ∃ c : EmbedContext,
        (Fetch.hydrate service.images 64 [⟨friendPost, none, none⟩] (some viewer)).Gives index
          page ∧ page.posts[friendPost]? = some post ∧ PostEmbed.IsPlain post.body ∧
        (page.display service.images).postView? post author page.embeds[friendPost]? =
          some view ∧
        view.embed = (PostEmbed.ofRecord? view.record).bind fun embed =>
          c.embedView? ⟨post, embed⟩ := by
  obtain ⟨honce, htwice, hpages⟩ := PostEmbed.embed_is_shown
  have hplain : PostEmbed.IsPlain advert.body := by decide +kernel
  obtain ⟨record, hrecord⟩ : ∃ record, Json.ofBytes? advert.body = some record :=
    Option.isSome_iff_exists.1 (by decide +kernel)
  refine ⟨⟨record, hrecord, hplain, honce _ _ hrecord hplain⟩, ?_, ?_⟩
  · obtain ⟨document, hdocument⟩ : ∃ document, JsonNode.ofBytes? twofold = some document :=
      Option.isSome_iff_exists.1 (by decide +kernel)
    have hall : ∀ document ∈ JsonNode.ofBytes? twofold, document.Repeats "embed" := by
      decide +kernel
    exact ⟨document, hdocument, hall _ hdocument, htwice _ _ hdocument (hall _ hdocument)⟩
  · obtain ⟨page, hpage⟩ : (Fetch.hydrate service.images 64 [⟨friendPost, none, none⟩]
        (some viewer)).Answers index := Fetch.answers_hydrate rfl service.images 64 _ _
    obtain ⟨post, hpost⟩ : ∃ post, index.tables.post? (some viewer) friendPost = some post :=
      Option.isSome_iff_exists.1 (by decide +kernel)
    have hbody : ∀ post ∈ index.tables.post? (some viewer) friendPost, post.body = advert.body := by
      decide +kernel
    have hfound : page.posts[friendPost]? = some post :=
      ((Fetch.hydrate_isOf hpage).posts friendPost post).2 ⟨by decide +kernel, hpost⟩
    rw [← hbody post hpost] at hplain hrecord
    let author : Actor := ⟨friend, "", none, none, none, none, none, none, none⟩
    obtain ⟨view, hview⟩ : ∃ view, (page.display service.images).postView? post author
        page.embeds[friendPost]? = some view := by
      simp [Display.postView?, hrecord]
    obtain ⟨_, _, _, c, -, hembeds⟩ := hpages _ _ _ _ _ _ hpage
    exact ⟨page, post, author, view, c, hpage, hfound, hplain, hview,
      hembeds friendPost post hfound hplain _ _ _ hview⟩

end Sample

/-- Of two embeds in one body the last one is shown and none is resolved, and the one embed of a
list is resolved though the list shows none. -/
theorem PostEmbed.exists_embed_not_shown :
    (∃ record, Json.ofBytes? Sample.twofold = some record ∧
        ofRecord? record = some (.media (.images [])) ∧ ofBody? Sample.twofold = none) ∧
      ∃ record, Json.ofBytes? Sample.listed = some record ∧ ofRecord? record = none ∧
        ofBody? Sample.listed = some (.media (.images [])) := by
  have htwofold : ∀ record ∈ Json.ofBytes? Sample.twofold,
      ofRecord? record = some (.media (.images [])) := by
    decide +kernel
  have hlisted : ∀ record ∈ Json.ofBytes? Sample.listed, ofRecord? record = none := by
    decide +kernel
  obtain ⟨first, hfirst⟩ : ∃ record, Json.ofBytes? Sample.twofold = some record :=
    Option.isSome_iff_exists.1 (by decide +kernel)
  obtain ⟨second, hsecond⟩ : ∃ record, Json.ofBytes? Sample.listed = some record :=
    Option.isSome_iff_exists.1 (by decide +kernel)
  exact ⟨⟨first, hfirst, htwofold _ hfirst, by decide +kernel⟩,
    ⟨second, hsecond, hlisted _ hsecond, by decide +kernel⟩⟩

end FeedHydration
