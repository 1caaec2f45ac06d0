import FeedHydration.Feed.Assembly
import FeedHydration.Proofs.Hydration

/-!
# Items

The items of a page share its tables of posts, accounts, labels and embeds. Nothing of this can be
seen: without an outage each item is judged and shown as on a page that has read the whole index.
-/

namespace FeedHydration

open Std (ExtTreeMap)

/-- The page that has read the whole index. -/
def Index.hydration (index : Index) (images : ImageService) (nameBytes : Nat)
    (viewer : Option Did) : Hydration where
  posts := tabulate index.tables.posts (index.tables.post? viewer)
  reposts := tabulate index.tables.reposts index.tables.repost?
  actors := tabulate index.tables.actors (index.actor? nameBytes viewer .withoutLabels)
  labels := index.labelSet
  embeds := tabulate index.tables.posts (index.embed? images nameBytes viewer)

namespace Hydration

variable {index : Index} {images : ImageService} {nameBytes : Nat} {viewer : Option Did}
  {items : List SkeletonItem} {item : SkeletonItem} {h : Hydration}

/-! ### The whole page -/

theorem getElem?_posts_hydration (uri : AtUri) :
    (index.hydration images nameBytes viewer).posts[uri]? = index.tables.post? viewer uri :=
  getElem?_tabulate (fun _ => Tables.post?_of_none) uri

theorem getElem?_reposts_hydration (uri : AtUri) :
    (index.hydration images nameBytes viewer).reposts[uri]? = index.tables.repost? uri :=
  getElem?_tabulate (fun _ => Tables.repost?_of_none) uri

theorem getElem?_actors_hydration (did : Did) :
    (index.hydration images nameBytes viewer).actors[did]? =
      index.actor? nameBytes viewer .withoutLabels did :=
  getElem?_tabulate (fun _ => Index.actor?_of_none) did

theorem getElem?_embeds_hydration (uri : AtUri) :
    (index.hydration images nameBytes viewer).embeds[uri]? =
      index.embed? images nameBytes viewer uri := by
  apply getElem?_tabulate
  intro uri hnone
  rw [Index.embed?, Tables.post?_of_none hnone]
  rfl

/-! ### What an item leads to -/

theorem post_mem_reached (hitem : item ∈ items) :
    item.post ∈ index.tables.reached viewer items :=
  List.mem_flatMap.2 ⟨item, hitem, List.mem_cons_self⟩

theorem ancestor_mem_reached (hitem : item ∈ items) {post : Post}
    (hpost : index.tables.post? viewer item.post = some post) {a : Post.Ancestors}
    (ha : post.ancestors? = some a) {uri : AtUri} (huri : uri = a.root ∨ uri = a.parent) :
    uri ∈ index.tables.reached viewer items := by
  have hancestor : uri ∈ index.tables.ancestorsOf viewer item.post :=
    Tables.mem_ancestorsOf.2 ⟨post, hpost, a, ha, huri⟩
  exact List.mem_flatMap.2 ⟨item, hitem, List.mem_cons_of_mem _ hancestor⟩

theorem authority_mem_involved {uri : AtUri} (huri : uri ∈ index.tables.reached viewer items) :
    uri.authority ∈ index.tables.involved viewer items :=
  List.mem_append_left _ (List.mem_map_of_mem huri)

theorem originator_mem_involved (hitem : item ∈ items) {uri : AtUri} {repost : Repost}
    (huri : item.repost = some uri) (hrepost : index.tables.repost? uri = some repost) :
    repost.originator ∈ index.tables.involved viewer items := by
  apply List.mem_append_right
  apply List.mem_map_of_mem
  exact List.mem_filterMap.2 ⟨item, hitem, by rw [huri, Option.bind_some, hrepost]⟩

/-! ### A page looks like the whole page -/

section Agree

variable (hpage : h.IsOf index images nameBytes viewer items) (hout : index.outage = none)

include hpage

theorem getElem?_posts {uri : AtUri} (huri : uri ∈ index.tables.reached viewer items) :
    h.posts[uri]? = (index.hydration images nameBytes viewer).posts[uri]? := by
  rw [hpage.posts.getElem?_of_mem huri, getElem?_posts_hydration]

theorem getElem?_actors {did : Did} (hdid : did ∈ index.tables.involved viewer items) :
    h.actors[did]? = (index.hydration images nameBytes viewer).actors[did]? := by
  rw [hpage.actors.getElem?_of_mem hdid, getElem?_actors_hydration]

theorem getElem?_reposts (hitem : item ∈ items) {uri : AtUri} (huri : item.repost = some uri) :
    h.reposts[uri]? = (index.hydration images nameBytes viewer).reposts[uri]? := by
  rw [hpage.reposts.getElem?_of_mem (List.mem_filterMap.2 ⟨item, hitem, huri⟩),
    getElem?_reposts_hydration]

theorem agree_of_mem {subject : String} (hmem : subject ∈ index.tables.subjects viewer items) :
    (h.display images).Agree ((index.hydration images nameBytes viewer).display images)
      subject where
  images := rfl
  labels := (hpage.labels.get_of_mem hmem).trans (index.get_labelSet subject).symm

theorem agree_record {uri : AtUri} (huri : uri ∈ index.tables.reached viewer items) :
    (h.display images).Agree ((index.hydration images nameBytes viewer).display images)
      uri.text :=
  agree_of_mem hpage (List.mem_append_right _ (List.mem_map_of_mem huri))

theorem agree_account {did : Did} (hdid : did ∈ index.tables.involved viewer items) :
    (h.display images).Agree ((index.hydration images nameBytes viewer).display images)
      did.text :=
  agree_of_mem hpage (List.mem_append_left _ (List.mem_map_of_mem hdid))

theorem ownerIsBlocked_eq {uri : AtUri} (huri : uri ∈ index.tables.reached viewer items) :
    h.ownerIsBlocked uri = (index.hydration images nameBytes viewer).ownerIsBlocked uri := by
  rw [ownerIsBlocked, ownerIsBlocked, getElem?_actors hpage (authority_mem_involved huri)]

theorem repliesToBlocked_eq (hitem : item ∈ items) {post : Post}
    (hpost : index.tables.post? viewer item.post = some post) :
    h.repliesToBlocked post =
      (index.hydration images nameBytes viewer).repliesToBlocked post := by
  unfold repliesToBlocked
  cases ha : post.ancestors? with
  | none => rfl
  | some a =>
    rw [Option.any_some, Option.any_some,
      ownerIsBlocked_eq hpage (ancestor_mem_reached hitem hpost ha (Or.inl rfl)),
      ownerIsBlocked_eq hpage (ancestor_mem_reached hitem hpost ha (Or.inr rfl))]

theorem reposter?_eq (hitem : item ∈ items) {uri : AtUri} (huri : item.repost = some uri) :
    h.reposter? uri = (index.hydration images nameBytes viewer).reposter? uri := by
  unfold reposter?
  rw [getElem?_reposts hpage hitem huri, getElem?_reposts_hydration]
  cases hrepost : index.tables.repost? uri with
  | none => rfl
  | some repost =>
    exact getElem?_actors hpage (originator_mem_involved hitem huri hrepost)

/-- The verdict on an item is its own. -/
theorem judge_eq (hitem : item ∈ items) :
    h.judge item = (index.hydration images nameBytes viewer).judge item := by
  have hreached : item.post ∈ index.tables.reached viewer items := post_mem_reached hitem
  unfold judge
  rw [getElem?_posts hpage hreached, getElem?_posts_hydration]
  cases hpost : index.tables.post? viewer item.post with
  | none => rfl
  | some post =>
    have hauthor : post.author ∈ index.tables.involved viewer items := by
      rw [Tables.author_of_post? hpost]
      exact authority_mem_involved hreached
    have hjudge : h.judgePost post = (index.hydration images nameBytes viewer).judgePost post := by
      funext author reposters
      rw [judgePost, judgePost, repliesToBlocked_eq hpage hitem hpost]
    dsimp only
    rw [getElem?_actors hpage hauthor, hjudge]
    cases hrepost : item.repost with
    | none => rfl
    | some uri => simp only [reposter?_eq hpage hitem hrepost]

theorem reason?_eq (hitem : item ∈ items) :
    h.reason? images item = (index.hydration images nameBytes viewer).reason? images item := by
  unfold reason?
  cases huri : item.repost with
  | none => rfl
  | some uri =>
    dsimp only
    rw [getElem?_reposts hpage hitem huri, getElem?_reposts_hydration]
    cases hrepost : index.tables.repost? uri with
    | none => rfl
    | some repost =>
      have horiginator : repost.originator ∈ index.tables.involved viewer items :=
        originator_mem_involved hitem huri hrepost
      rw [Option.bind_eq_bind, Option.bind_eq_bind, Option.bind_some, Option.bind_some,
        getElem?_actors hpage horiginator, getElem?_actors_hydration]
      cases hreposter : index.actor? nameBytes viewer .withoutLabels repost.originator with
      | none => rfl
      | some reposter =>
        have hagree := agree_account hpage horiginator
        rw [← Index.did_of_actor? hreposter] at hagree
        simp only [Option.bind_some, Display.profile_congr hagree]

include hout

theorem getElem?_embeds {uri : AtUri} (huri : uri ∈ index.tables.reached viewer items) :
    h.embeds[uri]? = (index.hydration images nameBytes viewer).embeds[uri]? := by
  rw [(hpage.wholeEmbeds hout).getElem?_of_mem huri, getElem?_embeds_hydration]

theorem postView?_eq {uri : AtUri} (huri : uri ∈ index.tables.reached viewer items) {post : Post}
    (hpost : index.tables.post? viewer uri = some post) {author : Actor}
    (hauthor : index.actor? nameBytes viewer .withoutLabels uri.authority = some author) :
    (h.display images).postView? post author h.embeds[uri]? =
      ((index.hydration images nameBytes viewer).display images).postView? post author
        (index.hydration images nameBytes viewer).embeds[uri]? := by
  have hrecord := agree_record hpage huri
  have howner := agree_account hpage (authority_mem_involved huri)
  rw [← Tables.uri_of_post? hpost] at hrecord
  rw [← Index.did_of_actor? hauthor] at howner
  rw [getElem?_embeds hpage hout huri, Display.postView?_congr hrecord howner]

theorem replySlot_eq {uri : AtUri} (huri : uri ∈ index.tables.reached viewer items) :
    h.replySlot images uri = (index.hydration images nameBytes viewer).replySlot images uri := by
  unfold replySlot
  rw [getElem?_posts hpage huri, getElem?_posts_hydration]
  cases hpost : index.tables.post? viewer uri with
  | none => rfl
  | some post =>
    have howner : uri.authority ∈ index.tables.involved viewer items := authority_mem_involved huri
    simp only [Tables.author_of_post? hpost]
    rw [getElem?_actors hpage howner, getElem?_actors_hydration]
    cases hauthor : index.actor? nameBytes viewer .withoutLabels uri.authority with
    | none => rfl
    | some author => simp only [postView?_eq hpage hout huri hpost hauthor]

/-- The entry of an item is its own. -/
theorem entryOf?_eq (hitem : item ∈ items) :
    h.entryOf? images item = (index.hydration images nameBytes viewer).entryOf? images item := by
  have hreached : item.post ∈ index.tables.reached viewer items := post_mem_reached hitem
  unfold entryOf?
  rw [getElem?_posts hpage hreached, getElem?_posts_hydration, reason?_eq hpage hitem]
  cases hpost : index.tables.post? viewer item.post with
  | none => rfl
  | some post =>
    have hreply : (post.ancestors?.map fun a => (⟨h.replySlot images a.root,
          h.replySlot images a.parent⟩ : ReplyView)) =
        post.ancestors?.map fun a =>
          ⟨(index.hydration images nameBytes viewer).replySlot images a.root,
            (index.hydration images nameBytes viewer).replySlot images a.parent⟩ := by
      cases ha : post.ancestors? with
      | none => rfl
      | some a =>
        rw [Option.map_some, Option.map_some,
          replySlot_eq hpage hout (ancestor_mem_reached hitem hpost ha (Or.inl rfl)),
          replySlot_eq hpage hout (ancestor_mem_reached hitem hpost ha (Or.inr rfl))]
    simp only [Option.bind_eq_bind, Option.bind_some, hreply, Tables.author_of_post? hpost,
      Tables.uri_of_post? hpost, getElem?_actors hpage (authority_mem_involved hreached),
      getElem?_actors_hydration]
    cases hauthor : index.actor? nameBytes viewer .withoutLabels item.post.authority with
    | none => rfl
    | some author =>
      simp only [Option.bind_some, postView?_eq hpage hout hreached hpost hauthor]

end Agree

end Hydration

end FeedHydration
