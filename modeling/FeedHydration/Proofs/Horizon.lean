import FeedHydration.Proofs.Plan

/-!
# How far a page looks

A program of reads learns of an index only what it is answered. So a page comes out the same on two
indexes that answer alike, and of their posts only those count that it asks for: the posts of its
items, the posts these reply to, and the posts that any of them embed. All of these are asked for,
and there it stops. What an embedded post embeds or replies to, and what the posts above a reply
reply to, is never looked up, so the rows of other posts may hold anything, or be missing.
-/

namespace FeedHydration

open Std (ExtTreeMap)

/-- Two indexes that answer a viewer alike, except that their posts may differ. -/
structure Index.AnswersLike (viewer : Option Did) (index index' : Index) : Prop where
  outage : index.outage = index'.outage
  clock : index.clock = index'.clock
  actors : ∀ dids, index.tables.selectActors dids = index'.tables.selectActors dids
  reposts : ∀ uris, index.tables.selectReposts uris = index'.tables.selectReposts uris
  generators : ∀ uris,
    index.tables.selectGenerators uris viewer = index'.tables.selectGenerators uris viewer
  lists : ∀ uris, index.tables.selectLists uris viewer = index'.tables.selectLists uris viewer
  labels : ∀ subjects, index.tables.selectLabels subjects = index'.tables.selectLabels subjects
  blocks : ∀ did, viewer = some did → ∀ subjects,
    index.tables.blocksWith did subjects = index'.tables.blocksWith did subjects
  follows : ∀ did, viewer = some did → ∀ subjects,
    index.tables.followsWith did subjects = index'.tables.followsWith did subjects
  mutes : ∀ did, viewer = some did → ∀ subjects,
    index.tables.mutedBy did subjects = index'.tables.mutedBy did subjects
  listMutes : ∀ did, viewer = some did → ∀ subjects,
    index.tables.mutedByLists did subjects = index'.tables.mutedByLists did subjects

/-- Two indexes that answer a viewer alike about accounts and labels, and about records other than
posts. -/
structure Index.AnswersRecordsLike (viewer : Option Did) (index index' : Index) : Prop where
  outage : index.outage = index'.outage
  clock : index.clock = index'.clock
  actors : ∀ dids, index.tables.selectActors dids = index'.tables.selectActors dids
  reposts : ∀ uris, index.tables.selectReposts uris = index'.tables.selectReposts uris
  generators : ∀ uris,
    index.tables.selectGenerators uris viewer = index'.tables.selectGenerators uris viewer
  lists : ∀ uris, index.tables.selectLists uris viewer = index'.tables.selectLists uris viewer
  labels : ∀ subjects, index.tables.selectLabels subjects = index'.tables.selectLabels subjects

/-- Two indexes that answer a viewer alike about the graph, if they are asked only for some
accounts. -/
structure Index.AnswersGraphLike (viewer : Option Did) (among : Did → Prop) (index index' : Index) :
    Prop where
  blocks : ∀ did, viewer = some did → ∀ subjects, (∀ subject ∈ subjects, among subject) →
    index.tables.blocksWith did subjects = index'.tables.blocksWith did subjects
  follows : ∀ did, viewer = some did → ∀ subjects, (∀ subject ∈ subjects, among subject) →
    index.tables.followsWith did subjects = index'.tables.followsWith did subjects
  mutes : ∀ did, viewer = some did → ∀ subjects, (∀ subject ∈ subjects, among subject) →
    index.tables.mutedBy did subjects = index'.tables.mutedBy did subjects
  listMutes : ∀ did, viewer = some did → ∀ subjects, (∀ subject ∈ subjects, among subject) →
    index.tables.mutedByLists did subjects = index'.tables.mutedByLists did subjects

/-- It makes no difference to leave out beforehand what is left out anyway. -/
theorem filter_filter_of_imp {α : Type} {p q : α → Bool} {items : List α}
    (h : ∀ item ∈ items, p item = true → q item = true) :
    (items.filter q).filter p = items.filter p := by
  rw [List.filter_filter]
  apply List.filter_congr
  intro item hmem
  cases hp : p item with
  | false => rfl
  | true => rw [h item hmem hp, Bool.and_self]

namespace Index.AnswersLike

variable {index index' : Index} {viewer : Option Did} (h : index.AnswersLike viewer index')

include h

theorem records : index.AnswersRecordsLike viewer index' :=
  ⟨h.outage, h.clock, h.actors, h.reposts, h.generators, h.lists, h.labels⟩

theorem graph (among : Did → Prop) : index.AnswersGraphLike viewer among index' where
  blocks := fun did hviewer subjects _ => h.blocks did hviewer subjects
  follows := fun did hviewer subjects _ => h.follows did hviewer subjects
  mutes := fun did hviewer subjects _ => h.mutes did hviewer subjects
  listMutes := fun did hviewer subjects _ => h.listMutes did hviewer subjects

end Index.AnswersLike

/-! ### Programs of reads -/

namespace Fetch

variable {α β : Type} {index index' : Index} {viewer : Option Did}

/-- A program that makes the same reads and comes to the same end on two indexes. -/
def RunsAlike (m : Fetch α) (index index' : Index) : Prop :=
  m.run index = m.run index'

theorem runsAlike_pure (a : α) : (Pure.pure a : Fetch α).RunsAlike index index' :=
  rfl

/-- What follows a program has to run alike only for a value that the program gives. -/
theorem RunsAlike.bind {m : Fetch α} {next : α → Fetch β} (hm : m.RunsAlike index index')
    (hnext : ∀ a, m.Gives index a → (next a).RunsAlike index index') :
    (m >>= next).RunsAlike index index' := by
  unfold RunsAlike at hm ⊢
  cases hresult : (m.run index).result with
  | error e => rw [run_bind_of_error hresult, run_bind_of_error (hm ▸ hresult), hm]
  | ok a => rw [run_bind_of_ok hresult, run_bind_of_ok (hm ▸ hresult), hm, hnext a hresult]

theorem RunsAlike.map {m : Fetch α} (hm : m.RunsAlike index index') (f : α → β) :
    (f <$> m).RunsAlike index index' := by
  rw [← bind_pure_comp]
  exact hm.bind fun a _ => runsAlike_pure (f a)

theorem RunsAlike.orElse {m : Fetch α} (hm : m.RunsAlike index index') (fallback : α) :
    (m.orElse fallback).RunsAlike index index' := by
  unfold RunsAlike at hm ⊢
  simp only [Fetch.orElse, hm]

theorem RunsAlike.ite {p : Prop} [Decidable p] {m m' : Fetch α} (hm : m.RunsAlike index index')
    (hm' : m'.RunsAlike index index') : (if p then m else m').RunsAlike index index' := by
  split
  · exact hm
  · exact hm'

section Loads

variable (h : index.AnswersRecordsLike viewer index')

include h

theorem runsAlike_read {kind : ReadKind} {ids : List String} {answer : Tables → α}
    (hanswer : answer index.tables = answer index'.tables) :
    (read kind ids answer).RunsAlike index index' := by
  simp only [RunsAlike, read, hanswer, h.outage]

theorem runsAlike_labelSet (subjects : List String) :
    (labelSet subjects).RunsAlike index index' := by
  have hclock : clock.RunsAlike index index' := by simp only [RunsAlike, clock, h.clock]
  refine RunsAlike.ite (runsAlike_pure _) ?_
  refine (runsAlike_read h (h.labels _)).bind fun _ _ => ?_
  exact hclock.bind fun _ _ => runsAlike_pure _

theorem runsAlike_visibleRows {ρ : Type} (rows : List (AtUri × ρ)) (takenDown : ρ → Bool) :
    (visibleRows rows takenDown).RunsAlike index index' := by
  refine RunsAlike.bind ?_ fun _ _ => runsAlike_pure _
  refine RunsAlike.ite (runsAlike_pure _) ?_
  exact (runsAlike_read h (h.actors _)).bind fun _ _ => runsAlike_pure _

theorem runsAlike_loadPosts {uris : List AtUri}
    (hposts : index.tables.selectPosts (distinct uris) viewer =
      index'.tables.selectPosts (distinct uris) viewer) :
    (loadPosts uris viewer).RunsAlike index index' := by
  refine RunsAlike.ite (runsAlike_pure _) ?_
  refine (runsAlike_read h hposts).bind fun _ _ => ?_
  exact (runsAlike_visibleRows h _ _).bind fun _ _ => runsAlike_pure _

theorem runsAlike_loadReposts (uris : List AtUri) :
    (loadReposts uris).RunsAlike index index' := by
  refine RunsAlike.ite (runsAlike_pure _) ?_
  exact (runsAlike_read h (h.reposts _)).bind fun _ _ => runsAlike_pure _

theorem runsAlike_loadGenerators (uris : List AtUri) :
    (loadGenerators uris viewer).RunsAlike index index' := by
  refine RunsAlike.ite (runsAlike_pure _) ?_
  refine (runsAlike_read h (h.generators _)).bind fun _ _ => ?_
  exact (runsAlike_visibleRows h _ _).bind fun _ _ => runsAlike_pure _

theorem runsAlike_loadLists (uris : List AtUri) :
    (loadLists uris viewer).RunsAlike index index' := by
  refine RunsAlike.ite (runsAlike_pure _) ?_
  refine (runsAlike_read h (h.lists _)).bind fun _ _ => ?_
  exact (runsAlike_visibleRows h _ _).bind fun _ _ => runsAlike_pure _

section Graph

variable {among : Did → Prop} (hgraph : index.AnswersGraphLike viewer among index')

include hgraph

theorem runsAlike_relationships {dids : List Did} (hdids : ∀ did ∈ dids, among did) :
    (relationships dids viewer).RunsAlike index index' := by
  cases viewer with
  | none => exact runsAlike_pure _
  | some viewer =>
    have hsubjects : ∀ subject ∈ distinct (dids.filter (· ≠ viewer)), among subject :=
      fun subject hmem => hdids subject (List.mem_of_mem_filter (mem_distinct.1 hmem))
    refine RunsAlike.ite (runsAlike_pure _) (RunsAlike.bind ?_ fun _ _ => runsAlike_pure _)
    refine (runsAlike_read h (hgraph.blocks viewer rfl _ hsubjects)).bind fun _ _ => ?_
    refine (runsAlike_read h (hgraph.follows viewer rfl _ hsubjects)).bind fun _ _ => ?_
    refine (runsAlike_read h (hgraph.mutes viewer rfl _ hsubjects)).bind fun _ _ => ?_
    exact (runsAlike_read h (hgraph.listMutes viewer rfl _ hsubjects)).bind fun _ _ =>
      runsAlike_pure _

theorem runsAlike_loadActors (nameBytes : Nat) {dids : List Did} (hdids : ∀ did ∈ dids, among did)
    (mode : LabelMode) : (loadActors nameBytes dids viewer mode).RunsAlike index index' := by
  have hlabels : (actorLabels mode (distinct dids)).RunsAlike index index' := by
    cases mode with
    | withLabels => exact (runsAlike_labelSet h _).map _
    | withoutLabels => exact runsAlike_pure _
  have hdistinct : ∀ did ∈ distinct dids, among did := fun did hmem =>
    hdids did (mem_distinct.1 hmem)
  refine RunsAlike.ite (runsAlike_pure _) ?_
  refine (runsAlike_read h (h.actors _)).bind fun _ _ => ?_
  refine (runsAlike_relationships h hgraph hdistinct).bind fun _ _ => ?_
  refine hlabels.bind fun _ _ => ?_
  exact (runsAlike_loadLists h _).bind fun _ _ => runsAlike_pure _

/-- The graph is only asked for accounts that are not known yet. -/
theorem runsAlike_embeds {images : ImageService} {nameBytes : Nat} {posts : List Post}
    {known : ExtTreeMap Did Actor} {labels : LabelSet} (hnew : ∀ did, did ∉ known → among did)
    (hposts : (loadPosts (EmbedHost.targets (posts.filterMap EmbedHost.ofPost?) Collection.post)
      viewer).RunsAlike index index') :
    (embeds images nameBytes posts viewer known labels).RunsAlike index index' := by
  refine RunsAlike.ite (runsAlike_pure _) (RunsAlike.bind ?_ fun targets _ => ?_)
  · refine (hposts.orElse ∅).bind fun _ _ => ?_
    refine ((runsAlike_loadGenerators h _).orElse ∅).bind fun _ _ => ?_
    exact ((runsAlike_loadLists h _).orElse ∅).bind fun _ _ => runsAlike_pure _
  · have howners : ∀ did ∈ targets.newOwners known, among did := fun did hmem =>
      hnew did (EmbedTargets.notMem_of_mem_newOwners hmem)
    refine ((runsAlike_loadActors h hgraph nameBytes howners _).orElse ∅).bind fun _ _ => ?_
    exact ((runsAlike_labelSet h _).orElse LabelSet.empty).bind fun _ _ => runsAlike_pure _

end Graph

end Loads

end Fetch

/-! ### The horizon -/

namespace Tables

/-- The posts that some posts embed, as far as these may be shown. -/
def embedded (t : Tables) (viewer : Option Did) (uris : List AtUri) : List AtUri :=
  EmbedHost.targets ((uris.filterMap (t.post? viewer)).filterMap EmbedHost.ofPost?) Collection.post

/-- All the posts that matter to some items. -/
def horizon (t : Tables) (viewer : Option Did) (items : List SkeletonItem) : List AtUri :=
  t.reached viewer items ++ t.embedded viewer (t.reached viewer items)

theorem selectPosts_congr {t t' : Tables} {viewer : Option Did} {uris : List AtUri}
    (hlikes : t.likes = t'.likes) (hreposts : t.reposts = t'.reposts)
    (hrows : ∀ uri ∈ uris, t.posts[uri]? = t'.posts[uri]?) :
    t.selectPosts uris viewer = t'.selectPosts uris viewer := by
  have hselect : select t.posts uris = select t'.posts uris := by
    apply List.filterMap_congr
    intro uri hmem
    rw [hrows uri hmem]
  simp only [selectPosts, hselect, viewerLike, viewerRepost, hlikes, hreposts]

end Tables

namespace Fetch

variable {index index' : Index} {viewer : Option Did} {items : List SkeletonItem}

/-- The hosts are the posts that were reached, so the posts they embed end the horizon. -/
theorem mem_embedded {posts ancestors : ExtTreeMap AtUri Post}
    (hposts : IsLookup posts (items.map (·.post)) (index.tables.post? viewer))
    (hancestors : IsLookup ancestors (Hydration.ancestors posts) (index.tables.post? viewer))
    {uri : AtUri} :
    uri ∈ EmbedHost.targets ((posts ∪ ancestors).values.filterMap EmbedHost.ofPost?)
        Collection.post ↔
      uri ∈ index.tables.embedded viewer (index.tables.reached viewer items) := by
  have hall := (hposts.union hancestors).congr fun _ => mem_reached hposts
  have hhosts : ∀ post, post ∈ (posts ∪ ancestors).values ↔
      post ∈ (index.tables.reached viewer items).filterMap (index.tables.post? viewer) := by
    intro post
    rw [mem_values, List.mem_filterMap]
    exact exists_congr fun uri => hall uri post
  simp only [Tables.embedded, EmbedHost.mem_targets, List.mem_filterMap (f := EmbedHost.ofPost?),
    hhosts]

/-- A page runs alike on two indexes that answer alike, up to its horizon. -/
theorem runsAlike_hydrate (h : index.AnswersLike viewer index')
    (hposts : ∀ uris, (∀ uri ∈ uris, uri ∈ index.tables.horizon viewer items) →
      index.tables.selectPosts uris viewer = index'.tables.selectPosts uris viewer)
    (images : ImageService) (nameBytes : Nat) :
    (hydrate images nameBytes items viewer).RunsAlike index index' := by
  have hload : ∀ uris, (∀ uri ∈ uris, uri ∈ index.tables.horizon viewer items) →
      (loadPosts uris viewer).RunsAlike index index' := fun uris hmem =>
    runsAlike_loadPosts h.records (hposts _ fun uri huri => hmem uri (mem_distinct.1 huri))
  have hgraph := h.graph fun _ => True
  refine RunsAlike.ite (runsAlike_pure _) ?_
  refine RunsAlike.bind (hload _ ?_) fun posts hgives => ?_
  · intro uri hmem
    obtain ⟨item, hitem, rfl⟩ := List.mem_map.1 hmem
    exact List.mem_append_left _ (List.mem_flatMap.2 ⟨item, hitem, List.mem_cons_self⟩)
  have hitems := loadPosts_isLookup hgives
  refine (runsAlike_loadReposts h.records _).bind fun _ _ => ?_
  refine RunsAlike.bind (hload _ ?_) fun ancestors hgives => ?_
  · intro uri hmem
    exact List.mem_append_left _ ((mem_reached hitems).1 (List.mem_append_right _ hmem))
  have hancestors := loadPosts_isLookup hgives
  refine (runsAlike_loadActors h.records hgraph _ (fun _ _ => trivial) _).bind fun _ _ => ?_
  refine (runsAlike_labelSet h.records _).bind fun _ _ => ?_
  refine (runsAlike_embeds h.records hgraph (fun _ _ => trivial) (hload _ ?_)).bind fun _ _ =>
    runsAlike_pure _
  exact fun uri hmem => List.mem_append_right _ ((mem_embedded hitems hancestors).1 hmem)

end Fetch

/-! ### What is asked for -/

namespace Fetch

variable {α β : Type} {m : Fetch α} {next : α → Fetch β} {plan : List ReadKind} {index : Index}
  {viewer : Option Did} {uri : AtUri}

/-- A program that asks for a post, whether it stands or not. -/
def AsksFor (m : Fetch α) (index : Index) (uri : AtUri) : Prop :=
  ∃ read ∈ (m.run index).reads, read.kind = .posts ∧ uri.text ∈ read.ids

theorem not_asksFor_pure (a : α) : ¬ (Pure.pure a : Fetch α).AsksFor index uri := by
  rintro ⟨read, hmem, -⟩
  cases hmem

theorem not_asksFor_of_follows (hm : m.Follows plan) (hplan : .posts ∉ plan) :
    ¬ m.AsksFor index uri := by
  rintro ⟨read, hmem, hkind, -⟩
  exact hplan (hkind ▸ (hm index).order.subset (List.mem_map_of_mem hmem))

theorem asksFor_bind {a : α} (ha : m.Gives index a) :
    (m >>= next).AsksFor index uri ↔ m.AsksFor index uri ∨ (next a).AsksFor index uri := by
  simp only [AsksFor, run_bind_of_ok ha, List.mem_append, or_and_right, exists_or]

theorem asksFor_bind_left (plan : List ReadKind) (hnext : ∀ a, (next a).Follows plan)
    (hplan : .posts ∉ plan) : (m >>= next).AsksFor index uri ↔ m.AsksFor index uri := by
  cases hresult : (m.run index).result with
  | error e => simp only [AsksFor, run_bind_of_error hresult]
  | ok a => rw [asksFor_bind hresult, or_iff_left (not_asksFor_of_follows (hnext a) hplan)]

theorem asksFor_bind_right {a : α} (ha : m.Gives index a) (hm : m.Follows plan)
    (hplan : .posts ∉ plan) :
    (m >>= next).AsksFor index uri ↔ (next a).AsksFor index uri := by
  rw [asksFor_bind ha, or_iff_right (not_asksFor_of_follows hm hplan)]

theorem asksFor_loadPosts {uris : List AtUri} :
    (loadPosts uris viewer).AsksFor index uri ↔ uri ∈ uris := by
  have hread : (posts (distinct uris) viewer).AsksFor index uri ↔ uri ∈ uris := by
    simp only [AsksFor, posts, read, List.mem_singleton, exists_eq_left, true_and,
      List.mem_map, mem_distinct]
    constructor
    · rintro ⟨uri', hmem, htext⟩
      exact AtUri.text_injective htext ▸ hmem
    · exact fun hmem => ⟨uri, hmem, rfl⟩
  unfold loadPosts
  dsimp only
  split
  · rename_i hempty
    rw [List.isEmpty_iff, distinct_eq_nil] at hempty
    simp only [hempty, List.not_mem_nil, not_asksFor_pure]
  · rw [asksFor_bind_left [.actors] (fun _ => (follows_visibleRows _ _).bind fun _ =>
      follows_pure _) (by decide), hread]

theorem asksFor_embeds {images : ImageService} {nameBytes : Nat} {posts : List Post}
    {known : ExtTreeMap Did Actor} {labels : LabelSet} :
    (embeds images nameBytes posts viewer known labels).AsksFor index uri ↔
      uri ∈ EmbedHost.targets (posts.filterMap EmbedHost.ofPost?) Collection.post := by
  have htargets : ∀ hosts, (embedTargets hosts viewer).AsksFor index uri ↔
      uri ∈ EmbedHost.targets hosts Collection.post := by
    intro hosts
    have hposts : ((loadPosts (EmbedHost.targets hosts Collection.post) viewer).orElse ∅).AsksFor
        index uri ↔ uri ∈ EmbedHost.targets hosts Collection.post := asksFor_loadPosts
    unfold embedTargets
    rw [asksFor_bind_left [.generators, .actors, .lists, .actors] (fun _ =>
      ((follows_loadGenerators _ viewer).orElse ∅).bind fun _ =>
        ((follows_loadLists _ viewer).orElse ∅).bind fun _ => follows_pure _) (by decide), hposts]
  unfold embeds
  dsimp only
  split
  · rename_i hempty
    simp only [List.isEmpty_iff.1 hempty, not_asksFor_pure, EmbedHost.targets, List.filterMap_nil,
      List.filter_nil, List.not_mem_nil]
  · rw [asksFor_bind_left (accountPlan ++ [.labels]) (fun _ =>
      ((follows_loadActors nameBytes _ viewer).orElse ∅).bind fun _ =>
        ((follows_labelSet _).orElse LabelSet.empty).bind fun _ => follows_pure _) (by decide),
      htargets]

end Fetch

/-- **The horizon is what is asked for.** Without an outage, a page asks for a post just if the post
is within the horizon of its items. -/
theorem hydrate_asks_for_horizon (images : ImageService) (nameBytes : Nat)
    (items : List SkeletonItem) (viewer : Option Did) {index : Index} (hout : index.outage = none)
    (uri : AtUri) :
    (Fetch.hydrate images nameBytes items viewer).AsksFor index uri ↔
      uri ∈ index.tables.horizon viewer items := by
  obtain ⟨page, hpage⟩ := Fetch.answers_hydrate hout images nameBytes items viewer
  unfold Fetch.hydrate at hpage ⊢
  dsimp only at hpage ⊢
  split at hpage
  · rename_i hempty
    rw [if_pos hempty, List.isEmpty_iff.1 hempty]
    exact iff_of_false (Fetch.not_asksFor_pure _) List.not_mem_nil
  · rename_i hne
    rw [if_neg hne]
    simp only [Fetch.gives_bind] at hpage
    obtain ⟨posts, hposts, reposts, hreposts, ancestors, hancestors, actors, hactors, labels,
      hlabels, views, hviews, -⟩ := hpage
    have hitems := Fetch.loadPosts_isLookup hposts
    have hancestorPosts := Fetch.loadPosts_isLookup hancestors
    rw [Fetch.asksFor_bind hposts, Fetch.asksFor_loadPosts,
      Fetch.asksFor_bind_right hreposts (Fetch.follows_loadReposts _) (by decide),
      Fetch.asksFor_bind hancestors, Fetch.asksFor_loadPosts,
      Fetch.asksFor_bind_right hactors (Fetch.follows_loadActors _ _ _) (by decide),
      Fetch.asksFor_bind_right hlabels (Fetch.follows_labelSet _) (by decide),
      Fetch.asksFor_bind_left [] (fun _ => Fetch.follows_pure _) (by decide),
      Fetch.asksFor_embeds, Fetch.mem_embedded hitems hancestorPosts, ← or_assoc,
      ← List.mem_append, Fetch.mem_reached hitems, Tables.horizon, List.mem_append]

/-! ### Beyond the horizon -/

def Index.withPosts (index : Index) (posts : ExtTreeMap AtUri PostRow) : Index :=
  { index with tables := { index.tables with posts := posts } }

theorem Index.answersLike_withPosts (index : Index) (posts : ExtTreeMap AtUri PostRow)
    (viewer : Option Did) : index.AnswersLike viewer (index.withPosts posts) := by
  constructor <;> intros <;> rfl

/-- **A page looks one hop far.** Two indexes that differ only in rows of posts beyond the horizon
of some items hydrate the items alike, with the same reads, and whichever reads fail. -/
theorem hydrate_looks_one_hop_far (images : ImageService) (nameBytes : Nat)
    (items : List SkeletonItem) (viewer : Option Did) (index : Index)
    (posts : ExtTreeMap AtUri PostRow)
    (h : ∀ uri ∈ index.tables.horizon viewer items, index.tables.posts[uri]? = posts[uri]?) :
    (Fetch.hydrate images nameBytes items viewer).run index =
      (Fetch.hydrate images nameBytes items viewer).run (index.withPosts posts) := by
  have hlike := index.answersLike_withPosts posts viewer
  refine Fetch.runsAlike_hydrate hlike (fun uris hmem => ?_) images nameBytes
  exact Tables.selectPosts_congr rfl rfl fun uri huri => h uri (hmem uri huri)

namespace Sample

def quoting (uri : AtUri) : String :=
  "\x7b\"embed\":\x7b\"$type\":\"app.bsky.embed.record\",\"record\":\x7b\"uri\":\"" ++
    uri.text ++ "\",\"cid\":\"" ++ cid.text ++ "\"\x7d\x7d\x7d"

def thread : AtUri :=
  ⟨foe, Collection.post, "2", friendPost.collection_grammatical, by decide, by decide⟩

def distant : AtUri :=
  ⟨foe, Collection.post, "3", friendPost.collection_grammatical, by decide, by decide⟩

/-- The friend quotes the foe in a reply. Both the post that is quoted and the thread lead on to a
distant post, which leads back to the friend. -/
def circle : Index :=
  { index with
    tables := { tables with
      posts := ExtTreeMap.ofList [
        (friendPost, { postRow (quoting foePost) with replyParent := some ⟨thread, cid⟩ }),
        (foePost, postRow (quoting distant)),
        (thread, { postRow "\x7b\x7d" with replyParent := some ⟨distant, cid⟩ }),
        (distant, postRow (quoting friendPost))] } }

theorem horizon_circle : circle.tables.horizon (some viewer) [⟨friendPost, none, none⟩] =
    [friendPost, thread, thread, foePost] := by
  decide +kernel

/-- The distant post may as well be gone. -/
theorem hydrate_looks_one_hop_circle :
    circle.tables.posts[distant]? ≠ (circle.tables.posts.erase distant)[distant]? ∧
      (Fetch.hydrate ⟨"https://cdn.test"⟩ 64 [⟨friendPost, none, none⟩] (some viewer)).run circle =
        (Fetch.hydrate ⟨"https://cdn.test"⟩ 64 [⟨friendPost, none, none⟩] (some viewer)).run
          (circle.withPosts (circle.tables.posts.erase distant)) := by
  refine ⟨by decide +kernel, hydrate_looks_one_hop_far _ _ _ _ _ _ fun uri hmem => ?_⟩
  have hne : uri ≠ distant := by
    rintro rfl
    rw [horizon_circle] at hmem
    exact absurd hmem (by decide)
  rw [ExtTreeMap.getElem?_erase, if_neg]
  intro heq
  exact hne (Std.LawfulEqOrd.eq_of_compare heq).symm

end Sample

end FeedHydration
