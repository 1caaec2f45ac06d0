import FeedHydration.Feed.Assembly
import FeedHydration.Proofs.Horizon
import FeedHydration.Proofs.Page

/-!
# Privacy

A request reads the graph only as far as it concerns its viewer. Blocks and follows between other
people, their mutes, likes and lists can be taken out of the tables, and nothing changes: not the
page, not an error, not even the reads. Without a viewer the whole graph can be taken out.
-/

namespace FeedHydration

namespace Tables

/-- The tables with nothing of the graph left but what concerns a viewer. -/
def seenBy (t : Tables) : Option Did → Tables
  | none => { t with
      blocks := []
      follows := []
      mutes := []
      subscriptions := []
      listItems := []
      likes := [] }
  | some viewer => { t with
      blocks := t.blocks.filter fun edge => edge.creator = viewer || edge.subject = viewer
      follows := t.follows.filter fun edge => edge.creator = viewer || edge.subject = viewer
      mutes := t.mutes.filter fun mute => mute.creator = viewer
      subscriptions := t.subscriptions.filter fun subscription => subscription.subscriber = viewer
      listItems := t.listItems.filter fun item => t.subscriptions.contains ⟨viewer, item.list⟩
      likes := t.likes.filter fun like => like.creator = viewer }

variable (t : Tables) (viewer : Option Did)

/-! ### Answers -/

theorem selectActors_seenBy (dids : List Did) :
    (t.seenBy viewer).selectActors dids = t.selectActors dids := by
  cases viewer <;> rfl

theorem selectReposts_seenBy (uris : List AtUri) :
    (t.seenBy viewer).selectReposts uris = t.selectReposts uris := by
  cases viewer <;> rfl

theorem selectLabels_seenBy (subjects : List String) :
    (t.seenBy viewer).selectLabels subjects = t.selectLabels subjects := by
  cases viewer <;> rfl

theorem viewerLike_seenBy (subject : AtUri) :
    (t.seenBy viewer).viewerLike viewer subject = t.viewerLike viewer subject := by
  cases viewer with
  | none => rfl
  | some viewer =>
    simp only [viewerLike, seenBy, Option.bind_some, List.find?_filter]
    congr 2
    funext like
    by_cases hcreator : like.creator = viewer <;> simp [hcreator]

theorem viewerRepost_seenBy (subject : AtUri) :
    (t.seenBy viewer).viewerRepost viewer subject = t.viewerRepost viewer subject := by
  cases viewer <;> rfl

theorem viewerMutes_seenBy (list : AtUri) :
    (t.seenBy viewer).viewerMutes viewer list = t.viewerMutes viewer list := by
  cases viewer with
  | none => rfl
  | some viewer =>
    simp only [viewerMutes, seenBy, Option.any_some, List.any_filter]
    congr 1
    funext subscription
    by_cases hsubscriber : subscription.subscriber = viewer <;> simp [hsubscriber]

theorem selectPosts_seenBy (uris : List AtUri) :
    (t.seenBy viewer).selectPosts uris viewer = t.selectPosts uris viewer := by
  simp only [selectPosts, viewerLike_seenBy, viewerRepost_seenBy]
  cases viewer <;> rfl

theorem selectGenerators_seenBy (uris : List AtUri) :
    (t.seenBy viewer).selectGenerators uris viewer = t.selectGenerators uris viewer := by
  simp only [selectGenerators, viewerLike_seenBy]
  cases viewer <;> rfl

theorem selectLists_seenBy (uris : List AtUri) :
    (t.seenBy viewer).selectLists uris viewer = t.selectLists uris viewer := by
  simp only [selectLists, viewerMutes_seenBy]
  cases viewer <;> rfl

section Graph

variable (viewer : Did) (subjects : List Did)

/-- An edge that joins the viewer and a subject has the viewer at one end. -/
theorem filter_joins_filter (edges : List GraphEdge) :
    (edges.filter fun edge => edge.creator = viewer || edge.subject = viewer).filter
      (joins viewer subjects) = edges.filter (joins viewer subjects) := by
  apply filter_filter_of_imp
  intro edge _ hjoins
  simp only [joins, Bool.or_eq_true, Bool.and_eq_true] at hjoins ⊢
  exact hjoins.imp And.left And.left

theorem blocksWith_seenBy :
    (t.seenBy (some viewer)).blocksWith viewer subjects = t.blocksWith viewer subjects :=
  filter_joins_filter viewer subjects t.blocks

theorem followsWith_seenBy :
    (t.seenBy (some viewer)).followsWith viewer subjects = t.followsWith viewer subjects :=
  filter_joins_filter viewer subjects t.follows

theorem mutedBy_seenBy :
    (t.seenBy (some viewer)).mutedBy viewer subjects = t.mutedBy viewer subjects := by
  refine congrArg (List.map _) (filter_filter_of_imp fun mute _ hmute => ?_)
  exact (Bool.and_eq_true_iff.1 hmute).1

theorem mutedByLists_seenBy :
    (t.seenBy (some viewer)).mutedByLists viewer subjects = t.mutedByLists viewer subjects := by
  simp only [mutedByLists, seenBy, List.filter_filter, Bool.and_self]
  apply List.flatMap_congr
  intro subscription hmem
  obtain ⟨hmem, hsubscriber⟩ := List.mem_filter.1 hmem
  rw [← List.filter_filter]
  apply filter_filter_of_imp
  intro item _ hitem
  simp only [Bool.and_eq_true, decide_eq_true_eq] at hitem
  rw [hitem.1, List.contains_iff_mem, ← of_decide_eq_true hsubscriber]
  exact hmem

end Graph

end Tables

/-- The index as far as it concerns a viewer. -/
def Index.seenBy (index : Index) (viewer : Option Did) : Index :=
  { index with tables := index.tables.seenBy viewer }

/-! ### Programs of reads -/

/-- Every answer that a request of the viewer gets is the same. -/
theorem Index.answersLike_seenBy (index : Index) (viewer : Option Did) :
    index.AnswersLike viewer (index.seenBy viewer) where
  outage := rfl
  clock := rfl
  actors := fun dids => (index.tables.selectActors_seenBy viewer dids).symm
  reposts := fun uris => (index.tables.selectReposts_seenBy viewer uris).symm
  generators := fun uris => (index.tables.selectGenerators_seenBy viewer uris).symm
  lists := fun uris => (index.tables.selectLists_seenBy viewer uris).symm
  labels := fun subjects => (index.tables.selectLabels_seenBy viewer subjects).symm
  blocks := by
    rintro did rfl subjects
    exact (index.tables.blocksWith_seenBy did subjects).symm
  follows := by
    rintro did rfl subjects
    exact (index.tables.followsWith_seenBy did subjects).symm
  mutes := by
    rintro did rfl subjects
    exact (index.tables.mutedBy_seenBy did subjects).symm
  listMutes := by
    rintro did rfl subjects
    exact (index.tables.mutedByLists_seenBy did subjects).symm

namespace Fetch

variable {viewer : Option Did}

/-- A program for which the index may as well hold only what concerns a viewer. -/
def IsPrivate {α : Type} (m : Fetch α) (viewer : Option Did) : Prop :=
  ∀ index : Index, m.run (index.seenBy viewer) = m.run index

theorem isPrivate_loadGenerators (uris : List AtUri) :
    (loadGenerators uris viewer).IsPrivate viewer := fun index =>
  (runsAlike_loadGenerators (index.answersLike_seenBy viewer).records uris).symm

theorem isPrivate_hydrate (images : ImageService) (nameBytes : Nat) (items : List SkeletonItem) :
    (hydrate images nameBytes items viewer).IsPrivate viewer := by
  intro index
  have hposts : ∀ uris, index.tables.selectPosts uris viewer =
      (index.seenBy viewer).tables.selectPosts uris viewer :=
    fun uris => (index.tables.selectPosts_seenBy viewer uris).symm
  exact (runsAlike_hydrate (index.answersLike_seenBy viewer) (fun uris _ => hposts uris) images
    nameBytes).symm

end Fetch

/-! ### Requests -/

/-- Surroundings that are alike in all that concerns a viewer. The time that the stages take may
differ. -/
structure Surroundings.AlikeFor (viewer : Option Did) (s s' : Surroundings) : Prop where
  tables : s.index.tables.seenBy viewer = s'.index.tables.seenBy viewer
  outage : s.index.outage = s'.index.outage
  clock : s.index.clock = s'.index.clock
  resolver : s.resolver = s'.resolver
  generator : s.generator = s'.generator
  giveUp : s.giveUp = s'.giveUp

theorem Fetch.IsPrivate.run_eq {α : Type} {m : Fetch α} {viewer : Option Did}
    (hm : m.IsPrivate viewer) {s s' : Surroundings} (h : s.AlikeFor viewer s') :
    m.run s.index = m.run s'.index := by
  have hseen : s.index.seenBy viewer = s'.index.seenBy viewer := by
    simp only [Index.seenBy, h.tables, h.outage, h.clock]
  rw [← hm s.index, hseen, hm s'.index]

/-- An outcome without the time it took. -/
def FeedOutcome.untimed (outcome : FeedOutcome) : FeedPage × Headers × OmittedCounts :=
  (outcome.page, ⟨outcome.headers.fields.filter (·.1 ≠ HeaderName.serverTiming)⟩, outcome.omitted)

theorem FeedOutcome.untimed_assemble (images : ImageService) (skeleton : Skeleton)
    (filtered : Filtered) (h : Hydration) (limit : Nat) (timings timings' : StageTimings) :
    (assemble images skeleton filtered h limit timings).untimed =
      (assemble images skeleton filtered h limit timings').untimed := by
  simp [untimed, assemble, headersOf]

namespace Serve

variable {α β : Type} {viewer : Option Did}

/-- A part of a request for which only that counts which concerns a viewer. -/
def IsPrivate (m : Serve α) (viewer : Option Did) : Prop :=
  ∀ s s' : Surroundings, s.AlikeFor viewer s' → m.run s = m.run s'

theorem isPrivate_ofExcept (result : Except FeedError α) :
    (ofExcept result).IsPrivate viewer :=
  fun _ _ _ => rfl

theorem isPrivate_fetch {m : Fetch α} (hm : m.IsPrivate viewer) : (fetch m).IsPrivate viewer := by
  intro s s' h
  simp only [fetch, hm.run_eq h]

theorem isPrivate_exchange (request : HttpRequest) (timeout : Option Nat) :
    (exchange request timeout).IsPrivate viewer := by
  intro s s' h
  simp only [exchange, h.generator, h.giveUp]

theorem IsPrivate.bind {m : Serve α} {next : α → Serve β} (hm : m.IsPrivate viewer)
    (hnext : ∀ a, (next a).IsPrivate viewer) : (m >>= next).IsPrivate viewer := by
  intro s s' h
  rw [run_bind, run_bind, hm s s' h]
  cases (m.run s').result with
  | error e => rfl
  | ok a => simp only [hnext a s s' h]

theorem isPrivate_feedEndpoint (options : FeedOptions) (feed : AtUri) :
    (feedEndpoint options feed viewer).IsPrivate viewer := by
  unfold feedEndpoint
  split
  · exact isPrivate_ofExcept _
  · refine (isPrivate_fetch (Fetch.isPrivate_loadGenerators [feed])).bind fun generators => ?_
    split
    · exact isPrivate_ofExcept _
    · intro s s' h
      simp only [run_bind, surroundings, ofExcept, h.resolver]

theorem isPrivate_skeleton (options : FeedOptions) (request : FeedRequest) (limit : Nat) :
    (skeleton options request limit).IsPrivate request.viewer := by
  refine (isPrivate_feedEndpoint options request.feed).bind fun endpoint => ?_
  refine (isPrivate_ofExcept _).bind fun outgoing => ?_
  exact (isPrivate_exchange outgoing options.timeout).bind fun _ => isPrivate_ofExcept _

end Serve

/-- Two runs that do the same and end alike, as far as a view of the result goes. -/
structure Served.AlikeBy {α β : Type} (view : α → β) (served served' : Served α) : Prop where
  reads : served.reads = served'.reads
  sent : served.sent = served'.sent
  result : served.result.map view = served'.result.map view

theorem Served.AlikeBy.bind {α β γ : Type} {view : β → γ} {m : Serve α} {next : α → Serve β}
    {s s' : Surroundings} (hm : m.run s = m.run s')
    (hnext : ∀ a, AlikeBy view ((next a).run s) ((next a).run s')) :
    AlikeBy view ((m >>= next).run s) ((m >>= next).run s') := by
  rw [Serve.run_bind, Serve.run_bind, hm]
  cases (m.run s').result with
  | error e => exact ⟨rfl, rfl, rfl⟩
  | ok a =>
    obtain ⟨hreads, hsent, hresult⟩ := hnext a
    exact ⟨congrArg ((m.run s').reads ++ ·) hreads, congrArg ((m.run s').sent ++ ·) hsent, hresult⟩

/-- **Other people's graph is private.** Two indexes that hold the same accounts, records and labels
and the same of the graph that concerns the viewer serve the viewer the same page, or fail alike,
after the same reads and the same request to the generator. -/
theorem FeedService.page_alike (service : FeedService) (request : FeedRequest)
    {s s' : Surroundings} (h : s.AlikeFor request.viewer s') :
    Served.AlikeBy FeedOutcome.untimed ((service.page request).run s)
      ((service.page request).run s') := by
  have hskeleton := Serve.isPrivate_skeleton service.options request
    (service.options.clampLimit request.limit) s s' h
  refine Served.AlikeBy.bind hskeleton fun skeleton => ?_
  have hhydrate : (service.hydrate skeleton.items request.viewer).IsPrivate request.viewer :=
    Fetch.isPrivate_hydrate _ _ _
  refine Served.AlikeBy.bind (Serve.isPrivate_fetch hhydrate s s' h) fun page => ?_
  refine ⟨rfl, rfl, ?_⟩
  exact congrArg Except.ok (FeedOutcome.untimed_assemble _ _ _ _ _ s.timings s'.timings)

namespace Sample

/-- The surroundings of the small index, but the friend mutes the viewer and likes and lists what
they please, a block and a follow stand between the friend and the foe, and all takes longer. -/
def gossip : Surroundings :=
  { surroundings with
    index := { index with
      tables := { tables with
        blocks := [⟨block, viewer, foe⟩, ⟨block, foe, friend⟩]
        follows := [⟨block, friend, foe⟩]
        mutes := [⟨friend, viewer⟩]
        subscriptions := [⟨foe, muteList⟩, ⟨viewer, muteList⟩]
        listItems := [⟨friendGenerator, viewer⟩, ⟨muteList, foe⟩]
        likes := [⟨friend, friendPost, block⟩] } }
    timings := ⟨1000, 2000⟩ }

/-- The viewer of the small index hears nothing of it. -/
theorem page_gossip :
    surroundings.index.tables.follows ≠ gossip.index.tables.follows ∧
      Served.AlikeBy FeedOutcome.untimed ((service.page request).run surroundings)
        ((service.page request).run gossip) := by
  have halike : surroundings.AlikeFor request.viewer gossip :=
    ⟨rfl, rfl, rfl, rfl, rfl, rfl⟩
  exact ⟨by simp [surroundings, gossip, index, tables, Tables.empty],
    service.page_alike request halike⟩

end Sample

end FeedHydration
