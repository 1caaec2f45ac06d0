import FeedHydration.Proofs.Accounting
import FeedHydration.Proofs.Outage
import Mathlib.Data.List.Nodup

/-!
# Plans

The reads of a request follow a plan: each kind of read has its places, in a fixed order, and at each
place there is one read of a whole batch or none. Programs that come one after the other follow their
plans one after the other, so the plan of a page does not grow with its skeleton.
-/

namespace FeedHydration

open Std (ExtTreeMap)

variable {α β κ : Type}

/-- A read that asks for something, and for nothing twice. -/
structure Read.IsBatch (read : Read) : Prop where
  nonempty : read.ids ≠ []
  nodup : read.ids.Nodup

/-- Reads of whole batches that keep to the order of a plan. -/
structure FollowsPlan (reads : List Read) (plan : List ReadKind) : Prop where
  order : (reads.map (·.kind)).Sublist plan
  batches : ∀ read ∈ reads, read.IsBatch

namespace FollowsPlan

variable {reads reads' : List Read} {plan plan' : List ReadKind}

theorem nil (plan : List ReadKind) : FollowsPlan [] plan where
  order := List.nil_sublist plan
  batches := by simp

theorem append (h : FollowsPlan reads plan) (h' : FollowsPlan reads' plan') :
    FollowsPlan (reads ++ reads') (plan ++ plan') where
  order := by
    rw [List.map_append]
    exact h.order.append h'.order
  batches := by
    intro read hmem
    obtain hmem | hmem := List.mem_append.1 hmem
    · exact h.batches read hmem
    · exact h'.batches read hmem

/-- Nothing that is planned has to be done. -/
theorem append_right (h : FollowsPlan reads plan) (plan' : List ReadKind) :
    FollowsPlan reads (plan ++ plan') where
  order := h.order.trans (List.sublist_append_left plan plan')
  batches := h.batches

theorem of_start (h : FollowsPlan reads plan) (hstart : reads' <+: reads) :
    FollowsPlan reads' plan where
  order := (hstart.map _).sublist.trans h.order
  batches := fun read hmem => h.batches read (hstart.subset hmem)

theorem length_le (h : FollowsPlan reads plan) : reads.length ≤ plan.length := by
  rw [← List.length_map (·.kind)]
  exact h.order.length_le

theorem countP_le (h : FollowsPlan reads plan) (kind : ReadKind) :
    reads.countP (·.kind = kind) ≤ plan.count kind := by
  have hcount : reads.countP (·.kind = kind) = (reads.map (·.kind)).count kind := by
    rw [List.count, List.countP_map]
    exact List.countP_congr fun read _ => by simp
  rw [hcount]
  exact h.order.count_le kind

theorem eq_nil (h : FollowsPlan reads []) : reads = [] :=
  List.length_eq_zero_iff.1 (Nat.le_zero.1 h.length_le)

end FollowsPlan

/-! ### Programs of reads -/

namespace Fetch

variable {m : Fetch α} {kind : ReadKind} {plan plan' : List ReadKind}

/-- Whatever the index holds and whichever of its reads fail, the reads follow the plan. -/
def Follows (m : Fetch α) (plan : List ReadKind) : Prop :=
  ∀ index, FollowsPlan (m.run index).reads plan

theorem follows_pure (a : α) : (Pure.pure a : Fetch α).Follows plan :=
  fun _ => .nil plan

theorem follows_clock : clock.Follows [] :=
  fun _ => .nil []

theorem follows_read {ids : List String} (hne : ids ≠ []) (hnodup : ids.Nodup)
    (answer : Tables → α) : (read kind ids answer).Follows [kind] := fun _ =>
  { order := List.Sublist.refl [kind]
    batches := by
      intro read hmem
      rw [List.mem_singleton.1 hmem]
      exact ⟨hne, hnodup⟩ }

theorem Follows.bind {next : α → Fetch β} (hm : m.Follows plan)
    (hnext : ∀ a, (next a).Follows plan') : (m >>= next).Follows (plan ++ plan') := by
  intro index
  cases hresult : (m.run index).result with
  | ok a =>
    rw [run_bind_of_ok hresult]
    exact (hm index).append (hnext a index)
  | error e =>
    rw [run_bind_of_error hresult]
    exact (hm index).append_right plan'

/-- A fallback takes no reads. -/
theorem Follows.orElse (hm : m.Follows plan) (fallback : α) : (m.orElse fallback).Follows plan :=
  hm

theorem Follows.of_ne_nil {ids : List κ} {a : α} (hm : ids ≠ [] → m.Follows plan) :
    (if ids.isEmpty = true then Pure.pure a else m).Follows plan := by
  split
  · exact follows_pure a
  · rename_i hids
    exact hm fun hnil => hids (by rw [hnil]; rfl)

/-! ### Loads -/

theorem follows_read_dids {dids : List Did} (hne : distinct dids ≠ []) (answer : Tables → α) :
    (read kind ((distinct dids).map (·.text)) answer).Follows [kind] := by
  apply follows_read
  · simpa using hne
  · exact List.Nodup.map (fun _ _ => Did.ext) (nodup_distinct dids)

theorem follows_read_uris {uris : List AtUri} (hne : distinct uris ≠ []) (answer : Tables → α) :
    (read kind ((distinct uris).map (·.text)) answer).Follows [kind] := by
  apply follows_read
  · simpa using hne
  · exact List.Nodup.map (fun _ _ => AtUri.text_injective) (nodup_distinct uris)

theorem follows_visibleAccounts (dids : List Did) : (visibleAccounts dids).Follows [.actors] :=
  Follows.of_ne_nil fun hne => (follows_read_dids hne _).bind fun _ => follows_pure _

theorem follows_visibleRows {ρ : Type} (rows : List (AtUri × ρ)) (takenDown : ρ → Bool) :
    (visibleRows rows takenDown).Follows [.actors] :=
  (follows_visibleAccounts _).bind fun _ => follows_pure _

theorem follows_loadPosts (uris : List AtUri) (viewer : Option Did) :
    (loadPosts uris viewer).Follows [.posts, .actors] :=
  Follows.of_ne_nil fun hne => (follows_read_uris hne _).bind fun _ =>
    (follows_visibleRows _ _).bind fun _ => follows_pure _

theorem follows_loadGenerators (uris : List AtUri) (viewer : Option Did) :
    (loadGenerators uris viewer).Follows [.generators, .actors] :=
  Follows.of_ne_nil fun hne => (follows_read_uris hne _).bind fun _ =>
    (follows_visibleRows _ _).bind fun _ => follows_pure _

theorem follows_loadLists (uris : List AtUri) (viewer : Option Did) :
    (loadLists uris viewer).Follows [.lists, .actors] :=
  Follows.of_ne_nil fun hne => (follows_read_uris hne _).bind fun _ =>
    (follows_visibleRows _ _).bind fun _ => follows_pure _

theorem follows_loadReposts (uris : List AtUri) : (loadReposts uris).Follows [.reposts] :=
  Follows.of_ne_nil fun hne => (follows_read_uris hne _).bind fun _ => follows_pure _

theorem follows_labelSet (subjects : List String) : (labelSet subjects).Follows [.labels] :=
  Follows.of_ne_nil fun hne =>
    (follows_read (fun hnil => hne (distinct_eq_nil.1 hnil)) (nodup_distinct subjects) _).bind
      fun _ => follows_clock.bind fun _ => follows_pure _

theorem follows_graphRows (viewer : Did) {subjects : List Did} (hne : distinct subjects ≠ []) :
    (graphRows viewer (distinct subjects)).Follows graphKinds := by
  refine (follows_read_dids hne _).bind fun _ => ?_
  refine (follows_read_dids hne _).bind fun _ => ?_
  refine (follows_read_dids hne _).bind fun _ => ?_
  exact (follows_read_dids hne _).bind fun _ => follows_pure _

theorem follows_relationships (dids : List Did) (viewer : Option Did) :
    (relationships dids viewer).Follows graphKinds := by
  cases viewer with
  | none => exact follows_pure _
  | some viewer =>
    exact Follows.of_ne_nil fun hne => (follows_graphRows viewer hne).bind fun _ => follows_pure _

/-- The plan of a load of accounts whose labels are kept apart. -/
def accountPlan : List ReadKind :=
  [.actors] ++ graphKinds ++ [.lists, .actors]

theorem follows_loadActors (nameBytes : Nat) (dids : List Did) (viewer : Option Did) :
    (loadActors nameBytes dids viewer .withoutLabels).Follows accountPlan := by
  have hlabels : (actorLabels .withoutLabels (distinct dids)).Follows [] := follows_pure none
  refine Follows.of_ne_nil fun hne => ?_
  refine (follows_read_dids hne _).bind fun _ => ?_
  refine (follows_relationships _ _).bind fun _ => ?_
  -- the labels of the accounts are read with those of the page
  refine hlabels.bind fun _ => ?_
  exact (follows_loadLists _ viewer).bind fun _ => follows_pure _

/-! ### Pages -/

def embedPlan : List ReadKind :=
  [.posts, .actors] ++ [.generators, .actors] ++ [.lists, .actors] ++ accountPlan ++ [.labels]

theorem follows_embedTargets (hosts : List EmbedHost) (viewer : Option Did) :
    (embedTargets hosts viewer).Follows
      ([.posts, .actors] ++ [.generators, .actors] ++ [.lists, .actors]) := by
  refine ((follows_loadPosts _ viewer).orElse ∅).bind fun _ => ?_
  refine ((follows_loadGenerators _ viewer).orElse ∅).bind fun _ => ?_
  exact ((follows_loadLists _ viewer).orElse ∅).bind fun _ => follows_pure _

theorem follows_embeds (images : ImageService) (nameBytes : Nat) (posts : List Post)
    (viewer : Option Did) (known : ExtTreeMap Did Actor) (labels : LabelSet) :
    (embeds images nameBytes posts viewer known labels).Follows embedPlan := by
  refine Follows.of_ne_nil fun _ => ?_
  refine (follows_embedTargets _ viewer).bind fun _ => ?_
  refine ((follows_loadActors nameBytes _ viewer).orElse ∅).bind fun _ => ?_
  exact ((follows_labelSet _).orElse LabelSet.empty).bind fun _ => follows_pure _

/-- The plan of a page whose skeleton is there. -/
def pagePlan : List ReadKind :=
  [.posts, .actors] ++ [.reposts] ++ [.posts, .actors] ++ accountPlan ++ [.labels] ++ embedPlan

theorem follows_hydrate (images : ImageService) (nameBytes : Nat) (items : List SkeletonItem)
    (viewer : Option Did) : (hydrate images nameBytes items viewer).Follows pagePlan := by
  refine Follows.of_ne_nil fun _ => ?_
  refine (follows_loadPosts _ viewer).bind fun _ => ?_
  refine (follows_loadReposts _).bind fun _ => ?_
  refine (follows_loadPosts _ viewer).bind fun _ => ?_
  refine (follows_loadActors nameBytes _ viewer).bind fun _ => ?_
  refine (follows_labelSet _).bind fun _ => ?_
  exact (follows_embeds images nameBytes _ viewer _ _).bind fun _ => follows_pure _

end Fetch

/-! ### Requests -/

namespace Serve

variable {m : Serve α} {plan plan' : List ReadKind} {s : Surroundings}

def Follows (m : Serve α) (plan : List ReadKind) : Prop :=
  ∀ s, FollowsPlan (m.run s).reads plan

theorem follows_pure (a : α) : (Pure.pure a : Serve α).Follows [] :=
  fun _ => .nil []

theorem follows_ofExcept (result : Except FeedError α) : (ofExcept result).Follows [] :=
  fun _ => .nil []

theorem follows_exchange (request : HttpRequest) (timeout : Option Nat) :
    (exchange request timeout).Follows [] :=
  fun _ => .nil []

theorem follows_surroundings : surroundings.Follows [] :=
  fun _ => .nil []

theorem follows_fetch {m : Fetch α} (hm : m.Follows plan) : (fetch m).Follows plan :=
  fun s => hm s.index

theorem Follows.bind {next : α → Serve β} (hm : m.Follows plan)
    (hnext : ∀ a, (next a).Follows plan') : (m >>= next).Follows (plan ++ plan') := by
  intro s
  cases hresult : (m.run s).result with
  | ok a =>
    rw [run_bind_of_ok hresult]
    exact (hm s).append (hnext a s)
  | error e =>
    rw [run_bind_of_error hresult]
    exact (hm s).append_right plan'

/-- What makes no reads leaves the reads as they are. -/
theorem reads_bind_of_follows_nil {next : α → Serve β} (hnext : ∀ a, (next a).Follows []) :
    ((m >>= next).run s).reads = (m.run s).reads := by
  cases hresult : (m.run s).result with
  | ok a => rw [run_bind_of_ok hresult, (hnext a s).eq_nil, List.append_nil]
  | error e => rw [run_bind_of_error hresult]

/-- A generator is looked up before it is asked, and nothing else is read. -/
theorem reads_skeleton (options : FeedOptions) (request : FeedRequest) (limit : Nat)
    (s : Surroundings) :
    ((skeleton options request limit).run s).reads <+:
      ((Fetch.loadGenerators [request.feed] request.viewer).run s.index).reads := by
  rw [skeleton, reads_bind_of_follows_nil fun endpoint =>
    (follows_ofExcept _).bind fun _ => (follows_exchange _ _).bind fun _ => follows_ofExcept _,
    feedEndpoint]
  split
  · exact List.nil_prefix
  · rw [reads_bind_of_follows_nil]
    · exact List.prefix_refl _
    · intro generators
      split
      · exact follows_ofExcept _
      · exact follows_surroundings.bind fun _ => follows_ofExcept _

theorem follows_skeleton (options : FeedOptions) (request : FeedRequest) (limit : Nat) :
    (skeleton options request limit).Follows [.generators, .actors] := fun s =>
  (Fetch.follows_loadGenerators [request.feed] request.viewer s.index).of_start
    (reads_skeleton options request limit s)

theorem reads_unlessGivenUp (m : Serve α) (s : Surroundings) :
    ((unlessGivenUp m).run s).reads <+: (m.run s).reads := by
  unfold unlessGivenUp
  dsimp only
  split
  · exact List.nil_prefix
  · exact List.prefix_refl _

end Serve

/-- The plan of a request: its generator is looked up, and then a page is made. -/
def requestPlan : List ReadKind :=
  [.generators, .actors] ++ Fetch.pagePlan

def ReadKind.limit : ReadKind → Nat
  | actors => 10
  | posts => 3
  | reposts => 1
  | generators => 2
  | lists => 3
  | labels => 2
  | blocks => 2
  | follows => 2
  | mutes => 2
  | listMutes => 2

theorem count_requestPlan (kind : ReadKind) : requestPlan.count kind = kind.limit := by
  cases kind <;> rfl

namespace FeedService

variable (service : FeedService) (request : FeedRequest) (s : Surroundings)

theorem follows_page : (service.page request).Follows requestPlan := by
  refine (Serve.follows_skeleton _ _ _).bind fun skeleton => ?_
  refine (Serve.follows_fetch (Fetch.follows_hydrate _ _ skeleton.items _)).bind fun _ => ?_
  exact Serve.follows_surroundings.bind fun _ => Serve.follows_pure _

variable {service request s}

theorem reads_page_of_nil {skeleton : Skeleton}
    (h : (Serve.skeleton service.options request
      (service.options.clampLimit request.limit)).Gives s skeleton) (hnil : skeleton.items = []) :
    ((service.page request).run s).reads =
      ((Serve.skeleton service.options request
        (service.options.clampLimit request.limit)).run s).reads := by
  have hpage : (Serve.fetch (service.hydrate skeleton.items request.viewer)).Follows [] := by
    rw [hnil]
    exact fun _ => .nil []
  have hrest := hpage.bind fun h => Serve.follows_surroundings.bind fun s' =>
    Serve.follows_pure (FeedOutcome.assemble service.images skeleton (h.applyRules skeleton.items) h
      (service.options.clampLimit request.limit) s'.timings)
  rw [page, Serve.run_bind_of_ok h, (hrest s).eq_nil, List.append_nil]

/-- **Reads are batched.** However long the skeleton, and whichever reads fail, a request makes at
most 29 reads, of each kind up to a limit, and each is a batch without repetitions. If the skeleton
is empty, the lookup of the generator makes all the reads there are. -/
theorem serve_limits_reads (service : FeedService) (request : FeedRequest) (s : Surroundings) :
    ((service.serve request).run s).reads.length ≤ 29 ∧
    (∀ kind : ReadKind,
      ((service.serve request).run s).reads.countP (·.kind = kind) ≤ kind.limit) ∧
    (∀ read ∈ ((service.serve request).run s).reads, read.IsBatch) ∧
    ∀ skeleton, (Serve.skeleton service.options request
        (service.options.clampLimit request.limit)).Gives s skeleton → skeleton.items = [] →
      ((service.serve request).run s).reads <+:
        ((Fetch.loadGenerators [request.feed] request.viewer).run s.index).reads := by
  have hgivenUp := Serve.reads_unlessGivenUp (service.page request) s
  have hplan : FollowsPlan ((service.serve request).run s).reads requestPlan :=
    (follows_page service request s).of_start hgivenUp
  refine ⟨hplan.length_le, fun kind => ?_, hplan.batches, fun skeleton hskeleton hnil => ?_⟩
  · rw [← count_requestPlan]
    exact hplan.countP_le kind
  · rw [reads_page_of_nil hskeleton hnil] at hgivenUp
    exact hgivenUp.trans (Serve.reads_skeleton _ _ _ _)

end FeedService

namespace Sample

/-- The small index, but the generator has nothing to show. -/
def idle : Surroundings :=
  { surroundings with generator := fun _ => ⟨0, .ok (listing [])⟩ }

theorem any_idle : ((Serve.skeleton service.options request
    (service.options.clampLimit request.limit)).run idle).result.toOption.any
      (·.items.isEmpty) = true := by
  decide +kernel

theorem serve_limits_idle :
    ∃ skeleton, (Serve.skeleton service.options request
        (service.options.clampLimit request.limit)).Gives idle skeleton ∧ skeleton.items = [] ∧
      ((service.serve request).run idle).reads <+:
        ((Fetch.loadGenerators [friendGenerator] (some viewer)).run index).reads := by
  obtain ⟨skeleton, hskeleton, hempty⟩ := Serve.exists_gives any_idle
  have hnil : skeleton.items = [] := List.isEmpty_iff.1 hempty
  obtain ⟨-, -, -, hlookup⟩ := FeedService.serve_limits_reads service request idle
  exact ⟨skeleton, hskeleton, hnil, hlookup skeleton hskeleton hnil⟩

end Sample

end FeedHydration
