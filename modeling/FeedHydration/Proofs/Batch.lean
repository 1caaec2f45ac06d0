import FeedHydration.Proofs.Item
import FeedHydration.Proofs.Page
import Mathlib.Algebra.GroupWithZero.Nat

/-!
# Batches

Hydrating the items of a page together gives what hydrating each of them alone gives, put together
again: the same entries in the same order, cut at the limit of the page, and the same counts.
-/

namespace FeedHydration

section Lists

variable {α β : Type}

theorem filterMap_filter_eq_flatMap (p : α → Bool) (f : α → Option β) (items : List α) :
    (items.filter p).filterMap f = items.flatMap fun item => ([item].filter p).filterMap f := by
  induction items with
  | nil => rfl
  | cons item items ih =>
    rw [List.flatMap_cons, ← ih, ← List.filterMap_append, ← List.filter_append,
      List.singleton_append]

/-- Cutting the parts before the whole is cut makes no difference. -/
theorem take_flatMap_take (limit : Nat) (f : α → List β) (items : List α) :
    (items.flatMap fun item => (f item).take limit).take limit =
      (items.flatMap f).take limit := by
  induction items with
  | nil => rfl
  | cons item items ih =>
    -- the first part leaves room for some n ≤ limit, so the hypothesis is needed below limit
    have hrest : ∀ n ≤ limit, (items.flatMap fun item => (f item).take limit).take n =
        (items.flatMap f).take n := by
      intro n hn
      have h := congrArg (List.take n) ih
      rwa [List.take_take, List.take_take, Nat.min_eq_left hn] at h
    by_cases hlength : (f item).length ≤ limit
    · rw [List.flatMap_cons, List.flatMap_cons, List.take_of_length_le hlength, List.take_append,
        List.take_append, hrest _ (Nat.sub_le _ _)]
    · have hlimit : limit ≤ (f item).length := by omega
      rw [List.flatMap_cons, List.flatMap_cons, List.take_append_of_le_length hlimit,
        List.take_append_of_le_length (by rw [List.length_take]; omega), List.take_take,
        Nat.min_self]

theorem countP_eq_sum (p : α → Bool) (items : List α) :
    items.countP p = (items.map fun item => [item].countP p).sum := by
  induction items with
  | nil => rfl
  | cons item items ih =>
    rw [List.map_cons, List.sum_cons, ← ih, ← List.countP_append, List.singleton_append]

end Lists

variable {index : Index} {images : ImageService} {nameBytes : Nat} {viewer : Option Did}

theorem applyRules_eq {h : Hydration} {items : List SkeletonItem}
    (hpage : h.IsOf index images nameBytes viewer items) :
    h.applyRules items = (index.hydration images nameBytes viewer).applyRules items := by
  have hfilter : ∀ verdict, (items.countP fun item => h.judge item = verdict) =
      items.countP fun item => (index.hydration images nameBytes viewer).judge item = verdict := by
    intro verdict
    apply List.countP_congr
    intro item hitem
    rw [Hydration.judge_eq hpage hitem]
  rw [Hydration.applyRules, Hydration.applyRules, hfilter, hfilter, hfilter]
  congr 1
  apply List.filter_congr
  intro item hitem
  rw [Hydration.judge_eq hpage hitem]

theorem ofItems_congr {entryOf? entryOf?' : SkeletonItem → Option FeedEntry} (limit : Nat)
    {items : List SkeletonItem} (h : ∀ item ∈ items, entryOf? item = entryOf?' item) :
    Assembled.ofItems entryOf? limit items = Assembled.ofItems entryOf?' limit items := by
  induction items generalizing limit with
  | nil => cases limit <;> rfl
  | cons item items ih =>
    have hrest := fun limit => ih limit fun item hitem => h item (List.mem_cons_of_mem _ hitem)
    cases limit with
    | zero => rfl
    | succ limit => simp only [Assembled.ofItems, h item List.mem_cons_self, hrest]

theorem assemble_eq {h : Hydration} {skeleton : Skeleton}
    (hpage : h.IsOf index images nameBytes viewer skeleton.items) (hout : index.outage = none)
    (limit : Nat) (timings : StageTimings) :
    FeedOutcome.assemble images skeleton (h.applyRules skeleton.items) h limit timings =
      FeedOutcome.assemble images skeleton
        ((index.hydration images nameBytes viewer).applyRules skeleton.items)
        (index.hydration images nameBytes viewer) limit timings := by
  rw [applyRules_eq hpage, FeedOutcome.assemble, FeedOutcome.assemble, ofItems_congr limit]
  intro item hitem
  exact Hydration.entryOf?_eq hpage hout (List.mem_of_mem_filter hitem)

/-- What one page knows shows its items alike, together and one by one. -/
theorem feed_assemble_eq_flatMap (images : ImageService) (skeleton : Skeleton) (h : Hydration)
    (limit : Nat) (timings : StageTimings) :
    (FeedOutcome.assemble images skeleton (h.applyRules skeleton.items) h limit timings).page.feed =
      (skeleton.items.flatMap fun item => (FeedOutcome.assemble images
        { skeleton with items := [item] } (h.applyRules [item]) h limit timings).page.feed).take
          limit := by
  calc (FeedOutcome.assemble images skeleton (h.applyRules skeleton.items) h limit
          timings).page.feed
      = ((skeleton.items.filter fun item => h.judge item = .keep).filterMap
          (h.entryOf? images)).take limit := feed_assemble images skeleton h _ limit timings
    _ = (skeleton.items.flatMap fun item =>
          ([item].filter fun item => h.judge item = .keep).filterMap
            (h.entryOf? images)).take limit := by
        rw [filterMap_filter_eq_flatMap]
    _ = (skeleton.items.flatMap fun item =>
          (([item].filter fun item => h.judge item = .keep).filterMap
            (h.entryOf? images)).take limit).take limit := by
        rw [take_flatMap_take]
    _ = _ := by
        simp only [feed_assemble]

namespace FeedService

variable (service : FeedService) (skeleton : Skeleton) (viewer : Option Did) (limit : Nat)
  (timings : StageTimings)

/-- **A page is that of the whole index.** Without an outage, a page is presented as if all of the
index had been read for it. -/
theorem gives_present (hout : index.outage = none) :
    (service.present skeleton viewer limit timings).Gives index
      (let whole := index.hydration service.images service.options.displayNameBytes viewer
      FeedOutcome.assemble service.images skeleton (whole.applyRules skeleton.items) whole limit
        timings) := by
  obtain ⟨h, hgives⟩ := Fetch.answers_hydrate hout service.images
    service.options.displayNameBytes skeleton.items viewer
  have hpage := Fetch.hydrate_isOf hgives
  refine Fetch.gives_bind.2 ⟨h, hgives, Fetch.gives_pure.2 ?_⟩
  rw [assemble_eq hpage hout]

/-- **Batches and single items.** Without an outage, the items of a skeleton can be presented
together and one by one, and the page they make together is made up of the pages they make alone. -/
theorem present_eq_flatMap_present (hout : index.outage = none) :
    ∃ (together : FeedOutcome) (alone : SkeletonItem → FeedOutcome),
      (service.present skeleton viewer limit timings).Gives index together ∧
      (∀ item, (service.present { skeleton with items := [item] } viewer limit timings).Gives index
        (alone item)) ∧
      together.page.feed =
        (skeleton.items.flatMap fun item => (alone item).page.feed).take limit ∧
      together.omitted.notHydrated =
        (skeleton.items.map fun item => (alone item).omitted.notHydrated).sum ∧
      together.omitted.blocked =
        (skeleton.items.map fun item => (alone item).omitted.blocked).sum ∧
      together.omitted.muted = (skeleton.items.map fun item => (alone item).omitted.muted).sum := by
  refine ⟨_, _, service.gives_present skeleton viewer limit timings hout, fun item =>
    service.gives_present { skeleton with items := [item] } viewer limit timings hout,
    feed_assemble_eq_flatMap _ _ _ _ _, countP_eq_sum _ _, countP_eq_sum _ _, countP_eq_sum _ _⟩

/-- The two posts of the small index, together and each alone. -/
theorem present_sample :
    Sample.index.outage = none ∧
    ∃ (together : FeedOutcome) (alone : SkeletonItem → FeedOutcome),
      (Sample.service.present Sample.skeleton (some Sample.viewer) 1 ⟨0, 0⟩).Gives Sample.index
        together ∧
      (∀ item, (Sample.service.present { Sample.skeleton with items := [item] }
        (some Sample.viewer) 1 ⟨0, 0⟩).Gives Sample.index (alone item)) ∧
      together.page.feed =
        (Sample.skeleton.items.flatMap fun item => (alone item).page.feed).take 1 := by
  have hout : Sample.index.outage = none := rfl
  obtain ⟨together, alone, htogether, halone, hfeed, -⟩ :=
    present_eq_flatMap_present Sample.service Sample.skeleton (some Sample.viewer) 1 ⟨0, 0⟩ hout
  exact ⟨hout, together, alone, htogether, halone, hfeed⟩

end FeedService

end FeedHydration
