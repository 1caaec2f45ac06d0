import FeedHydration.Proofs.Accounting

/-!
# Verdicts

The rules ask a hydration three things of an item, one after the other: is all of it there, does a
block stand against it, is someone behind it muted. The first answer that stands against the item is
its verdict, and an item that nothing stands against is kept. This holds of any hydration, also of
one whose tables do not fit together, and an account that gains a block or a mute can only lose
items.
-/

namespace FeedHydration

open Std (ExtTreeMap)

/-! ### What stands against an account -/

namespace Actor

/-- A block between the viewer and an account, in either direction. -/
def HasBlock (actor : Actor) : Prop :=
  ∃ r, actor.relationship = some r ∧ ((∃ uri, r.blocking = some uri) ∨ r.blockedBy = true)

/-- The viewer blocks an account. -/
def IsBlocked (actor : Actor) : Prop :=
  ∃ r, actor.relationship = some r ∧ ∃ uri, r.blocking = some uri

/-- The viewer mutes an account, by itself or with a list. -/
def IsMuted (actor : Actor) : Prop :=
  ∃ r, actor.relationship = some r ∧ (r.muted = true ∨ ∃ list, r.mutedByList = some list)

variable {actor : Actor}

theorem hasBlock_iff : actor.hasBlock = true ↔ actor.HasBlock := by
  simp [hasBlock, HasBlock, Relationship.hasBlock, Option.any_eq_true, Option.isSome_iff_exists]

theorem isBlockedByViewer_iff : actor.isBlockedByViewer = true ↔ actor.IsBlocked := by
  simp [isBlockedByViewer, IsBlocked, Option.any_eq_true, Option.isSome_iff_exists]

theorem isMuted_iff : actor.isMuted = true ↔ actor.IsMuted := by
  simp [isMuted, IsMuted, Relationship.isMuted, Option.any_eq_true, Option.isSome_iff_exists]

end Actor

/-! ### What stands against an item -/

namespace Hydration

/-- An item of which nothing is missing: its post and the author are there, and so are the repost
and whoever made it. -/
structure IsWhole (h : Hydration) (item : SkeletonItem) : Prop where
  author : ∃ post author, h.posts[item.post]? = some post ∧ h.actors[post.author]? = some author
  reposter : ∀ uri, item.repost = some uri →
    ∃ repost reposter, h.reposts[uri]? = some repost ∧
      h.actors[repost.originator]? = some reposter

/-- The accounts behind an item. -/
inductive IsBehind (h : Hydration) (item : SkeletonItem) (actor : Actor) : Prop where
  | author {post : Post} (hpost : h.posts[item.post]? = some post)
      (hauthor : h.actors[post.author]? = some actor)
  | reposter {uri : AtUri} {repost : Repost} (huri : item.repost = some uri)
      (hrepost : h.reposts[uri]? = some repost)
      (hreposter : h.actors[repost.originator]? = some actor)

/-- The accounts that an item replies to. A reply without a root has its parent for one. -/
inductive RepliesTo (h : Hydration) (item : SkeletonItem) (actor : Actor) : Prop where
  | parent {post : Post} {parent : StrongRef} (hpost : h.posts[item.post]? = some post)
      (hparent : post.replyParent = some parent)
      (howner : h.actors[parent.uri.authority]? = some actor)
  | root {post : Post} {parent : StrongRef} (hpost : h.posts[item.post]? = some post)
      (hparent : post.replyParent = some parent)
      (howner : h.actors[(post.replyRoot.getD parent).uri.authority]? = some actor)

/-- A block parts the viewer from someone behind an item, or the viewer blocks someone whom the item
replies to. -/
def IsBlocked (h : Hydration) (item : SkeletonItem) : Prop :=
  (∃ actor, h.IsBehind item actor ∧ actor.HasBlock) ∨
    ∃ actor, h.RepliesTo item actor ∧ actor.IsBlocked

def IsMuted (h : Hydration) (item : SkeletonItem) : Prop :=
  ∃ actor, h.IsBehind item actor ∧ actor.IsMuted

/-- The verdict on an item is the first thing that stands against it. -/
inductive Earns (h : Hydration) (item : SkeletonItem) : Verdict → Prop where
  | notHydrated (hwhole : ¬ h.IsWhole item) : h.Earns item .notHydrated
  | blocked (hwhole : h.IsWhole item) (hblocked : h.IsBlocked item) : h.Earns item .blocked
  | muted (hwhole : h.IsWhole item) (hblocked : ¬ h.IsBlocked item) (hmuted : h.IsMuted item) :
      h.Earns item .muted
  | keep (hwhole : h.IsWhole item) (hblocked : ¬ h.IsBlocked item) (hmuted : ¬ h.IsMuted item) :
      h.Earns item .keep

variable {h : Hydration} {item : SkeletonItem} {post : Post} {verdict verdict' : Verdict}

theorem Earns.unique (hverdict : h.Earns item verdict) (hverdict' : h.Earns item verdict') :
    verdict = verdict' := by
  cases hverdict <;> cases hverdict' <;> first | rfl | contradiction

theorem reposter?_eq_some_iff {uri : AtUri} {actor : Actor} :
    h.reposter? uri = some actor ↔
      ∃ repost, h.reposts[uri]? = some repost ∧ h.actors[repost.originator]? = some actor :=
  Option.bind_eq_some_iff

theorem repliesToBlocked_iff_exists (hpost : h.posts[item.post]? = some post) :
    h.repliesToBlocked post = true ↔ ∃ actor, h.RepliesTo item actor ∧ actor.IsBlocked := by
  have howner : ∀ uri, h.ownerIsBlocked uri = true ↔
      ∃ actor, h.actors[uri.authority]? = some actor ∧ actor.IsBlocked := by
    intro uri
    simp only [ownerIsBlocked, Option.any_eq_true, Actor.isBlockedByViewer_iff]
  simp only [repliesToBlocked, Post.ancestors?, Option.any_map, Option.any_eq_true,
    Bool.or_eq_true, howner]
  constructor
  · rintro ⟨parent, hparent, ⟨actor, hactor, hblocked⟩ | ⟨actor, hactor, hblocked⟩⟩
    · exact ⟨actor, .root hpost hparent hactor, hblocked⟩
    · exact ⟨actor, .parent hpost hparent hactor, hblocked⟩
  · rintro ⟨actor, ⟨hpost', hparent, hactor⟩ | ⟨hpost', hparent, hactor⟩, hblocked⟩
    · rw [hpost, Option.some.injEq] at hpost'
      subst hpost'
      exact ⟨_, hparent, Or.inr ⟨actor, hactor, hblocked⟩⟩
    · rw [hpost, Option.some.injEq] at hpost'
      subst hpost'
      exact ⟨_, hparent, Or.inl ⟨actor, hactor, hblocked⟩⟩

theorem judge_of_not_isWhole (hwhole : ¬ h.IsWhole item) : h.judge item = .notHydrated := by
  unfold judge
  cases hpost : h.posts[item.post]? with
  | none => rfl
  | some post =>
    dsimp only
    cases hauthor : h.actors[post.author]? with
    | none => rfl
    | some author =>
      dsimp only
      cases hrepost : item.repost with
      | none => exact absurd ⟨⟨post, author, hpost, hauthor⟩, by simp [hrepost]⟩ hwhole
      | some uri =>
        dsimp only
        cases hreposter : h.reposter? uri with
        | none => rfl
        | some reposter =>
          obtain ⟨repost, hfound, hactor⟩ := reposter?_eq_some_iff.1 hreposter
          refine absurd ⟨⟨post, author, hpost, hauthor⟩, fun uri' huri => ?_⟩ hwhole
          rw [hrepost, Option.some.injEq] at huri
          subst huri
          exact ⟨repost, reposter, hfound, hactor⟩

/-- An item that is whole is judged by its post and the accounts behind it. -/
theorem IsWhole.exists_judgePost (hwhole : h.IsWhole item) :
    ∃ post author reposters, h.posts[item.post]? = some post ∧
      (∀ actor, h.IsBehind item actor ↔ actor ∈ author :: reposters) ∧
      h.judge item = h.judgePost post author reposters := by
  obtain ⟨⟨post, author, hpost, hauthor⟩, hreposter⟩ := hwhole
  have hbehind : ∀ actor, h.IsBehind item actor ↔ actor = author ∨
      ∃ uri, item.repost = some uri ∧ h.reposter? uri = some actor := by
    intro actor
    simp only [reposter?_eq_some_iff]
    constructor
    · rintro (⟨hpost', hactor⟩ | ⟨huri, hrepost, hactor⟩)
      · rw [hpost, Option.some.injEq] at hpost'
        subst hpost'
        rw [hauthor, Option.some.injEq] at hactor
        exact Or.inl hactor.symm
      · exact Or.inr ⟨_, huri, _, hrepost, hactor⟩
    · rintro (rfl | ⟨uri, huri, repost, hrepost, hactor⟩)
      · exact .author hpost hauthor
      · exact .reposter huri hrepost hactor
  cases hrepost : item.repost with
  | none =>
    refine ⟨post, author, [], hpost, fun actor => ?_, ?_⟩
    · simp [hbehind, hrepost]
    · simp [judge, hpost, hauthor, hrepost]
  | some uri =>
    obtain ⟨repost, reposter, hfound, hactor⟩ := hreposter uri hrepost
    have hreposter : h.reposter? uri = some reposter :=
      reposter?_eq_some_iff.2 ⟨repost, hfound, hactor⟩
    refine ⟨post, author, [reposter], hpost, fun actor => ?_, ?_⟩
    · simp [hbehind, hrepost, hreposter, eq_comm]
    · simp [judge, hpost, hauthor, hrepost, hreposter]

theorem judge_earns (h : Hydration) (item : SkeletonItem) : h.Earns item (h.judge item) := by
  by_cases hwhole : h.IsWhole item
  · obtain ⟨post, author, reposters, hpost, hbehind, hjudge⟩ := hwhole.exists_judgePost
    have hblock : (author.hasBlock || reposters.any Actor.hasBlock) = true ↔
        ∃ actor, h.IsBehind item actor ∧ actor.HasBlock := by
      simp only [hbehind, ← Actor.hasBlock_iff, ← List.any_eq_true, List.any_cons]
    have hmute : (author.isMuted || reposters.any Actor.isMuted) = true ↔ h.IsMuted item := by
      simp only [IsMuted, hbehind, ← Actor.isMuted_iff, ← List.any_eq_true, List.any_cons]
    have hreply := repliesToBlocked_iff_exists hpost
    rw [hjudge, judgePost]
    split
    · rename_i hhas
      exact .blocked hwhole (Or.inl (hblock.1 hhas))
    · rename_i hnone
      split
      · rename_i hreplies
        exact .blocked hwhole (Or.inr (hreply.1 hreplies))
      · rename_i hreplies
        have hblocked : ¬ h.IsBlocked item := by
          rintro (hhas | hhas)
          · exact hnone (hblock.2 hhas)
          · exact hreplies (hreply.2 hhas)
        split
        · rename_i hmuted
          exact .muted hwhole hblocked (hmute.1 hmuted)
        · rename_i hmuted
          exact .keep hwhole hblocked (mt hmute.2 hmuted)
  · rw [judge_of_not_isWhole hwhole]
    exact .notHydrated hwhole

theorem judge_eq_iff : h.judge item = verdict ↔ h.Earns item verdict := by
  constructor
  · rintro rfl
    exact h.judge_earns item
  · exact (h.judge_earns item).unique

instance : Decidable (h.Earns item verdict) :=
  decidable_of_iff _ judge_eq_iff

end Hydration

/-! ### One more block or mute -/

/-- What may come to stand between the viewer and an account. -/
inductive Barrier where
  | block (uri : AtUri)
  | blockedBy
  | mute
  | muteList (list : AtUri)

def Relationship.add (r : Relationship) : Barrier → Relationship
  | .block uri => { r with blocking := some uri }
  | .blockedBy => { r with blockedBy := true }
  | .mute => { r with muted := true }
  | .muteList list => { r with mutedByList := some list }

/-- An account without a relationship gets one. -/
def Actor.add (actor : Actor) (barrier : Barrier) : Actor :=
  { actor with relationship := some ((actor.relationship.getD .none).add barrier) }

/-- The same hydration, but for a barrier between the viewer and an account. -/
def Hydration.add (h : Hydration) (did : Did) (barrier : Barrier) : Hydration :=
  { h with actors := h.actors.modify did (·.add barrier) }

/-- Whatever one relationship says against an account the other says too. -/
structure Relationship.Strains (r r' : Relationship) : Prop where
  blocking : (∃ uri, r.blocking = some uri) → ∃ uri, r'.blocking = some uri
  blockedBy : r.blockedBy = true → r'.blockedBy = true
  muted : r.muted = true → r'.muted = true
  mutedByList : (∃ list, r.mutedByList = some list) → ∃ list, r'.mutedByList = some list

/-- Whatever stands against one account stands against the other. -/
structure Actor.Strains (actor actor' : Actor) : Prop where
  hasBlock : actor.HasBlock → actor'.HasBlock
  isBlocked : actor.IsBlocked → actor'.IsBlocked
  isMuted : actor.IsMuted → actor'.IsMuted

theorem Relationship.strains_add (r : Relationship) (barrier : Barrier) :
    r.Strains (r.add barrier) := by
  cases barrier with
  | block uri => exact ⟨fun _ => ⟨uri, rfl⟩, id, id, id⟩
  | blockedBy => exact ⟨id, fun _ => rfl, id, id⟩
  | mute => exact ⟨id, id, fun _ => rfl, id⟩
  | muteList list => exact ⟨id, id, id, fun _ => ⟨list, rfl⟩⟩

theorem Actor.Strains.refl (actor : Actor) : actor.Strains actor :=
  ⟨id, id, id⟩

theorem Actor.relationship_add {actor : Actor} {r : Relationship}
    (h : actor.relationship = some r) (barrier : Barrier) :
    (actor.add barrier).relationship = some (r.add barrier) := by
  rw [add, h, Option.getD_some]

theorem Actor.strains_add (actor : Actor) (barrier : Barrier) :
    actor.Strains (actor.add barrier) where
  hasBlock := by
    rintro ⟨r, hr, hblocking | hblockedBy⟩
    · exact ⟨_, relationship_add hr barrier, Or.inl ((r.strains_add barrier).blocking hblocking)⟩
    · exact ⟨_, relationship_add hr barrier, Or.inr ((r.strains_add barrier).blockedBy hblockedBy)⟩
  isBlocked := by
    rintro ⟨r, hr, hblocking⟩
    exact ⟨_, relationship_add hr barrier, (r.strains_add barrier).blocking hblocking⟩
  isMuted := by
    rintro ⟨r, hr, hmuted | hlist⟩
    · exact ⟨_, relationship_add hr barrier, Or.inl ((r.strains_add barrier).muted hmuted)⟩
    · exact ⟨_, relationship_add hr barrier, Or.inr ((r.strains_add barrier).mutedByList hlist)⟩

/-- Hydrations that differ in nothing but what stands against their accounts, of which the second
has no less. -/
structure Hydration.Strains (h h' : Hydration) : Prop where
  posts : h.posts = h'.posts
  reposts : h.reposts = h'.reposts
  actors : ∀ did : Did, Option.Rel Actor.Strains h.actors[did]? h'.actors[did]?

theorem Hydration.strains_add (h : Hydration) (did : Did) (barrier : Barrier) :
    h.Strains (h.add did barrier) where
  posts := rfl
  reposts := rfl
  actors := by
    intro did'
    rw [add, ExtTreeMap.getElem?_modify]
    by_cases hsame : compare did did' = .eq
    · rw [if_pos hsame, ← Std.LawfulEqOrd.eq_of_compare hsame]
      cases h.actors[did]? with
      | none => exact .none
      | some actor => exact .some (actor.strains_add barrier)
    · rw [if_neg hsame]
      cases h.actors[did']? with
      | none => exact .none
      | some actor => exact .some (Actor.Strains.refl actor)

namespace Hydration.Strains

variable {h h' : Hydration} {item : SkeletonItem} (hstrains : h.Strains h')

include hstrains

theorem exists_actor' {did : Did} {actor : Actor} (hactor : h.actors[did]? = some actor) :
    ∃ actor', h'.actors[did]? = some actor' ∧ actor.Strains actor' := by
  have hrel := hstrains.actors did
  rw [hactor] at hrel
  generalize h'.actors[did]? = found at hrel ⊢
  cases hrel with
  | some hactors => exact ⟨_, rfl, hactors⟩

theorem exists_actor {did : Did} {actor' : Actor} (hactor' : h'.actors[did]? = some actor') :
    ∃ actor, h.actors[did]? = some actor := by
  have hrel := hstrains.actors did
  rw [hactor'] at hrel
  generalize h.actors[did]? = found at hrel ⊢
  cases hrel with
  | some hactors => exact ⟨_, rfl⟩

theorem isWhole_iff : h.IsWhole item ↔ h'.IsWhole item := by
  constructor
  · rintro ⟨⟨post, author, hpost, hauthor⟩, hreposter⟩
    obtain ⟨author', hauthor', -⟩ := hstrains.exists_actor' hauthor
    refine ⟨⟨post, author', hstrains.posts ▸ hpost, hauthor'⟩, fun uri huri => ?_⟩
    obtain ⟨repost, reposter, hrepost, hfound⟩ := hreposter uri huri
    obtain ⟨reposter', hfound', -⟩ := hstrains.exists_actor' hfound
    exact ⟨repost, reposter', hstrains.reposts ▸ hrepost, hfound'⟩
  · rintro ⟨⟨post, author', hpost, hauthor'⟩, hreposter⟩
    obtain ⟨author, hauthor⟩ := hstrains.exists_actor hauthor'
    refine ⟨⟨post, author, hstrains.posts ▸ hpost, hauthor⟩, fun uri huri => ?_⟩
    obtain ⟨repost, reposter', hrepost, hfound'⟩ := hreposter uri huri
    obtain ⟨reposter, hfound⟩ := hstrains.exists_actor hfound'
    exact ⟨repost, reposter, hstrains.reposts ▸ hrepost, hfound⟩

theorem exists_isBehind {actor : Actor} (hbehind : h.IsBehind item actor) :
    ∃ actor', h'.IsBehind item actor' ∧ actor.Strains actor' := by
  cases hbehind with
  | author hpost hauthor =>
    obtain ⟨actor', hauthor', hactors⟩ := hstrains.exists_actor' hauthor
    exact ⟨actor', .author (hstrains.posts ▸ hpost) hauthor', hactors⟩
  | reposter huri hrepost hreposter =>
    obtain ⟨actor', hreposter', hactors⟩ := hstrains.exists_actor' hreposter
    exact ⟨actor', .reposter huri (hstrains.reposts ▸ hrepost) hreposter', hactors⟩

theorem exists_repliesTo {actor : Actor} (hreplies : h.RepliesTo item actor) :
    ∃ actor', h'.RepliesTo item actor' ∧ actor.Strains actor' := by
  cases hreplies with
  | parent hpost hparent howner =>
    obtain ⟨actor', howner', hactors⟩ := hstrains.exists_actor' howner
    exact ⟨actor', .parent (hstrains.posts ▸ hpost) hparent howner', hactors⟩
  | root hpost hparent howner =>
    obtain ⟨actor', howner', hactors⟩ := hstrains.exists_actor' howner
    exact ⟨actor', .root (hstrains.posts ▸ hpost) hparent howner', hactors⟩

theorem isBlocked (hblocked : h.IsBlocked item) : h'.IsBlocked item := by
  obtain ⟨actor, hbehind, hblock⟩ | ⟨actor, hreplies, hblock⟩ := hblocked
  · obtain ⟨actor', hbehind', hactors⟩ := hstrains.exists_isBehind hbehind
    exact Or.inl ⟨actor', hbehind', hactors.hasBlock hblock⟩
  · obtain ⟨actor', hreplies', hactors⟩ := hstrains.exists_repliesTo hreplies
    exact Or.inr ⟨actor', hreplies', hactors.isBlocked hblock⟩

theorem isMuted (hmuted : h.IsMuted item) : h'.IsMuted item := by
  obtain ⟨actor, hbehind, hmute⟩ := hmuted
  obtain ⟨actor', hbehind', hactors⟩ := hstrains.exists_isBehind hbehind
  exact ⟨actor', hbehind', hactors.isMuted hmute⟩

/-- What is kept with more in the way is kept with less. -/
theorem earns_keep (hkeep : h'.Earns item .keep) : h.Earns item .keep := by
  cases hkeep with
  | keep hwhole hblocked hmuted =>
    exact .keep (hstrains.isWhole_iff.2 hwhole) (mt hstrains.isBlocked hblocked)
      (mt hstrains.isMuted hmuted)

end Hydration.Strains

/-! ### All items -/

/-- **The rules part the items.** Each item has one verdict. Those without anything against them are
kept, in their order and as often as they came, and every other is counted once, under the first
thing that stands against it. No block and no mute that comes to an account brings an item back. -/
theorem Hydration.applyRules_partitions (h : Hydration) (items : List SkeletonItem) :
    (h.applyRules items).items = items.filter (fun item => h.Earns item .keep) ∧
    (h.applyRules items).omitted = {
      notHydrated := items.countP fun item => h.Earns item .notHydrated
      blocked := items.countP fun item => h.Earns item .blocked
      muted := items.countP fun item => h.Earns item .muted
      malformed := 0 } ∧
    (∀ item, ∃! verdict, h.Earns item verdict) ∧
    (h.applyRules items).items.length + (h.applyRules items).omitted.notHydrated +
      (h.applyRules items).omitted.blocked + (h.applyRules items).omitted.muted = items.length ∧
    ∀ did barrier,
      ((h.add did barrier).applyRules items).items.Sublist (h.applyRules items).items := by
  have hverdict : ∀ verdict, (fun item => decide (h.judge item = verdict)) =
      fun item => decide (h.Earns item verdict) := by
    intro verdict
    funext item
    exact decide_eq_decide.2 judge_eq_iff
  have htotal := h.length_add_total items
  refine ⟨?_, ?_, fun item => ⟨h.judge item, h.judge_earns item, fun verdict hearns => ?_⟩, ?_,
    fun did barrier => ?_⟩
  · rw [applyRules, hverdict]
  · simp only [applyRules, hverdict]
  · exact hearns.unique (h.judge_earns item)
  · rw [← htotal, OmittedCounts.total]
    simp only [applyRules]
    omega
  · apply List.monotone_filter_right
    intro item hkeep
    rw [decide_eq_true_eq, judge_eq_iff] at hkeep ⊢
    exact (h.strains_add did barrier).earns_keep hkeep

end FeedHydration
