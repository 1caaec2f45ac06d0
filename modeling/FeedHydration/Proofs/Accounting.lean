import FeedHydration.Proofs.Page
import Mathlib.Data.List.Forall2

/-!
# The account of a page

An item of a skeleton is dropped by the rules, or it turns out that its stored body is no JSON, or it
becomes an entry, or it stands behind the item that filled the page. Whatever the rules keep has its
post, its accounts and its repost at hand, so a body is all that can still be wrong with it. Hence the
counts of a page and its entries add up to the items that it was made of.
-/

namespace FeedHydration

open Std (ExtTreeMap)

/-! ### Up to the limit -/

/-- The items that are looked at until a page is full, when the page takes those that are shown. -/
structure IsReached {α : Type} (shown : α → Bool) (limit : Nat) (items reached : List α) : Prop where
  start : reached <+: items
  room : ∀ before item, before ++ [item] <+: reached → before.countP shown < limit
  full : reached = items ∨ reached.countP shown = limit

namespace IsReached

variable {α : Type} {shown : α → Bool} {limit : Nat} {items reached : List α}

theorem nil (h : items = [] ∨ limit = 0) : IsReached shown limit items [] where
  start := ⟨items, rfl⟩
  room := by
    intro before item hbefore
    simp at hbefore
  full := by
    obtain rfl | rfl := h
    · exact Or.inl rfl
    · exact Or.inr rfl

theorem cons (h : IsReached shown limit items reached) {item : α} {room : Nat}
    (hroom : room = limit + if shown item then 1 else 0) (hpos : 0 < room) :
    IsReached shown room (item :: items) (item :: reached) where
  start := List.cons_prefix_cons.2 ⟨rfl, h.start⟩
  room := by
    intro before last hbefore
    cases before with
    | nil => exact hpos
    | cons first before =>
      rw [List.cons_append, List.cons_prefix_cons] at hbefore
      obtain ⟨rfl, hbefore⟩ := hbefore
      have hlt : before.countP shown < limit := h.room before last hbefore
      rw [List.countP_cons]
      omega
  full := by
    obtain rfl | hfull := h.full
    · exact Or.inl rfl
    · right
      rw [List.countP_cons, hfull, hroom]

theorem countP_le (h : IsReached shown limit items reached) : reached.countP shown ≤ limit := by
  obtain rfl | ⟨before, item, rfl⟩ := reached.eq_nil_or_concat'
  · exact Nat.zero_le _
  · have hlt : before.countP shown < limit := h.room before item (List.prefix_refl _)
    have hone : [item].countP shown ≤ 1 := List.countP_le_length
    rw [List.countP_append]
    omega

end IsReached

/-- Assembling stops behind the item that fills the page. -/
theorem Assembled.exists_reached {entryOf? : SkeletonItem → Option FeedEntry}
    {shown : SkeletonItem → Bool} (limit : Nat) {items : List SkeletonItem}
    (hshown : ∀ item ∈ items, shown item = (entryOf? item).isSome) :
    ∃ reached, IsReached shown limit items reached ∧
      ofItems entryOf? limit items =
        ⟨reached.filterMap entryOf?, reached.countP fun item => !shown item⟩ := by
  -- along the items; an entry takes one from the limit, an item passed over leaves it as it is
  induction items generalizing limit with
  | nil => exact ⟨[], .nil (Or.inl rfl), by cases limit <;> rfl⟩
  | cons item items ih =>
    have hrest : ∀ item ∈ items, shown item = (entryOf? item).isSome := fun item hmem =>
      hshown item (List.mem_cons_of_mem _ hmem)
    have hitem : shown item = (entryOf? item).isSome := hshown item List.mem_cons_self
    cases limit with
    | zero => exact ⟨[], .nil (Or.inr rfl), rfl⟩
    | succ limit =>
      cases hentry : entryOf? item with
      | some entry =>
        obtain ⟨reached, hreached, hassembled⟩ := ih limit hrest
        rw [hentry, Option.isSome_some] at hitem
        refine ⟨item :: reached, hreached.cons (by simp [hitem]) limit.succ_pos, ?_⟩
        simp [ofItems, hentry, hassembled, hitem]
      | none =>
        obtain ⟨reached, hreached, hassembled⟩ := ih (limit + 1) hrest
        rw [hentry, Option.isSome_none] at hitem
        refine ⟨item :: reached, hreached.cons (by simp [hitem]) limit.succ_pos, ?_⟩
        simp [ofItems, hentry, hassembled, hitem]

/-! ### What becomes of an item that is kept -/

/-- A post whose stored body is no JSON. -/
def Tables.isMalformed (t : Tables) (uri : AtUri) : Bool :=
  t.posts[uri]?.any fun row => (Json.ofBytes? row.record).isNone

theorem Tables.isMalformed_of_post? {t : Tables} {viewer : Option Did} {uri : AtUri} {post : Post}
    (h : t.post? viewer uri = some post) :
    t.isMalformed uri = (Json.ofBytes? post.body).isNone := by
  obtain ⟨row, hrow, rfl⟩ := Option.map_eq_some_iff.1 h
  rw [visible?_eq_some_iff] at hrow
  rw [isMalformed, hrow.1]
  rfl

theorem Display.isSome_postView? (d : Display) (post : Post) (author : Actor)
    (embed : Option EmbedView) :
    (d.postView? post author embed).isSome = (Json.ofBytes? post.body).isSome := by
  unfold postView?
  cases Json.ofBytes? post.body <;> rfl

/-- An entry made of an item: its post, its context, and a reason if it is a repost. -/
structure FeedEntry.IsFor (item : SkeletonItem) (entry : FeedEntry) : Prop where
  post : entry.post.uri = item.post
  context : entry.feedContext = item.feedContext
  reason : entry.reason.isSome = item.repost.isSome

namespace Hydration

variable {index : Index} {images : ImageService} {nameBytes : Nat} {viewer : Option Did}
  {items : List SkeletonItem} {item : SkeletonItem} {h : Hydration} {entry : FeedEntry}

theorem isSome_of_reason? {reason : Option RepostReason} (h' : h.reason? images item = some reason) :
    reason.isSome = item.repost.isSome := by
  unfold reason? at h'
  cases hrepost : item.repost with
  | none =>
    simp only [hrepost, Option.some.injEq] at h'
    rw [← h']
    rfl
  | some uri =>
    simp only [hrepost, Option.bind_eq_bind, Option.bind_eq_some_iff, Option.some.injEq] at h'
    obtain ⟨repost, -, reposter, -, rfl⟩ := h'
    rfl

theorem isSome_reason? (hkeep : h.judge item = .keep) : (h.reason? images item).isSome = true := by
  obtain ⟨post, author, -, -, -, hreposters, -⟩ := judge_eq_keep.1 hkeep
  unfold reason?
  cases hrepost : item.repost with
  | none => rfl
  | some uri =>
    obtain ⟨reposter, hreposter, -⟩ := hreposters uri hrepost
    obtain ⟨repost, hfound, hactor⟩ := Option.bind_eq_some_iff.1 hreposter
    simp [hfound, hactor]

variable (hpage : h.IsOf index images nameBytes viewer items)

include hpage

/-- Only a malformed body keeps a kept item from becoming an entry. -/
theorem isSome_entryOf? (hkeep : h.judge item = .keep) :
    (h.entryOf? images item).isSome = !index.tables.isMalformed item.post := by
  obtain ⟨post, author, hpost, hauthor, -⟩ := judge_eq_keep.1 hkeep
  have hreason : (h.reason? images item).isSome = true := isSome_reason? hkeep
  obtain ⟨reason, hreason⟩ := Option.isSome_iff_exists.1 hreason
  have hview := (h.display images).isSome_postView? post author h.embeds[post.uri]?
  rw [Tables.isMalformed_of_post? (hpage.posts.value_eq hpost), Option.not_isNone, ← hview]
  unfold entryOf?
  simp only [hpost, hauthor, hreason, Option.bind_eq_bind, Option.bind_some]
  cases (h.display images).postView? post author h.embeds[post.uri]? <;> rfl

theorem isFor_of_entryOf? (hentry : h.entryOf? images item = some entry) :
    entry.IsFor item := by
  obtain ⟨post, author, hmade⟩ := exists_isMadeOf hentry
  have huri : entry.post.uri = post.uri := (Display.fields_of_postView? hmade.view_eq).1
  rw [Tables.uri_of_post? (hpage.posts.value_eq hmade.post_eq)] at huri
  exact ⟨huri, hmade.context_eq, isSome_of_reason? hmade.reason_eq⟩

end Hydration

/-! ### What becomes of a page -/

theorem forall₂_filterMap {α β : Type} {f : α → Option β} {p : α → Bool} {r : α → β → Prop}
    {items : List α} (hp : ∀ a ∈ items, (f a).isSome = p a)
    (hr : ∀ a ∈ items, ∀ b, f a = some b → r a b) :
    List.Forall₂ r (items.filter p) (items.filterMap f) := by
  induction items with
  | nil => exact .nil
  | cons a items ih =>
    have hrest : List.Forall₂ r (items.filter p) (items.filterMap f) :=
      ih (fun a hmem => hp a (List.mem_cons_of_mem _ hmem))
        fun a hmem => hr a (List.mem_cons_of_mem _ hmem)
    have hpa : (f a).isSome = p a := hp a List.mem_cons_self
    cases hfa : f a with
    | none =>
      rw [hfa, Option.isSome_none] at hpa
      rwa [List.filter_cons_of_neg (by simp [← hpa]), List.filterMap_cons_none hfa]
    | some b =>
      rw [hfa, Option.isSome_some] at hpa
      rw [List.filter_cons_of_pos hpa.symm, List.filterMap_cons_some hfa]
      exact .cons (hr a List.mem_cons_self b hfa) hrest

theorem Hydration.length_add_total (h : Hydration) (items : List SkeletonItem) :
    (h.applyRules items).items.length + (h.applyRules items).omitted.total = items.length := by
  unfold applyRules OmittedCounts.total
  simp only [← List.countP_eq_length_filter, Nat.add_zero]
  induction items with
  | nil => rfl
  | cons item items ih =>
    simp only [List.countP_cons, List.length_cons]
    cases h.judge item <;> simp <;> omega

namespace FeedService

variable {service : FeedService} {request : FeedRequest} {s : Surroundings} {outcome : FeedOutcome}

theorem one_le_clampLimit (options : FeedOptions) (requested : Option Nat) :
    1 ≤ options.clampLimit requested := by
  unfold FeedOptions.clampLimit
  omega

theorem clampLimit_le (options : FeedOptions) (requested : Option Nat) :
    options.clampLimit requested ≤ max 1 options.maxLimit := by
  unfold FeedOptions.clampLimit
  omega

/-- A page is made of the kept items that were looked at until it was full. -/
theorem exists_reached_of_gives_page (h : (service.page request).Gives s outcome) :
    ∃ skeleton page reached,
      (Serve.skeleton service.options request
        (service.options.clampLimit request.limit)).Gives s skeleton ∧
      (service.hydrate skeleton.items request.viewer).Gives s.index page ∧
      IsReached (fun item => !s.index.tables.isMalformed item.post)
        (service.options.clampLimit request.limit) (page.applyRules skeleton.items).items reached ∧
      outcome.page.feed = reached.filterMap (page.entryOf? service.images) ∧
      outcome.omitted = { (page.applyRules skeleton.items).omitted with
        malformed := reached.countP fun item => s.index.tables.isMalformed item.post } := by
  obtain ⟨skeleton, hskeleton, hpresent⟩ := gives_page.1 h
  obtain ⟨page, hpage, hgives⟩ := Fetch.gives_bind.1 hpresent
  rw [Fetch.gives_pure] at hgives
  subst hgives
  have hshown : ∀ item ∈ (page.applyRules skeleton.items).items,
      (!s.index.tables.isMalformed item.post) = (page.entryOf? service.images item).isSome := by
    intro item hmem
    have hkeep : page.judge item = .keep := by simpa using (List.mem_filter.1 hmem).2
    exact (Hydration.isSome_entryOf? (Fetch.hydrate_isOf hpage) hkeep).symm
  obtain ⟨reached, hreached, hassembled⟩ :=
    Assembled.exists_reached (service.options.clampLimit request.limit) hshown
  refine ⟨skeleton, page, reached, hskeleton, hpage, hreached, ?_, ?_⟩
  · rw [FeedOutcome.assemble, hassembled]
  · rw [FeedOutcome.assemble, hassembled]
    simp [Hydration.applyRules]

theorem sublist_of_isReached {page : Hydration} {items reached : List SkeletonItem}
    {shown : SkeletonItem → Bool} {limit : Nat}
    (h : IsReached shown limit (page.applyRules items).items reached) : reached.Sublist items :=
  h.start.sublist.trans List.filter_sublist

/-- **Every item is accounted for.** The entries of a page are, in their order, the items that were
looked at and have a body to show. With those that were dropped or passed over they make up the
skeleton, as far as the page had room; and nothing but its body is wrong with an item passed over. -/
theorem page_accounts_for_items (h : (service.page request).Gives s outcome) :
    ∃ skeleton page reached,
      (Serve.skeleton service.options request
        (service.options.clampLimit request.limit)).Gives s skeleton ∧
      (service.hydrate skeleton.items request.viewer).Gives s.index page ∧
      1 ≤ service.options.clampLimit request.limit ∧
      service.options.clampLimit request.limit ≤ max 1 service.options.maxLimit ∧
      outcome.page.feed.length ≤ service.options.clampLimit request.limit ∧
      (reached.filter fun item => !s.index.tables.isMalformed item.post).Sublist skeleton.items ∧
      List.Forall₂ FeedEntry.IsFor
        (reached.filter fun item => !s.index.tables.isMalformed item.post) outcome.page.feed ∧
      outcome.page.feed.length + outcome.omitted.total ≤ skeleton.items.length ∧
      (outcome.page.feed.length < service.options.clampLimit request.limit →
        outcome.page.feed.length + outcome.omitted.total = skeleton.items.length) ∧
      IsReached (fun item => !s.index.tables.isMalformed item.post)
        (service.options.clampLimit request.limit)
        (skeleton.items.filter fun item => page.judge item = .keep) reached ∧
      outcome.omitted.malformed = reached.countP fun item => s.index.tables.isMalformed item.post := by
  obtain ⟨skeleton, page, reached, hskeleton, hpage, hreached, hfeed, homitted⟩ :=
    exists_reached_of_gives_page h
  set limit := service.options.clampLimit request.limit
  set shown : SkeletonItem → Bool := fun item => !s.index.tables.isMalformed item.post
  have hkept : ∀ item ∈ reached, page.judge item = .keep := by
    intro item hmem
    simpa using (List.mem_filter.1 (hreached.start.subset hmem)).2
  have hentries : List.Forall₂ FeedEntry.IsFor (reached.filter shown) outcome.page.feed := by
    rw [hfeed]
    exact forall₂_filterMap
      (fun item hmem => Hydration.isSome_entryOf? (Fetch.hydrate_isOf hpage) (hkept item hmem))
      fun item _ entry => Hydration.isFor_of_entryOf? (Fetch.hydrate_isOf hpage)
  have hlength : outcome.page.feed.length = reached.countP shown := by
    rw [List.countP_eq_length_filter, hentries.length_eq]
  have hpassed : reached.length = reached.countP shown + outcome.omitted.malformed := by
    rw [homitted, List.length_eq_countP_add_countP shown]
    congr 1
    exact List.countP_congr fun item _ => by simp [shown]
  have htotal : outcome.omitted.total =
      (page.applyRules skeleton.items).omitted.total + outcome.omitted.malformed := by
    rw [homitted]
    rfl
  have hverdicts := page.length_add_total skeleton.items
  have hstart := hreached.start.length_le
  refine ⟨skeleton, page, reached, hskeleton, hpage, one_le_clampLimit _ _, clampLimit_le _ _, ?_,
    List.filter_sublist.trans (sublist_of_isReached hreached), hentries, by omega, ?_, hreached,
    by rw [homitted]⟩
  · rw [hlength]
    exact hreached.countP_le
  · intro hroom
    -- a page with room left has looked at every item
    obtain hall | hfull := hreached.full
    · rw [← hall] at hverdicts
      omega
    · omega

end FeedService

namespace Sample

def listing (entries : List String) : HttpReply :=
  ⟨200, ⟨[]⟩, Utf8.encode ("\x7b\"feed\":[" ++ String.intercalate "," entries ++ "]\x7d").toList⟩

def entryOf (uri : AtUri) : String :=
  "\x7b\"post\":\"" ++ uri.text ++ "\"\x7d"

/-- The small index, but the body of the friend's post is broken, and the generator lists that post
before and behind the post of the foe. -/
def broken : Surroundings :=
  { surroundings with
    index := { index with
      tables := { tables with posts := tables.posts.insert friendPost (postRow "lies") } }
    generator _ := ⟨0, .ok (listing [entryOf friendPost, entryOf foePost, entryOf friendPost])⟩ }

/-- A request of someone who is logged out. -/
def stranger (limit : Option Nat) : FeedRequest := ⟨friendGenerator, limit, none, none, ⟨[]⟩⟩

theorem any_broken : ((service.page (stranger (some 1))).run broken).result.toOption.any
    (fun outcome => outcome.page.feed.map (·.post.uri) = [foePost] ∧
      outcome.omitted.malformed = 1) = true := by
  decide +kernel

/-- The first item is passed over, and the second fills the page. -/
theorem page_accounts_broken :
    ∃ outcome, ∃ reached : List SkeletonItem,
      (service.page (stranger (some 1))).Gives broken outcome ∧
      outcome.page.feed.map (·.post.uri) = [foePost] ∧ outcome.omitted.malformed = 1 ∧
      List.Forall₂ FeedEntry.IsFor
        (reached.filter fun item => !broken.index.tables.isMalformed item.post)
        outcome.page.feed ∧
      1 = reached.countP fun item => broken.index.tables.isMalformed item.post := by
  obtain ⟨outcome, hgives, hcheck⟩ := Serve.exists_gives any_broken
  obtain ⟨hfeed, hmalformed⟩ := of_decide_eq_true hcheck
  obtain ⟨-, -, reached, -, -, -, -, -, -, hentries, -, -, -, hcount⟩ :=
    FeedService.page_accounts_for_items hgives
  exact ⟨outcome, reached, hgives, hfeed, hmalformed, hentries, hmalformed ▸ hcount⟩

end Sample

end FeedHydration

