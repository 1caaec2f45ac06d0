import FeedHydration.Proofs.Item
import FeedHydration.Proofs.PageOutage
import FeedHydration.Proofs.Plan
import FeedHydration.Proofs.Settlement

/-!
# Labels

Labels are looked up in two places: for the items of a page, the accounts behind them and the posts
they reply to, and then for the records that are embedded, as far as they were not looked up before.
Between the two no subject is left out. Every view on a page has the labels that are in effect for
its own subject, and no subject is asked for twice.
-/

namespace FeedHydration

open Std (ExtTreeMap)

/-! ### Views with their labels -/

section IsLabelled

variable (index : Index)

def ProfileView.IsLabelled (view : ProfileView) : Prop :=
  view.labels = index.labelsOf view.did.text

def RecordSlot.IsLabelled : RecordSlot → Prop
  | .quote view => view.labels = index.labelsOf view.uri.text ∧ view.author.IsLabelled index
  | .generator view => view.labels = index.labelsOf view.uri.text ∧ view.creator.IsLabelled index
  | .list view => view.labels = index.labelsOf view.uri.text ∧ view.creator.IsLabelled index
  | .missing _ | .blocked _ => True

structure PostView.IsLabelled (view : PostView) : Prop where
  labels : view.labels = index.labelsOf view.uri.text
  author : view.author.IsLabelled index
  slot : ∀ slot, view.slot? = some slot → slot.IsLabelled index

structure FeedEntry.IsLabelled (entry : FeedEntry) : Prop where
  posts : ∀ view ∈ entry.posts, view.IsLabelled index
  reposter : ∀ reason, entry.reason = some reason → reason.reposter.IsLabelled index

end IsLabelled

theorem RecordSlot.IsLabelled.owner {index : Index} {slot : RecordSlot} {owner : ProfileView}
    (h : slot.IsLabelled index) (howner : slot.owner? = some owner) : owner.IsLabelled index := by
  cases slot with
  | quote view =>
    cases howner
    exact h.2
  | generator view =>
    cases howner
    exact h.2
  | list view =>
    cases howner
    exact h.2
  | missing view => cases howner
  | blocked view => cases howner

/-! ### Labels of a display -/

namespace Display

variable {d : Display} {index : Index} {post : Post} {author actor : Actor}

theorem labels_of_postView? {embed : Option EmbedView} {view : PostView}
    (h : d.postView? post author embed = some view) : view.labels = d.labels.get post.uri.text := by
  obtain ⟨record, -, hview⟩ := Option.bind_eq_some_iff.1 h
  cases hview
  rfl

theorem labels_of_quoteView? {view : QuoteView} (h : d.quoteView? post author = some view) :
    view.labels = d.labels.get post.uri.text := by
  obtain ⟨value, -, hview⟩ := Option.bind_eq_some_iff.1 h
  cases hview
  rfl

/-- Accounts are loaded without labels, so a profile has those that the display gives it. -/
theorem isLabelled_profile {nameBytes : Nat} {viewer : Option Did} {did : Did}
    (hactor : index.actor? nameBytes viewer .withoutLabels did = some actor)
    (hlabels : d.labels.get did.text = index.labelsOf did.text) :
    (d.profile actor).IsLabelled index := by
  obtain ⟨row, -, rfl⟩ := Option.map_eq_some_iff.1 hactor
  exact hlabels

end Display

/-! ### Labels of embedded records -/

theorem LabelSet.IsOf.completed_eq {set : LabelSet} {index : Index} {subjects : List String}
    (h : set.IsOf index subjects) (subject : String) :
    set.completed index subject = index.labelsOf subject := by
  unfold completed
  by_cases hmem : subject ∈ subjects
  · rw [if_pos ((h.covers subject).2 hmem)]
    exact h.get_of_mem hmem
  · have hnone : set.labels[subject]? = none :=
      Option.eq_none_iff_forall_ne_some.2 fun _ hlabels => hmem (h.labels.mem hlabels)
    rw [hnone, Option.getD_none, if_neg]
    exact fun hcovers => hmem ((h.covers subject).1 hcovers)

namespace EmbedContext.ReadFrom

variable {c : EmbedContext} {index : Index} {images : ImageService} {nameBytes : Nat}
  {viewer : Option Did} {known : ExtTreeMap Did Actor} {labels : LabelSet}
  {subjects : List String} {uri : AtUri}

/-- The labels of an owner are read with the record, unless the owner was known before. -/
theorem labels_of_owner (h : c.ReadFrom index images nameBytes viewer known labels)
    (hlabels : labels.IsOf index subjects)
    (hcovered : ∀ (did : Did) (actor : Actor), known[did]? = some actor → did.text ∈ subjects)
    (hmem : uri ∈ c.targets.uris) :
    c.display.labels.get uri.authority.text = index.labelsOf uri.authority.text := by
  rw [h.account uri hmem]
  split
  · rename_i hcontains
    rw [ExtTreeMap.contains_eq_isSome_getElem?, Option.isSome_iff_exists] at hcontains
    obtain ⟨actor, hactor⟩ := hcontains
    exact hlabels.get_of_mem (hcovered _ actor hactor)
  · exact hlabels.completed_eq _

theorem isLabelled_slot (h : c.ReadFrom index images nameBytes viewer known labels)
    (hsound : c.Sound index nameBytes viewer) (hlabels : labels.IsOf index subjects)
    (hcovered : ∀ (did : Did) (actor : Actor), known[did]? = some actor → did.text ∈ subjects)
    (uri : AtUri) : (c.slot uri).IsLabelled index := by
  by_cases hholds : c.targets.Holds uri
  · have hrecord : c.display.labels.get uri.text = index.labelsOf uri.text :=
      (h.record uri hholds.mem_uris).trans (hlabels.completed_eq uri.text)
    have howner := h.labels_of_owner hlabels hcovered hholds.mem_uris
    have hslot := isSlotOf_slot hsound uri
    generalize c.slot uri = slot at hslot
    cases hslot with
    | missing => trivial
    | blocked => trivial
    | quote hpost hauthor _ hview =>
      obtain ⟨huri, hprofile⟩ := Display.fields_of_quoteView? hview
      rw [RecordSlot.IsLabelled, Display.labels_of_quoteView? hview, huri, hprofile,
        Tables.uri_of_post? hpost]
      exact ⟨hrecord, Display.isLabelled_profile hauthor howner⟩
    | @generator generator creator _ hgenerator hcreator =>
      have huri := Tables.uri_of_generator? hgenerator
      have hview : c.display.labels.get generator.uri.text = index.labelsOf generator.uri.text := by
        rw [huri, hrecord]
      exact ⟨hview, Display.isLabelled_profile hcreator howner⟩
    | @list list creator _ hlist hcreator =>
      have huri := Tables.uri_of_list? hlist
      have hview : c.display.labels.get list.uri.text = index.labelsOf list.uri.text := by
        rw [huri, hrecord]
      exact ⟨hview, Display.isLabelled_profile hcreator howner⟩
  · rw [slot_of_not_holds hholds]
    trivial

end EmbedContext.ReadFrom

/-! ### Labels of a page -/

namespace Fetch

variable {index : Index} {images : ImageService} {nameBytes : Nat} {viewer : Option Did}
  {items : List SkeletonItem} {page : Hydration}

theorem answers_labelSet_of_ne (hout : index.outage ≠ some .labels) (subjects : List String) :
    (labelSet subjects).Answers index := by
  have hread : (labels (distinct subjects)).Answers index := ⟨_, gives_read.2 ⟨hout, rfl⟩⟩
  unfold labelSet
  split
  · exact answers_pure _
  · exact hread.bind fun _ _ => answers_clock.bind fun _ _ => answers_pure _

/-- A page that has anything on it could read labels. -/
theorem outage_ne_labels_of_hydrate (h : (hydrate images nameBytes items viewer).Gives index page)
    (hne : items ≠ []) : index.outage ≠ some .labels := by
  intro hout
  obtain ⟨base, hbase, -⟩ := gives_bind.1 (hydrate_eq_bind images nameBytes items viewer ▸ h)
  have hindex : index = index.withOutage .labels := by
    cases index
    cases hout
    rfl
  rw [hindex] at hbase
  exact hne (eq_nil_of_gives_hydrateItems hbase)

theorem isLabelled_of_hydrate (h : (hydrate images nameBytes items viewer).Gives index page)
    (hout : index.outage ≠ some .labels) {uri : AtUri} {view : EmbedView} {slot : RecordSlot}
    (hview : page.embeds[uri]? = some view) (hslot : view.slot? = some slot) :
    slot.IsLabelled index := by
  have hpage := hydrate_isOf h
  obtain ⟨base, hbase, hembeds⟩ := gives_bind.1 (hydrate_eq_bind images nameBytes items viewer ▸ h)
  obtain ⟨views, hviews, rfl⟩ := gives_hydrateEmbeds.1 hembeds
  obtain ⟨c, hc, host, -, -, hembed⟩ := mem_embeds hviews hview
  obtain ⟨target, -, rfl⟩ := EmbedContext.slot_of_embedView? hembed hslot
  have hread := readFrom_of_embedContext (answers_labelSet_of_ne hout) hc
  have hsound := embedContext_sound hpage.actors.isPart hc
  refine hread.isLabelled_slot hsound hpage.labels (fun did actor hactor => ?_) target.uri
  exact List.mem_append_left _ (List.mem_map_of_mem (hpage.actors.mem hactor))

end Fetch

namespace Hydration

variable {index : Index} {images : ImageService} {nameBytes : Nat} {viewer : Option Did}
  {items : List SkeletonItem} {item : SkeletonItem} {h : Hydration}
  (hpage : h.IsOf index images nameBytes viewer items)
  (hslots : ∀ (uri : AtUri) (view : EmbedView) (slot : RecordSlot), h.embeds[uri]? = some view →
    view.slot? = some slot → slot.IsLabelled index)

include hpage

theorem isLabelled_profile {did : Did} {actor : Actor} (hactor : h.actors[did]? = some actor) :
    ((h.display images).profile actor).IsLabelled index := by
  refine Display.isLabelled_profile (hpage.actors.value_eq hactor) ?_
  apply hpage.labels.get_of_mem
  exact List.mem_append_left _ (List.mem_map_of_mem (hpage.actors.mem hactor))

include hslots

theorem isLabelled_postView {uri : AtUri} {post : Post} {author : Actor} {view : PostView}
    (hpost : h.posts[uri]? = some post) (hauthor : h.actors[post.author]? = some author)
    (hview : (h.display images).postView? post author h.embeds[uri]? = some view) :
    view.IsLabelled index := by
  obtain ⟨huri, hprofile, hembed⟩ := Display.fields_of_postView? hview
  have hreached : uri.text ∈ index.tables.subjects viewer items :=
    List.mem_append_right _ (List.mem_map_of_mem (hpage.posts.mem hpost))
  refine ⟨?_, ?_, fun slot hslot => ?_⟩
  · rw [Display.labels_of_postView? hview, huri, Tables.uri_of_post? (hpage.posts.value_eq hpost)]
    exact hpage.labels.get_of_mem hreached
  · rw [hprofile]
    exact isLabelled_profile hpage hauthor
  · rw [PostView.slot?, hembed] at hslot
    obtain ⟨embed, hembed, hslot⟩ := Option.bind_eq_some_iff.1 hslot
    exact hslots uri embed slot hembed hslot

theorem isLabelled_replySlot {uri : AtUri} {view : PostView}
    (hview : (h.replySlot images uri).post? = some view) : view.IsLabelled index := by
  unfold replySlot at hview
  split at hview
  · cases hview
  · rename_i post hpost
    split at hview
    · cases hview
    · rename_i author hauthor
      split at hview
      · cases hview
      · split at hview
        · rename_i view' hview'
          cases hview
          exact isLabelled_postView hpage hslots hpost hauthor hview'
        · cases hview

theorem isLabelled_entry {entry : FeedEntry} (hentry : h.entryOf? images item = some entry) :
    entry.IsLabelled index := by
  obtain ⟨post, author, hmade⟩ := exists_isMadeOf hentry
  refine ⟨fun view hmem => ?_, fun reason hreason => ?_⟩
  · obtain rfl | hmem := List.mem_cons.1 hmem
    · have hview := hmade.view_eq
      rw [Tables.uri_of_post? (hpage.posts.value_eq hmade.post_eq)] at hview
      exact isLabelled_postView hpage hslots hmade.post_eq hmade.author_eq hview
    · obtain ⟨slot, hslot, hview⟩ := List.mem_filterMap.1 hmem
      obtain ⟨uri, rfl⟩ := hmade.reply slot hslot
      exact isLabelled_replySlot hpage hslots hview
  · obtain ⟨uri, repost, reposter, -, -, hreposter, rfl⟩ := hmade.exists_repost hreason
    exact isLabelled_profile hpage hreposter

end Hydration

/-- Labels that are all those in effect for a subject, of what is stored about it. -/
def Index.AreInEffect (index : Index) (subject : String) (labels : List Label) : Prop :=
  Label.IsSettled (index.tables.labels[subject]?.getD []) index.clock labels

theorem Index.areInEffect_iff {index : Index} {subject : String} {labels : List Label} :
    index.AreInEffect subject labels ↔ labels = index.labelsOf subject := by
  rw [AreInEffect, ← Label.settle_eq_iff, eq_comm]
  rfl

/-- A page on which every view has the labels that are in effect for its own subject. -/
structure FeedPage.IsLabelled (index : Index) (page : FeedPage) : Prop where
  posts : ∀ view ∈ page.posts, index.AreInEffect view.uri.text view.labels
  quotes : ∀ view, .quote view ∈ page.slots → index.AreInEffect view.uri.text view.labels
  generators : ∀ view, .generator view ∈ page.slots → index.AreInEffect view.uri.text view.labels
  lists : ∀ view, .list view ∈ page.slots → index.AreInEffect view.uri.text view.labels
  profiles : ∀ view ∈ page.profiles, index.AreInEffect view.did.text view.labels

theorem FeedPage.isLabelled_of_entries {index : Index} {page : FeedPage}
    (h : ∀ entry ∈ page.feed, entry.IsLabelled index) : page.IsLabelled index := by
  have hposts : ∀ view ∈ page.posts, view.IsLabelled index := by
    intro view hmem
    obtain ⟨entry, hentry, hview⟩ := List.mem_flatMap.1 hmem
    exact (h entry hentry).posts view hview
  have hslots : ∀ slot ∈ page.slots, slot.IsLabelled index := by
    intro slot hmem
    obtain ⟨view, hview, hslot⟩ := List.mem_filterMap.1 hmem
    exact (hposts view hview).slot slot hslot
  have hprofiles : ∀ view ∈ page.profiles, view.IsLabelled index := by
    intro view hmem
    rw [profiles, List.mem_append, List.mem_append] at hmem
    obtain (hauthor | howner) | hreposter := hmem
    · obtain ⟨post, hpost, rfl⟩ := List.mem_map.1 hauthor
      exact (hposts post hpost).author
    · obtain ⟨slot, hslot, howner⟩ := List.mem_filterMap.1 howner
      exact (hslots slot hslot).owner howner
    · obtain ⟨reason, hreason, rfl⟩ := List.mem_map.1 hreposter
      obtain ⟨entry, hentry, hreason⟩ := List.mem_filterMap.1 hreason
      exact (h entry hentry).reposter reason hreason
  exact {
    posts := fun view hmem => Index.areInEffect_iff.2 (hposts view hmem).labels
    quotes := fun view hmem => Index.areInEffect_iff.2 (hslots _ hmem).1
    generators := fun view hmem => Index.areInEffect_iff.2 (hslots _ hmem).1
    lists := fun view hmem => Index.areInEffect_iff.2 (hslots _ hmem).1
    profiles := fun view hmem => Index.areInEffect_iff.2 (hprofiles view hmem) }

theorem FeedService.isLabelled_of_gives_page {service : FeedService} {request : FeedRequest}
    {s : Surroundings} {outcome : FeedOutcome} (h : (service.page request).Gives s outcome) :
    outcome.page.IsLabelled s.index := by
  apply FeedPage.isLabelled_of_entries
  intro entry hentry
  obtain ⟨items, page, item, hpage, hitem, -, hentry⟩ := exists_item_of_gives_page h hentry
  have hout := Fetch.outage_ne_labels_of_hydrate hpage (List.ne_nil_of_mem hitem)
  exact Hydration.isLabelled_entry (Fetch.hydrate_isOf hpage)
    (fun uri view slot => Fetch.isLabelled_of_hydrate hpage hout) hentry

/-! ### Reads of labels -/

def labelReads (reads : List Read) : List Read :=
  reads.filter (·.kind = .labels)

theorem labelReads_append (reads reads' : List Read) :
    labelReads (reads ++ reads') = labelReads reads ++ labelReads reads' :=
  List.filter_append _ _

theorem mem_labelReads {reads : List Read} {read : Read} :
    read ∈ labelReads reads ↔ read ∈ reads ∧ read.kind = .labels := by
  rw [labelReads, List.mem_filter, decide_eq_true_eq]

namespace FollowsPlan

variable {reads : List Read} {plan : List ReadKind}

theorem length_labelReads_le (h : FollowsPlan reads plan) :
    (labelReads reads).length ≤ plan.count .labels := by
  rw [labelReads, ← List.countP_eq_length_filter]
  exact h.countP_le .labels

theorem labelReads_eq_nil (h : FollowsPlan reads plan) (hplan : .labels ∉ plan) :
    labelReads reads = [] := by
  have hlength := h.length_labelReads_le
  rw [List.count_eq_zero_of_not_mem hplan] at hlength
  exact List.length_eq_zero_iff.1 (Nat.le_zero.1 hlength)

end FollowsPlan

namespace Fetch

variable {α β : Type} {m : Fetch α} {next : α → Fetch β} {plan : List ReadKind} {index : Index}

/-- A program that asks for the labels of no subjects but some. -/
def AsksWithin (m : Fetch α) (index : Index) (among : String → Prop) : Prop :=
  ∀ read ∈ labelReads (m.run index).reads, ∀ subject ∈ read.ids, among subject

section AsksWithin

variable {among : String → Prop}

theorem asksWithin_of_follows (hm : m.Follows plan) (hplan : .labels ∉ plan) :
    m.AsksWithin index among := by
  intro read hmem
  rw [(hm index).labelReads_eq_nil hplan] at hmem
  cases hmem

theorem asksWithin_iff : m.AsksWithin index among ↔
    m.MakesOnly index fun read => read.kind = .labels → ∀ subject ∈ read.ids, among subject := by
  simp only [AsksWithin, MakesOnly, mem_labelReads, and_imp]

theorem AsksWithin.bind (hm : m.AsksWithin index among)
    (hnext : ∀ a, (next a).AsksWithin index among) : (m >>= next).AsksWithin index among :=
  asksWithin_iff.2 ((asksWithin_iff.1 hm).bind fun a => asksWithin_iff.1 (hnext a))

theorem asksWithin_pure (a : α) : (Pure.pure a : Fetch α).AsksWithin index among := by
  have hpure : (Pure.pure a : Fetch α).Follows [] := follows_pure a
  exact asksWithin_of_follows hpure (by decide)

theorem asksWithin_labelSet {subjects : List String} (h : ∀ subject ∈ subjects, among subject) :
    (labelSet subjects).AsksWithin index among := by
  have hclock : clock.AsksWithin index among := asksWithin_of_follows follows_clock (by decide)
  unfold labelSet
  split
  · exact asksWithin_pure _
  · refine AsksWithin.bind (fun read hmem subject hsubject => ?_) fun _ =>
      hclock.bind fun _ => asksWithin_pure _
    have hread : read = ⟨.labels, distinct subjects⟩ :=
      List.mem_singleton.1 (mem_labelReads.1 hmem).1
    subst hread
    exact h subject (mem_distinct.1 hsubject)

end AsksWithin

/-- The embeds of a page ask for no labels that the page has. -/
theorem asksWithin_embeds (images : ImageService) (nameBytes : Nat) (posts : List Post)
    (viewer : Option Did) (known : ExtTreeMap Did Actor) (labels : LabelSet) :
    (embeds images nameBytes posts viewer known labels).AsksWithin index
      (labels.covers · = false) := by
  dsimp only [embeds]
  split
  · exact asksWithin_pure _
  have htargets : ∀ hosts, (embedTargets hosts viewer).AsksWithin index
      (labels.covers · = false) := fun hosts =>
    asksWithin_of_follows (follows_embedTargets hosts viewer) (by decide)
  have howners : ∀ owners, ((loadActors nameBytes owners viewer .withoutLabels).orElse
      ∅).AsksWithin index (labels.covers · = false) := fun owners =>
    asksWithin_of_follows ((follows_loadActors nameBytes owners viewer).orElse ∅) (by decide)
  refine (htargets _).bind fun targets => (howners _).bind fun _ => ?_
  refine AsksWithin.bind ?_ fun _ => asksWithin_pure _
  exact asksWithin_labelSet fun subject hmem => (LabelSet.mem_missing.1 hmem).2

/-- A program that asks for the labels of no subject twice. -/
def AsksOnce (m : Fetch α) (index : Index) : Prop :=
  (labelReads (m.run index).reads).Pairwise fun read read' => read.ids.Disjoint read'.ids

theorem asksOnce_of_follows (hm : m.Follows plan) (hplan : plan.count .labels ≤ 1) :
    m.AsksOnce index := by
  have hlength := Nat.le_trans (hm index).length_labelReads_le hplan
  unfold AsksOnce
  match labelReads (m.run index).reads, hlength with
  | [], _ => exact List.Pairwise.nil
  | [read], _ => exact List.pairwise_singleton _ read

/-- What asks for no labels may come first. -/
theorem AsksOnce.bind_of_follows (hm : m.Follows plan) (hplan : .labels ∉ plan)
    (hnext : ∀ a, (next a).AsksOnce index) : (m >>= next).AsksOnce index := by
  have hnone := (hm index).labelReads_eq_nil hplan
  unfold AsksOnce
  cases hresult : (m.run index).result with
  | error e =>
    rw [run_bind_of_error hresult, hnone]
    exact List.Pairwise.nil
  | ok a =>
    rw [run_bind_of_ok hresult, labelReads_append, hnone, List.nil_append]
    exact hnext a

/-- What comes after the labels of some subjects must ask for those of others. -/
theorem asksOnce_labelSet_bind {subjects : List String} {next : LabelSet → Fetch β}
    (honce : ∀ set, (next set).AsksOnce index)
    (hother : ∀ set, (next set).AsksWithin index (set.covers · = false)) :
    (labelSet subjects >>= next).AsksOnce index := by
  have hfirst : (labelSet subjects).AsksOnce index :=
    asksOnce_of_follows (follows_labelSet subjects) (by decide)
  have hasked : (labelSet subjects).AsksWithin index (· ∈ subjects) :=
    asksWithin_labelSet fun _ hmem => hmem
  unfold AsksOnce at hfirst ⊢
  cases hresult : ((labelSet subjects).run index).result with
  | error e =>
    rw [run_bind_of_error hresult]
    exact hfirst
  | ok set =>
    rw [run_bind_of_ok hresult, labelReads_append]
    refine List.pairwise_append.2 ⟨hfirst, honce set, fun read hmem read' hmem' => ?_⟩
    intro subject hsubject hsubject'
    have hcovers := ((labelSet_isOf hresult).covers subject).2 (hasked read hmem subject hsubject)
    rw [hother set read' hmem' subject hsubject'] at hcovers
    cases hcovers

theorem asksOnce_hydrate (images : ImageService) (nameBytes : Nat) (items : List SkeletonItem)
    (viewer : Option Did) : (hydrate images nameBytes items viewer).AsksOnce index := by
  have hembeds : ∀ m : Fetch Hydration, m.Follows (embedPlan ++ []) → m.AsksOnce index :=
    fun _ hm => asksOnce_of_follows hm (by decide)
  have hempty : (Pure.pure Hydration.empty : Fetch Hydration).Follows [] := follows_pure _
  dsimp only [hydrate]
  split
  · exact asksOnce_of_follows hempty (by decide)
  refine AsksOnce.bind_of_follows (follows_loadPosts _ viewer) (by decide) fun _ => ?_
  refine AsksOnce.bind_of_follows (follows_loadReposts _) (by decide) fun _ => ?_
  refine AsksOnce.bind_of_follows (follows_loadPosts _ viewer) (by decide) fun _ => ?_
  refine AsksOnce.bind_of_follows (follows_loadActors nameBytes _ viewer) (by decide) fun _ => ?_
  refine asksOnce_labelSet_bind (fun set => hembeds _ ?_) fun set => ?_
  · exact (follows_embeds images nameBytes _ viewer _ set).bind fun _ => follows_pure _
  · exact (asksWithin_embeds images nameBytes _ viewer _ set).bind fun _ => asksWithin_pure _

end Fetch

namespace FeedService

variable {service : FeedService} {request : FeedRequest} {s : Surroundings}

theorem asksOnce_page : (labelReads ((service.page request).run s).reads).Pairwise
    fun read read' => read.ids.Disjoint read'.ids := by
  have hskeleton := (Serve.follows_skeleton service.options request
    (service.options.clampLimit request.limit) s).labelReads_eq_nil (by decide)
  unfold page
  cases hresult : ((Serve.skeleton service.options request
    (service.options.clampLimit request.limit)).run s).result with
  | error e =>
    rw [Serve.run_bind_of_error hresult, hskeleton]
    exact List.Pairwise.nil
  | ok skeleton =>
    rw [Serve.run_bind_of_ok hresult, labelReads_append, hskeleton, List.nil_append,
      Serve.reads_bind_of_follows_nil fun _ =>
        Serve.follows_surroundings.bind fun _ => Serve.follows_pure _]
    exact Fetch.asksOnce_hydrate _ _ skeleton.items _

/-- **No label is lost or invented.** On a page that is served, whatever else could not be read,
every view has the labels that are in effect for its own subject, and no others. The labels are
asked for in two reads at most, which have no subject in common. -/
theorem page_labels_are_exact (service : FeedService) (request : FeedRequest) (s : Surroundings) :
    (∀ outcome, (service.page request).Gives s outcome → outcome.page.IsLabelled s.index) ∧
    (labelReads ((service.page request).run s).reads).length ≤ 2 ∧
    (labelReads ((service.page request).run s).reads).Pairwise fun read read' =>
      read.ids.Disjoint read'.ids :=
  ⟨fun _ => isLabelled_of_gives_page, (follows_page service request s).length_labelReads_le,
    asksOnce_page⟩

end FeedService

namespace Sample

def spam (subject : String) : Label :=
  ⟨foe, subject, none, "spam", false, noon, none⟩

/-- The small index, with a label on the friend, which is read for the items, and one on the
embedded generator of the foe, which is read for the embeds. -/
def flagged : Surroundings :=
  { surroundings with
    index := { index with
      tables := { tables with
        labels := ExtTreeMap.ofList [
          (friend.text, [spam friend.text]),
          (foeGenerator.text, [spam foeGenerator.text])] } } }

theorem any_flagged : ((service.page request).run flagged).result.toOption.any
    (fun outcome => !outcome.page.slots.isEmpty) = true := by
  decide +kernel

theorem page_labels_are_exact_flagged :
    ∃ outcome, (service.page request).Gives flagged outcome ∧ outcome.page.slots ≠ [] ∧
      flagged.index.labelsOf foeGenerator.text ≠ [] ∧ outcome.page.IsLabelled flagged.index := by
  obtain ⟨outcome, hgives, hslots⟩ := Serve.exists_gives any_flagged
  obtain ⟨hlabels, -, -⟩ := FeedService.page_labels_are_exact service request flagged
  exact ⟨outcome, hgives, by simpa using hslots, by decide +kernel, hlabels outcome hgives⟩

end Sample

end FeedHydration
