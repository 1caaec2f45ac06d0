import FeedHydration.Proofs.Embed
import FeedHydration.Proofs.Outage

/-!
# Embeds during an outage

The embeds of a page are resolved whatever fails. A read that fails can only take embedded records
away: each is shown as without the outage, or it is reported missing. How far this goes is another
matter. Posts and generators that cannot be read take nothing along with them; lists do, since the
accounts behind all embedded records are loaded with the lists through which they are muted.
-/

namespace FeedHydration

open Std (ExtTreeMap)

/-! ### Labels -/

namespace LabelSet

variable {set extra : LabelSet} {index : Index} {candidates : List String} {subject : String}

/-- The labels of a subject when it has been asked for, unless it was known before. -/
def completed (set : LabelSet) (index : Index) (subject : String) : List Label :=
  set.labels[subject]?.getD (if set.covers subject then [] else index.labelsOf subject)

theorem get_merged (set extra : LabelSet) (subject : String) :
    (set.merged extra).get subject = set.labels[subject]?.getD (extra.get subject) := by
  unfold get merged
  rw [ExtTreeMap.getElem?_union]
  cases set.labels[subject]? <;> rfl

theorem mem_missing :
    subject ∈ set.missing candidates ↔ subject ∈ candidates ∧ set.covers subject = false := by
  rw [missing, mem_distinct, List.mem_filter, Bool.not_eq_true']

theorem get_merged_of_mem (h : extra.IsOf index (set.missing candidates))
    (hmem : subject ∈ candidates) :
    (set.merged extra).get subject = set.completed index subject := by
  rw [get_merged, completed]
  cases hcovers : set.covers subject with
  | false => rw [h.get_of_mem (mem_missing.2 ⟨hmem, hcovers⟩), if_neg Bool.false_ne_true]
  | true =>
    have hknown : subject ∉ set.missing candidates := by
      rw [mem_missing, hcovers]
      simp
    rw [h.get_of_notMem hknown, if_pos rfl]

theorem get_merged_of_notMem (h : extra.IsOf index (set.missing candidates))
    (hmem : subject ∉ candidates) : (set.merged extra).get subject = set.get subject := by
  rw [get_merged, h.get_of_notMem fun hmissing => hmem (mem_missing.1 hmissing).1]
  rfl

end LabelSet

/-! ### What a context reads -/

/-- A context into which nothing but what the index says was read, next to the accounts and labels
that were known before. -/
structure EmbedContext.ReadFrom (c : EmbedContext) (index : Index) (images : ImageService)
    (nameBytes : Nat) (viewer : Option Did) (known : ExtTreeMap Did Actor) (labels : LabelSet) :
    Prop where
  posts : IsPart c.targets.posts (index.tables.post? viewer)
  generators : IsPart c.targets.generators (index.tables.generator? viewer)
  lists : IsPart c.targets.lists (index.tables.list? viewer)
  kept : ∀ (did : Did) (actor : Actor), known[did]? = some actor → c.actors[did]? = some actor
  fresh : ∀ (did : Did) (actor : Actor), known[did]? = none → c.actors[did]? = some actor →
    index.actor? nameBytes viewer .withoutLabels did = some actor
  images : c.display.images = images
  record : ∀ uri ∈ c.targets.uris,
    c.display.labels.get uri.text = labels.completed index uri.text
  account : ∀ uri ∈ c.targets.uris, c.display.labels.get uri.authority.text =
    if known.contains uri.authority then labels.get uri.authority.text
    else labels.completed index uri.authority.text

/-- Accounts stand under their own dids if those do that were known before. -/
theorem EmbedContext.did_eq {c : EmbedContext} {index : Index} {nameBytes : Nat}
    {viewer : Option Did} {known : ExtTreeMap Did Actor}
    (hkept : ∀ (did : Did) (actor : Actor), known[did]? = some actor → c.actors[did]? = some actor)
    (hfresh : ∀ (did : Did) (actor : Actor), known[did]? = none → c.actors[did]? = some actor →
      index.actor? nameBytes viewer .withoutLabels did = some actor)
    (hknown : ∀ (did : Did) (actor : Actor), known[did]? = some actor → actor.did = did)
    {did : Did} {actor : Actor} (hactor : c.actors[did]? = some actor) : actor.did = did := by
  cases hfound : known[did]? with
  | none => exact Index.did_of_actor? (hfresh did actor hfound hactor)
  | some actor' =>
    have hsame := hkept did actor' hfound
    rw [hactor] at hsame
    cases hsame
    exact hknown did actor hfound

namespace EmbedContext.ReadFrom

variable {c c' : EmbedContext} {index : Index} {images : ImageService} {nameBytes : Nat}
  {viewer : Option Did} {known : ExtTreeMap Did Actor} {labels : LabelSet} {uri : AtUri}

theorem keyed (h : c.ReadFrom index images nameBytes viewer known labels) : c.targets.Keyed :=
  EmbedTargets.keyed_of_isPart h.posts h.generators h.lists

/-- What may fail plays no part in what the index says. -/
theorem of_withOutage {kind : ReadKind}
    (h : c.ReadFrom (index.withOutage kind) images nameBytes viewer known labels) :
    c.ReadFrom index images nameBytes viewer known labels :=
  ⟨h.posts, h.generators, h.lists, h.kept, h.fresh, h.images, h.record, h.account⟩

/-- Two contexts that have read the same record and the same owner agree about it, whatever else
either has read. -/
theorem agreeAt (h : c.ReadFrom index images nameBytes viewer known labels)
    (h' : c'.ReadFrom index images nameBytes viewer known labels)
    (hknown : ∀ (did : Did) (actor : Actor), known[did]? = some actor → actor.did = did)
    (hsame : c.targets.SameAt c'.targets uri)
    (howner : c.targets.Holds uri → c.actors[uri.authority]? = c'.actors[uri.authority]?) :
    c.AgreeAt c' uri := by
  have himages : c.display.images = c'.display.images := h.images.trans h'.images.symm
  refine ⟨hsame, howner, fun hholds => ⟨himages, ?_⟩, fun hholds actor hactor => ⟨himages, ?_⟩⟩
  · rw [h.record uri hholds.mem_uris, h'.record uri (hsame.holds hholds).mem_uris]
  · rw [did_eq h.kept h.fresh hknown hactor, h.account uri hholds.mem_uris,
      h'.account uri (hsame.holds hholds).mem_uris]

end EmbedContext.ReadFrom

namespace Fetch

variable {index : Index} {images : ImageService} {nameBytes : Nat} {viewer : Option Did}
  {known : ExtTreeMap Did Actor} {labels : LabelSet} {hosts : List EmbedHost}
  {targets targets' : EmbedTargets} {c c' : EmbedContext} {kind : ReadKind} {uri : AtUri}

/-- The labels of an account that was known before are not asked for again. -/
theorem labels_of_embedContext_of_known
    (h : (embedContext images nameBytes hosts viewer known labels).Gives index c) {did : Did}
    (hknown : did ∈ known) : c.display.labels.get did.text = labels.get did.text := by
  obtain ⟨-, _, extra, -, hextra, -, hdisplay⟩ := loads_of_embedContext h
  rw [hdisplay]
  obtain hextra | ⟨-, rfl⟩ := gives_orElse.1 hextra
  · apply LabelSet.get_merged_of_notMem (labelSet_isOf hextra)
    -- an account is not looked up as a record, and as an account only if it is new
    rw [List.mem_append, not_or]
    constructor
    · intro htext
      obtain ⟨uri, -, htext⟩ := List.mem_map.1 htext
      exact AtUri.text_ne_text_did _ _ htext
    · intro htext
      obtain ⟨did', hnew, htext⟩ := List.mem_map.1 htext
      rw [Did.ext htext] at hnew
      exact EmbedTargets.notMem_of_mem_newOwners hnew hknown
  · rw [LabelSet.get_merged]
    rfl

theorem readFrom_of_embedContext (hlabels : ∀ subjects, (labelSet subjects).Answers index)
    (h : (embedContext images nameBytes hosts viewer known labels).Gives index c) :
    c.ReadFrom index images nameBytes viewer known labels := by
  obtain ⟨htargets, loaded, extra, -, hextra, -, hdisplay⟩ := loads_of_embedContext h
  obtain ⟨hposts, hgenerators, hlists⟩ := embedTargets_isPart htargets
  have hkeyed := embedTargets_keyed htargets
  rw [gives_orElse_of_answers (hlabels _)] at hextra
  have hmerged := labelSet_isOf hextra
  refine ⟨hposts, hgenerators, hlists, fun _ _ => actor_of_embedContext_of_known h,
    fun _ _ => actor?_of_embedContext_of_new h, images_of_embedContext h, ?_, ?_⟩
  · intro uri hmem
    rw [hdisplay]
    exact LabelSet.get_merged_of_mem hmerged
      (List.mem_append_left _ (List.mem_map_of_mem hmem))
  · intro uri hmem
    by_cases hcontains : known.contains uri.authority = true
    · rw [if_pos hcontains]
      exact labels_of_embedContext_of_known h (ExtTreeMap.contains_iff_mem.1 hcontains)
    · rw [if_neg hcontains, hdisplay]
      apply LabelSet.get_merged_of_mem hmerged
      have hnew : uri.authority ∈ c.targets.newOwners known := by
        rw [EmbedTargets.mem_newOwners hkeyed]
        rw [ExtTreeMap.contains_eq_isSome_getElem?, Option.not_isSome_iff_eq_none] at hcontains
        exact ⟨⟨uri, hmem, rfl⟩, hcontains⟩
      exact List.mem_append_right _ (List.mem_map_of_mem hnew)

/-- When the load of the new owners fails, there are none but the known ones. -/
theorem actors_of_embedContext
    (h : (embedContext images nameBytes hosts viewer known labels).Gives index c)
    (hload :
      ¬ (loadActors nameBytes (c.targets.newOwners known) viewer .withoutLabels).Answers index)
    (did : Did) : c.actors[did]? = known[did]? := by
  obtain ⟨-, loaded, extra, hloaded, -, hactors, -⟩ := loads_of_embedContext h
  obtain hloaded | ⟨-, rfl⟩ := gives_orElse.1 hloaded
  · exact absurd ⟨loaded, hloaded⟩ hload
  · rw [hactors, ExtTreeMap.getElem?_union, ExtTreeMap.getElem?_empty, Option.or_none]

/-! ### Records under an outage -/

section Outage

variable (hout : index.outage = none)

include hout

/-- An outage leaves a table of targets as it is, or empty. -/
theorem embedTargets_withOutage (h : (embedTargets hosts viewer).Gives index targets)
    (h' : (embedTargets hosts viewer).Gives (index.withOutage kind) targets') :
    (targets'.posts = targets.posts ∨ targets'.posts = ∅ ∧ kind ∈ [.posts, .actors]) ∧
      (targets'.generators = targets.generators ∨
        targets'.generators = ∅ ∧ kind ∈ [.generators, .actors]) ∧
      (targets'.lists = targets.lists ∨ targets'.lists = ∅ ∧ kind ∈ [.lists, .actors]) := by
  obtain ⟨hposts, hgenerators, hlists⟩ := gives_embedTargets.1 h
  obtain ⟨hposts', hgenerators', hlists'⟩ := gives_embedTargets.1 h'
  exact ⟨(isStrict_loadPosts viewer (by decide) (by decide) _).eq_or_eq_of_orElse hout hposts
      hposts',
    (isStrict_loadGenerators viewer (by decide) (by decide) _).eq_or_eq_of_orElse hout hgenerators
      hgenerators',
    (isStrict_loadLists viewer (by decide) (by decide) _).eq_or_eq_of_orElse hout hlists hlists'⟩

theorem sameAt_of_holds (h : (embedTargets hosts viewer).Gives index targets)
    (h' : (embedTargets hosts viewer).Gives (index.withOutage kind) targets')
    (hholds : targets'.Holds uri) : targets'.SameAt targets uri := by
  obtain ⟨hposts, hgenerators, hlists⟩ := embedTargets_withOutage hout h h'
  refine ⟨fun hc => ?_, fun hc => ?_, fun hc => ?_⟩
  · obtain hsame | ⟨hempty, -⟩ := hposts
    · rw [hsame]
    · obtain ⟨post, hpost⟩ := hholds.post hc
      simp [hempty] at hpost
  · obtain hsame | ⟨hempty, -⟩ := hgenerators
    · rw [hsame]
    · obtain ⟨generator, hgenerator⟩ := hholds.generator hc
      simp [hempty] at hgenerator
  · obtain hsame | ⟨hempty, -⟩ := hlists
    · rw [hsame]
    · obtain ⟨list, hlist⟩ := hholds.list hc
      simp [hempty] at hlist

theorem answers_labelSet_withOutage (hkind : kind ≠ .labels) (subjects : List String) :
    (labelSet subjects).Answers (index.withOutage kind) := by
  have hstrict : (labelSet subjects).IsStrict [.labels] := isStrict_labelSet (by decide) subjects
  exact hstrict.answers hout (by simpa using hkind) (answers_labelSet hout subjects)

variable (hknown : ∀ (did : Did) (actor : Actor), known[did]? = some actor → actor.did = did)

include hknown

/-- **An outage only takes records away.** Whatever reads fail, other than those of labels, a record
in an embed is shown as ever or reported missing. -/
theorem slot_withOutage (hkind : kind ≠ .labels)
    (h : (embedContext images nameBytes hosts viewer known labels).Gives index c)
    (h' : (embedContext images nameBytes hosts viewer known labels).Gives (index.withOutage kind)
      c') (uri : AtUri) :
    c'.slot uri = c.slot uri ∨ c'.slot uri = .missing { uri := uri } := by
  have hread := readFrom_of_embedContext (answers_labelSet hout) h
  have hread' := (readFrom_of_embedContext (answers_labelSet_withOutage hout hkind) h').of_withOutage
  by_cases hholds : c'.targets.Holds uri
  · cases howner : c'.actors[uri.authority]? with
    | none => exact Or.inr (EmbedContext.slot_of_owner_none hread'.keyed howner)
    | some owner =>
      have hsame := sameAt_of_holds hout (loads_of_embedContext h).1 (loads_of_embedContext h').1
        hholds
      refine Or.inl (EmbedContext.slot_congr hread'.keyed ?_)
      refine hread'.agreeAt hread hknown hsame fun _ => ?_
      rw [owner_of_embedContext h (answers_loadActors hout) (hsame.holds hholds).mem_uris, howner]
      cases hfound : known[uri.authority]? with
      | some actor => rw [← howner, hread'.kept _ _ hfound, Option.some_or]
      | none => rw [Option.none_or, hread'.fresh _ _ hfound howner]
  · exact Or.inr (EmbedContext.slot_of_not_holds hholds)

end Outage

end Fetch

/-! ### Embeds under an outage -/

namespace EmbedView

/-- An embed with its record reported missing; what stands beside the record stays. -/
def withoutRecord : EmbedView → EmbedView
  | media view => media view
  | record slot => record (.missing { uri := slot.uri })
  | recordWithMedia slot beside => recordWithMedia (.missing { uri := slot.uri }) beside

/-- What may become of an embed when reads fail. -/
def DegradesTo (view view' : EmbedView) : Prop :=
  view' = view ∨ view' = view.withoutRecord

theorem rel_of_eq {found found' : Option EmbedView} (h : found' = found) :
    Option.Rel DegradesTo found found' := by
  subst h
  cases found' with
  | none => exact .none
  | some view => exact .some (Or.inl rfl)

theorem rel_of_eq_map {found found' : Option EmbedView} (h : found' = found.map withoutRecord) :
    Option.Rel DegradesTo found found' := by
  subst h
  cases found with
  | none => exact .none
  | some view => exact .some (Or.inr rfl)

end EmbedView

theorem EmbedContext.embedView?_withoutRecord {c c' : EmbedContext} {host : EmbedHost}
    (himages : c'.display.images = c.display.images) (hkeyed : c.targets.Keyed)
    (h : ∀ target, host.embed.target? = some target →
      c'.slot target.uri = .missing { uri := target.uri }) :
    c'.embedView? host = (c.embedView? host).map EmbedView.withoutRecord := by
  have hmedia : c'.display.media = c.display.media := Display.media_congr himages
  unfold embedView?
  cases hembed : host.embed with
  | media media => simp only [hmedia, Option.map_some, EmbedView.withoutRecord]
  | record target =>
    simp only [h target (by rw [hembed]; rfl), Option.map_some, EmbedView.withoutRecord,
      uri_slot hkeyed]
  | recordWithMedia target media =>
    simp only [h target (by rw [hembed]; rfl), hmedia, Option.map_map]
    cases media with
    | none => rfl
    | some media => simp only [Option.map_some, Function.comp, EmbedView.withoutRecord,
        uri_slot hkeyed]

theorem findSome?_filterMap {α β γ : Type} (f : α → Option β) (g : β → Option γ) (items : List α) :
    (items.filterMap f).findSome? g = items.findSome? fun item => (f item).bind g := by
  induction items with
  | nil => rfl
  | cons item items ih => cases hitem : f item <;> simp [List.findSome?_cons, hitem, ih]

theorem rel_findSome? {α β : Type} {r : β → β → Prop} {f g : α → Option β} {items : List α}
    (h : ∀ item ∈ items, Option.Rel r (f item) (g item)) :
    Option.Rel r (items.findSome? f) (items.findSome? g) := by
  induction items with
  | nil => exact .none
  | cons item items ih =>
    have hitem := h item List.mem_cons_self
    rw [List.findSome?_cons, List.findSome?_cons]
    generalize f item = found, g item = found' at hitem ⊢
    cases hitem with
    | none => exact ih fun item hmem => h item (List.mem_cons_of_mem _ hmem)
    | some hrel => exact .some hrel

theorem rel_map_iff {α β : Type} {f : α → β} {found : Option α} {found' : Option β} :
    Option.Rel (fun a b => b = f a) found found' ↔ found' = found.map f := by
  constructor
  · intro h
    cases h with
    | none => rfl
    | some h => rw [h, Option.map_some]
  · rintro rfl
    cases found with
    | none => exact .none
    | some a => exact .some rfl

namespace Fetch

variable {index index' : Index} {images : ImageService} {nameBytes : Nat} {viewer : Option Did}
  {known : ExtTreeMap Did Actor} {labels : LabelSet} {posts : List Post}
  {views views' : ExtTreeMap AtUri EmbedView} {uri : AtUri}

/-- Of several hosts under one uri, the last one with an embed counts. -/
theorem getElem?_embedRows (c : EmbedContext) (hosts : List EmbedHost) (uri : AtUri) :
    (ExtTreeMap.ofList (embedRows c hosts))[uri]? =
      hosts.reverse.findSome? fun host =>
        if host.post.uri = uri then c.embedView? host else none := by
  rw [getElem?_ofList, embedRows, ← List.filterMap_reverse, findSome?_filterMap]
  congr 1
  funext host
  simp only [Std.LawfulEqCmp.compare_eq_iff_eq]
  cases c.embedView? host <;> simp

/-- Two runs over the same posts give embeds that are related as the embeds of each host are. -/
theorem rel_embeds {r : EmbedView → EmbedView → Prop}
    (h : (embeds images nameBytes posts viewer known labels).Gives index views)
    (h' : (embeds images nameBytes posts viewer known labels).Gives index' views')
    (hrel : ∀ c c',
      (embedContext images nameBytes (posts.filterMap EmbedHost.ofPost?) viewer known labels).Gives
        index c →
      (embedContext images nameBytes (posts.filterMap EmbedHost.ofPost?) viewer known labels).Gives
        index' c' →
      ∀ host ∈ posts.filterMap EmbedHost.ofPost?, host.post.uri = uri →
        Option.Rel r (c.embedView? host) (c'.embedView? host)) :
    Option.Rel r views[uri]? views'[uri]? := by
  obtain ⟨c, hc, rfl⟩ := exists_context_of_embeds h
  obtain ⟨c', hc', rfl⟩ := exists_context_of_embeds h'
  rw [getElem?_embedRows, getElem?_embedRows]
  apply rel_findSome?
  intro host hmem
  by_cases huri : host.post.uri = uri
  · rw [if_pos huri, if_pos huri]
    exact hrel c c' hc hc' host (List.mem_reverse.1 hmem) huri
  · rw [if_neg huri, if_neg huri]
    exact .none

theorem embeds_eq_map {f : EmbedView → EmbedView}
    (h : (embeds images nameBytes posts viewer known labels).Gives index views)
    (h' : (embeds images nameBytes posts viewer known labels).Gives index' views')
    (hview : ∀ c c',
      (embedContext images nameBytes (posts.filterMap EmbedHost.ofPost?) viewer known labels).Gives
        index c →
      (embedContext images nameBytes (posts.filterMap EmbedHost.ofPost?) viewer known labels).Gives
        index' c' →
      ∀ host ∈ posts.filterMap EmbedHost.ofPost?, host.post.uri = uri →
        c'.embedView? host = (c.embedView? host).map f) :
    views'[uri]? = views[uri]?.map f := by
  rw [← rel_map_iff]
  apply rel_embeds h h'
  intro c c' hc hc' host hhost huri
  rw [rel_map_iff]
  exact hview c c' hc hc' host hhost huri

/-- **Embeds degrade.** Whatever reads fail, other than those of labels, each post keeps its embed,
which is as ever but for a record that may be missing. -/
theorem embeds_withOutage {kind : ReadKind} (hout : index.outage = none) (hkind : kind ≠ .labels)
    (hknown : ∀ (did : Did) (actor : Actor), known[did]? = some actor → actor.did = did)
    (h : (embeds images nameBytes posts viewer known labels).Gives index views)
    (h' : (embeds images nameBytes posts viewer known labels).Gives (index.withOutage kind) views')
    (uri : AtUri) : Option.Rel EmbedView.DegradesTo views[uri]? views'[uri]? := by
  refine rel_embeds h h' fun c c' hc hc' host _ _ => ?_
  have himages : c'.display.images = c.display.images :=
    (images_of_embedContext hc').trans (images_of_embedContext hc).symm
  have hkeyed := (readFrom_of_embedContext (answers_labelSet hout) hc).keyed
  cases htarget : host.embed.target? with
  | none =>
    apply EmbedView.rel_of_eq
    apply EmbedContext.embedView?_congr himages
    intro target htarget'
    rw [htarget] at htarget'
    cases htarget'
  | some target =>
    obtain hslot | hslot := slot_withOutage hout hknown hkind hc hc' target.uri
    · apply EmbedView.rel_of_eq
      apply EmbedContext.embedView?_congr himages
      intro target' htarget'
      rw [htarget] at htarget'
      cases htarget'
      exact hslot
    · apply EmbedView.rel_of_eq_map
      apply EmbedContext.embedView?_withoutRecord himages hkeyed
      intro target' htarget'
      rw [htarget] at htarget'
      cases htarget'
      exact hslot

end Fetch

end FeedHydration
