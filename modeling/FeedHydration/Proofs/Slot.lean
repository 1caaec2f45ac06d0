import FeedHydration.Hydration.Embed
import FeedHydration.Proofs.Display
import FeedHydration.Proofs.Load

/-!
# Slots

What stands in the place of an embedded record depends on the record and its owner alone. A context
that holds nothing but what the index says can only show the record as it is, hide it, or report it
missing; a context that has all about a record shows it as the whole index does.
-/

namespace FeedHydration

open Std (ExtTreeMap ExtTreeSet)

namespace Index

variable (index : Index) (images : ImageService) (nameBytes : Nat) (viewer : Option Did)

/-- The labels of all subjects. -/
def labelSet : LabelSet :=
  ⟨tabulate index.tables.labels index.labels?, ExtTreeSet.ofList index.tables.labels.keys⟩

/-- The context that has read the whole index. -/
def embedContext : EmbedContext where
  display := ⟨images, index.labelSet⟩
  targets := {
    posts := tabulate index.tables.posts (index.tables.post? viewer)
    generators := tabulate index.tables.generators (index.tables.generator? viewer)
    lists := tabulate index.tables.lists (index.tables.list? viewer) }
  actors := tabulate index.tables.actors (index.actor? nameBytes viewer .withoutLabels)

/-- What the embed of a post is shown as. -/
def embed? (uri : AtUri) : Option EmbedView := do
  let host ← EmbedHost.ofPost? (← index.tables.post? viewer uri)
  (index.embedContext images nameBytes viewer).embedView? host

theorem get_labelSet (subject : String) : index.labelSet.get subject = index.labelsOf subject := by
  rw [LabelSet.get, labelSet, getElem?_tabulate, getD_labels?]
  intro subject hnone
  rw [labels?, labelsOf, hnone]
  simp [Label.settle]

end Index

namespace EmbedTargets

/-- Records that stand under their own uris. -/
structure Keyed (targets : EmbedTargets) : Prop where
  posts : ∀ (uri : AtUri) (post : Post), targets.posts[uri]? = some post →
    post.uri = uri ∧ post.author = uri.authority
  generators : ∀ (uri : AtUri) (generator : Generator), targets.generators[uri]? = some generator →
    generator.uri = uri ∧ generator.creator = uri.authority
  lists : ∀ (uri : AtUri) (list : AccountList), targets.lists[uri]? = some list →
    list.uri = uri ∧ list.creator = uri.authority

/-- Whether a record is there, in the table of its collection. -/
def Holds (targets : EmbedTargets) (uri : AtUri) : Prop :=
  (uri.collection = Collection.post ∧ ∃ post, targets.posts[uri]? = some post) ∨
    (uri.collection = Collection.generator ∧
      ∃ generator, targets.generators[uri]? = some generator) ∨
    (uri.collection = Collection.list ∧ ∃ list, targets.lists[uri]? = some list)

/-- The same record in both, or none in either. -/
structure SameAt (targets targets' : EmbedTargets) (uri : AtUri) : Prop where
  posts : uri.collection = Collection.post → targets.posts[uri]? = targets'.posts[uri]?
  generators : uri.collection = Collection.generator →
    targets.generators[uri]? = targets'.generators[uri]?
  lists : uri.collection = Collection.list → targets.lists[uri]? = targets'.lists[uri]?

theorem keyed_of_isPart {targets : EmbedTargets} {t : Tables} {viewer : Option Did}
    (hposts : IsPart targets.posts (t.post? viewer))
    (hgenerators : IsPart targets.generators (t.generator? viewer))
    (hlists : IsPart targets.lists (t.list? viewer)) : targets.Keyed where
  posts := fun _ _ h => ⟨Tables.uri_of_post? (hposts _ _ h), Tables.author_of_post? (hposts _ _ h)⟩
  generators := fun _ _ h =>
    ⟨Tables.uri_of_generator? (hgenerators _ _ h), Tables.creator_of_generator? (hgenerators _ _ h)⟩
  lists := fun _ _ h => ⟨Tables.uri_of_list? (hlists _ _ h), Tables.creator_of_list? (hlists _ _ h)⟩

variable {targets targets' : EmbedTargets} {uri : AtUri}

theorem mem_uris :
    uri ∈ targets.uris ↔ (∃ post, targets.posts[uri]? = some post) ∨
      (∃ generator, targets.generators[uri]? = some generator) ∨
      ∃ list, targets.lists[uri]? = some list := by
  simp only [uris, List.mem_append, mem_keys_iff_exists, or_assoc]

theorem mem_owners (hkeyed : targets.Keyed) {did : Did} :
    did ∈ targets.owners ↔ ∃ uri ∈ targets.uris, uri.authority = did := by
  simp only [owners, List.mem_append, List.mem_map, mem_values, mem_uris]
  constructor
  · rintro ((⟨post, ⟨uri, hpost⟩, rfl⟩ | ⟨generator, ⟨uri, hgenerator⟩, rfl⟩) |
      ⟨list, ⟨uri, hlist⟩, rfl⟩)
    · exact ⟨uri, Or.inl ⟨post, hpost⟩, (hkeyed.posts uri post hpost).2.symm⟩
    · exact ⟨uri, Or.inr (Or.inl ⟨generator, hgenerator⟩),
        (hkeyed.generators uri generator hgenerator).2.symm⟩
    · exact ⟨uri, Or.inr (Or.inr ⟨list, hlist⟩), (hkeyed.lists uri list hlist).2.symm⟩
  · rintro ⟨uri, ⟨post, hpost⟩ | ⟨generator, hgenerator⟩ | ⟨list, hlist⟩, rfl⟩
    · exact Or.inl (Or.inl ⟨post, ⟨uri, hpost⟩, (hkeyed.posts uri post hpost).2⟩)
    · exact Or.inl (Or.inr ⟨generator, ⟨uri, hgenerator⟩,
        (hkeyed.generators uri generator hgenerator).2⟩)
    · exact Or.inr ⟨list, ⟨uri, hlist⟩, (hkeyed.lists uri list hlist).2⟩

theorem Holds.mem_uris (h : targets.Holds uri) : uri ∈ targets.uris := by
  rw [EmbedTargets.mem_uris]
  obtain ⟨-, hpost⟩ | ⟨-, hgenerator⟩ | ⟨-, hlist⟩ := h
  · exact Or.inl hpost
  · exact Or.inr (Or.inl hgenerator)
  · exact Or.inr (Or.inr hlist)

theorem Holds.post (h : targets.Holds uri) (hcollection : uri.collection = Collection.post) :
    ∃ post, targets.posts[uri]? = some post := by
  rw [Holds, hcollection] at h
  obtain ⟨-, hpost⟩ | ⟨hne, -⟩ | ⟨hne, -⟩ := h
  · exact hpost
  · exact absurd hne (by decide)
  · exact absurd hne (by decide)

theorem Holds.generator (h : targets.Holds uri)
    (hcollection : uri.collection = Collection.generator) :
    ∃ generator, targets.generators[uri]? = some generator := by
  rw [Holds, hcollection] at h
  obtain ⟨hne, -⟩ | ⟨-, hgenerator⟩ | ⟨hne, -⟩ := h
  · exact absurd hne (by decide)
  · exact hgenerator
  · exact absurd hne (by decide)

theorem Holds.list (h : targets.Holds uri) (hcollection : uri.collection = Collection.list) :
    ∃ list, targets.lists[uri]? = some list := by
  rw [Holds, hcollection] at h
  obtain ⟨hne, -⟩ | ⟨hne, -⟩ | ⟨-, hlist⟩ := h
  · exact absurd hne (by decide)
  · exact absurd hne (by decide)
  · exact hlist

theorem SameAt.holds (hsame : targets.SameAt targets' uri) (h : targets.Holds uri) :
    targets'.Holds uri := by
  obtain ⟨hc, post, hpost⟩ | ⟨hc, generator, hgenerator⟩ | ⟨hc, list, hlist⟩ := h
  · exact Or.inl ⟨hc, post, (hsame.posts hc).symm.trans hpost⟩
  · exact Or.inr (Or.inl ⟨hc, generator, (hsame.generators hc).symm.trans hgenerator⟩)
  · exact Or.inr (Or.inr ⟨hc, list, (hsame.lists hc).symm.trans hlist⟩)

end EmbedTargets

namespace EmbedContext

variable {c : EmbedContext} {index : Index} {images : ImageService} {nameBytes : Nat}
  {viewer : Option Did} {uri : AtUri}

/-! ### What a context knows -/

/-- A context that holds nothing but what the index says. -/
structure Sound (c : EmbedContext) (index : Index) (nameBytes : Nat) (viewer : Option Did) :
    Prop where
  posts : IsPart c.targets.posts (index.tables.post? viewer)
  generators : IsPart c.targets.generators (index.tables.generator? viewer)
  lists : IsPart c.targets.lists (index.tables.list? viewer)
  actors : IsPart c.actors (index.actor? nameBytes viewer .withoutLabels)

/-- A context that has read all about a record: the record, and if there is one, its owner. -/
structure Knows (c : EmbedContext) (index : Index) (nameBytes : Nat) (viewer : Option Did)
    (uri : AtUri) : Prop where
  posts : uri.collection = Collection.post →
    c.targets.posts[uri]? = index.tables.post? viewer uri
  generators : uri.collection = Collection.generator →
    c.targets.generators[uri]? = index.tables.generator? viewer uri
  lists : uri.collection = Collection.list →
    c.targets.lists[uri]? = index.tables.list? viewer uri
  owner : uri ∈ c.targets.uris →
    c.actors[uri.authority]? = index.actor? nameBytes viewer .withoutLabels uri.authority

/-- A context in which a record, if there is one, and its owner look as they do elsewhere. -/
def ShowsAs (c : EmbedContext) (d : Display) (uri : AtUri) : Prop :=
  uri ∈ c.targets.uris → c.display.Agree d uri.text ∧ c.display.Agree d uri.authority.text

theorem getElem?_posts_embedContext (uri : AtUri) :
    (index.embedContext images nameBytes viewer).targets.posts[uri]? =
      index.tables.post? viewer uri :=
  getElem?_tabulate (fun _ => Tables.post?_of_none) uri

theorem getElem?_generators_embedContext (uri : AtUri) :
    (index.embedContext images nameBytes viewer).targets.generators[uri]? =
      index.tables.generator? viewer uri :=
  getElem?_tabulate (fun _ => Tables.generator?_of_none) uri

theorem getElem?_lists_embedContext (uri : AtUri) :
    (index.embedContext images nameBytes viewer).targets.lists[uri]? =
      index.tables.list? viewer uri :=
  getElem?_tabulate (fun _ => Tables.list?_of_none) uri

theorem getElem?_actors_embedContext (did : Did) :
    (index.embedContext images nameBytes viewer).actors[did]? =
      index.actor? nameBytes viewer .withoutLabels did :=
  getElem?_tabulate (fun _ => Index.actor?_of_none) did

/-! ### One collection at a time -/

theorem slot_of_post (hcollection : uri.collection = Collection.post) :
    c.slot uri = c.postSlot uri :=
  if_pos hcollection

theorem slot_of_generator (hcollection : uri.collection = Collection.generator) :
    c.slot uri = c.generatorSlot uri := by
  rw [slot, if_neg (by rw [hcollection]; decide), if_pos hcollection]

theorem slot_of_list (hcollection : uri.collection = Collection.list) :
    c.slot uri = c.listSlot uri := by
  rw [slot, if_neg (by rw [hcollection]; decide), if_neg (by rw [hcollection]; decide),
    if_pos hcollection]

theorem slot_of_other (hpost : uri.collection ≠ Collection.post)
    (hgenerator : uri.collection ≠ Collection.generator)
    (hlist : uri.collection ≠ Collection.list) : c.slot uri = .missing { uri := uri } := by
  rw [slot, if_neg hpost, if_neg hgenerator, if_neg hlist]

/-! ### What a context may show -/

/-- What may stand in the place of a record, as far as the index goes. -/
inductive IsSlotOf (index : Index) (nameBytes : Nat) (viewer : Option Did) (d : Display)
    (uri : AtUri) : RecordSlot → Prop where
  | missing : IsSlotOf index nameBytes viewer d uri (.missing { uri := uri })
  | blocked {post : Post} {author : Actor} (hpost : index.tables.post? viewer uri = some post)
      (hauthor : index.actor? nameBytes viewer .withoutLabels uri.authority = some author)
      (hblock : author.hasBlock = true) :
      IsSlotOf index nameBytes viewer d uri
        (.blocked { uri := uri, author := Display.blockedAuthor uri.authority (some author) })
  | quote {post : Post} {author : Actor} {view : QuoteView}
      (hpost : index.tables.post? viewer uri = some post)
      (hauthor : index.actor? nameBytes viewer .withoutLabels uri.authority = some author)
      (hblock : author.hasBlock = false) (hview : d.quoteView? post author = some view) :
      IsSlotOf index nameBytes viewer d uri (.quote view)
  | generator {generator : Generator} {creator : Actor}
      (hcollection : uri.collection = Collection.generator)
      (hgenerator : index.tables.generator? viewer uri = some generator)
      (hcreator : index.actor? nameBytes viewer .withoutLabels uri.authority = some creator) :
      IsSlotOf index nameBytes viewer d uri (.generator (d.generatorView generator creator))
  | list {list : AccountList} {creator : Actor}
      (hcollection : uri.collection = Collection.list)
      (hlist : index.tables.list? viewer uri = some list)
      (hcreator : index.actor? nameBytes viewer .withoutLabels uri.authority = some creator) :
      IsSlotOf index nameBytes viewer d uri (.list (d.listView list creator))

theorem IsSlotOf.uri_eq {d : Display} {slot : RecordSlot}
    (h : IsSlotOf index nameBytes viewer d uri slot) : slot.uri = uri := by
  cases h with
  | missing => rfl
  | blocked => rfl
  | quote hpost _ _ hview =>
    exact (Display.fields_of_quoteView? hview).1.trans (Tables.uri_of_post? hpost)
  | generator _ hgenerator _ => exact Tables.uri_of_generator? hgenerator
  | list _ hlist _ => exact Tables.uri_of_list? hlist

theorem isSlotOf_postSlot (h : c.Sound index nameBytes viewer) (uri : AtUri) :
    IsSlotOf index nameBytes viewer c.display uri (c.postSlot uri) := by
  unfold postSlot
  cases hfound : c.targets.posts[uri]? with
  | none => exact .missing
  | some post =>
    have hpost := h.posts uri post hfound
    have hauthor := Tables.author_of_post? hpost
    simp only [hauthor]
    cases hactor : c.actors[uri.authority]? with
    | none => exact .missing
    | some author =>
      have hauthor := h.actors _ _ hactor
      dsimp only
      by_cases hblock : author.hasBlock = true
      · rw [if_pos hblock]
        exact .blocked hpost hauthor hblock
      · rw [if_neg hblock]
        cases hview : c.display.quoteView? post author with
        | none => exact .missing
        | some view => exact .quote hpost hauthor (eq_false_of_ne_true hblock) hview

theorem isSlotOf_generatorSlot (h : c.Sound index nameBytes viewer)
    (hcollection : uri.collection = Collection.generator) :
    IsSlotOf index nameBytes viewer c.display uri (c.generatorSlot uri) := by
  unfold generatorSlot
  cases hfound : c.targets.generators[uri]? with
  | none => exact .missing
  | some generator =>
    have hgenerator := h.generators uri generator hfound
    simp only [Tables.creator_of_generator? hgenerator]
    cases hactor : c.actors[uri.authority]? with
    | none => exact .missing
    | some creator => exact .generator hcollection hgenerator (h.actors _ _ hactor)

theorem isSlotOf_listSlot (h : c.Sound index nameBytes viewer)
    (hcollection : uri.collection = Collection.list) :
    IsSlotOf index nameBytes viewer c.display uri (c.listSlot uri) := by
  unfold listSlot
  cases hfound : c.targets.lists[uri]? with
  | none => exact .missing
  | some list =>
    have hlist := h.lists uri list hfound
    simp only [Tables.creator_of_list? hlist]
    cases hactor : c.actors[uri.authority]? with
    | none => exact .missing
    | some creator => exact .list hcollection hlist (h.actors _ _ hactor)

/-- **Slots are sound.** Nothing stands in the place of a record but what the index allows. -/
theorem isSlotOf_slot (h : c.Sound index nameBytes viewer) (uri : AtUri) :
    IsSlotOf index nameBytes viewer c.display uri (c.slot uri) := by
  by_cases hpost : uri.collection = Collection.post
  · rw [slot_of_post hpost]
    exact isSlotOf_postSlot h uri
  by_cases hgenerator : uri.collection = Collection.generator
  · rw [slot_of_generator hgenerator]
    exact isSlotOf_generatorSlot h hgenerator
  by_cases hlist : uri.collection = Collection.list
  · rw [slot_of_list hlist]
    exact isSlotOf_listSlot h hlist
  rw [slot_of_other hpost hgenerator hlist]
  exact .missing

/-! ### Contexts that agree -/

variable {c' : EmbedContext}

/-- Two contexts that have the same about a record: the record, and if there is one, its owner and
the labels of both. -/
structure AgreeAt (c c' : EmbedContext) (uri : AtUri) : Prop where
  targets : c.targets.SameAt c'.targets uri
  owner : c.targets.Holds uri → c.actors[uri.authority]? = c'.actors[uri.authority]?
  record : c.targets.Holds uri → c.display.Agree c'.display uri.text
  account : c.targets.Holds uri → ∀ actor, c.actors[uri.authority]? = some actor →
    c.display.Agree c'.display actor.did.text

section Congr

variable (hkeyed : c.targets.Keyed) (h : c.AgreeAt c' uri)

include hkeyed h

theorem postSlot_congr (hcollection : uri.collection = Collection.post) :
    c.postSlot uri = c'.postSlot uri := by
  unfold postSlot
  rw [← h.targets.posts hcollection]
  cases hfound : c.targets.posts[uri]? with
  | none => rfl
  | some post =>
    have hholds : c.targets.Holds uri := Or.inl ⟨hcollection, post, hfound⟩
    obtain ⟨huri, hauthor⟩ := hkeyed.posts uri post hfound
    simp only [hauthor, ← h.owner hholds]
    cases hactor : c.actors[uri.authority]? with
    | none => rfl
    | some author =>
      have hrecord := h.record hholds
      rw [← huri] at hrecord
      simp only [Display.quoteView?_congr hrecord (h.account hholds author hactor)]

theorem generatorSlot_congr (hcollection : uri.collection = Collection.generator) :
    c.generatorSlot uri = c'.generatorSlot uri := by
  unfold generatorSlot
  rw [← h.targets.generators hcollection]
  cases hfound : c.targets.generators[uri]? with
  | none => rfl
  | some generator =>
    have hholds : c.targets.Holds uri := Or.inr (Or.inl ⟨hcollection, generator, hfound⟩)
    obtain ⟨huri, hcreator⟩ := hkeyed.generators uri generator hfound
    simp only [hcreator, ← h.owner hholds]
    cases hactor : c.actors[uri.authority]? with
    | none => rfl
    | some creator =>
      have hrecord := h.record hholds
      rw [← huri] at hrecord
      simp only [Display.generatorView_congr hrecord (h.account hholds creator hactor)]

theorem listSlot_congr (hcollection : uri.collection = Collection.list) :
    c.listSlot uri = c'.listSlot uri := by
  unfold listSlot
  rw [← h.targets.lists hcollection]
  cases hfound : c.targets.lists[uri]? with
  | none => rfl
  | some list =>
    have hholds : c.targets.Holds uri := Or.inr (Or.inr ⟨hcollection, list, hfound⟩)
    obtain ⟨huri, hcreator⟩ := hkeyed.lists uri list hfound
    simp only [hcreator, ← h.owner hholds]
    cases hactor : c.actors[uri.authority]? with
    | none => rfl
    | some creator =>
      have hrecord := h.record hholds
      rw [← huri] at hrecord
      simp only [Display.listView_congr hrecord (h.account hholds creator hactor)]

/-- **A slot is its record's.** What stands in the place of a record depends on no other record. -/
theorem slot_congr : c.slot uri = c'.slot uri := by
  by_cases hpost : uri.collection = Collection.post
  · rw [slot_of_post hpost, slot_of_post hpost, postSlot_congr hkeyed h hpost]
  by_cases hgenerator : uri.collection = Collection.generator
  · rw [slot_of_generator hgenerator, slot_of_generator hgenerator,
      generatorSlot_congr hkeyed h hgenerator]
  by_cases hlist : uri.collection = Collection.list
  · rw [slot_of_list hlist, slot_of_list hlist, listSlot_congr hkeyed h hlist]
  rw [slot_of_other hpost hgenerator hlist, slot_of_other hpost hgenerator hlist]

end Congr

/-- An embed depends on no record but the one it leads to. -/
theorem embedView?_congr {host : EmbedHost} (himages : c.display.images = c'.display.images)
    (h : ∀ target, host.embed.target? = some target → c.slot target.uri = c'.slot target.uri) :
    c.embedView? host = c'.embedView? host := by
  have hmedia : c.display.media = c'.display.media := Display.media_congr himages
  unfold embedView?
  cases hembed : host.embed with
  | media media => simp only [hmedia]
  | record target => simp only [h target (by rw [hembed]; rfl)]
  | recordWithMedia target media => simp only [hmedia, h target (by rw [hembed]; rfl)]

/-! ### Records that are missing -/

theorem slot_of_not_holds (h : ¬ c.targets.Holds uri) : c.slot uri = .missing { uri := uri } := by
  by_cases hpost : uri.collection = Collection.post
  · rw [slot_of_post hpost, postSlot]
    cases hfound : c.targets.posts[uri]? with
    | none => rfl
    | some post => exact absurd (Or.inl ⟨hpost, post, hfound⟩) h
  by_cases hgenerator : uri.collection = Collection.generator
  · rw [slot_of_generator hgenerator, generatorSlot]
    cases hfound : c.targets.generators[uri]? with
    | none => rfl
    | some generator => exact absurd (Or.inr (Or.inl ⟨hgenerator, generator, hfound⟩)) h
  by_cases hlist : uri.collection = Collection.list
  · rw [slot_of_list hlist, listSlot]
    cases hfound : c.targets.lists[uri]? with
    | none => rfl
    | some list => exact absurd (Or.inr (Or.inr ⟨hlist, list, hfound⟩)) h
  exact slot_of_other hpost hgenerator hlist

section Keyed

variable (hkeyed : c.targets.Keyed)

include hkeyed

theorem slot_of_owner_none (howner : c.actors[uri.authority]? = none) :
    c.slot uri = .missing { uri := uri } := by
  by_cases hholds : c.targets.Holds uri
  · obtain ⟨hc, post, hfound⟩ | ⟨hc, generator, hfound⟩ | ⟨hc, list, hfound⟩ := hholds
    · rw [slot_of_post hc, postSlot, hfound]
      simp only [(hkeyed.posts _ _ hfound).2, howner]
    · rw [slot_of_generator hc, generatorSlot, hfound]
      simp only [(hkeyed.generators _ _ hfound).2, howner]
    · rw [slot_of_list hc, listSlot, hfound]
      simp only [(hkeyed.lists _ _ hfound).2, howner]
  · exact slot_of_not_holds hholds

theorem uri_slot (uri : AtUri) : (c.slot uri).uri = uri := by
  by_cases hholds : c.targets.Holds uri
  · cases howner : c.actors[uri.authority]? with
    | none => rw [slot_of_owner_none hkeyed howner, RecordSlot.uri]
    | some owner =>
      obtain ⟨hc, post, hfound⟩ | ⟨hc, generator, hfound⟩ | ⟨hc, list, hfound⟩ := hholds
      · obtain ⟨huri, hauthor⟩ := hkeyed.posts _ _ hfound
        rw [slot_of_post hc, postSlot, hfound]
        simp only [hauthor, howner]
        by_cases hblock : owner.hasBlock = true
        · rw [if_pos hblock, RecordSlot.uri]
        · rw [if_neg hblock]
          cases hview : c.display.quoteView? post owner with
          | none => rfl
          | some view => exact (Display.fields_of_quoteView? hview).1.trans huri
      · obtain ⟨huri, hcreator⟩ := hkeyed.generators _ _ hfound
        rw [slot_of_generator hc, generatorSlot, hfound]
        simp only [hcreator, howner]
        exact huri
      · obtain ⟨huri, hcreator⟩ := hkeyed.lists _ _ hfound
        rw [slot_of_list hc, listSlot, hfound]
        simp only [hcreator, howner]
        exact huri
  · rw [slot_of_not_holds hholds, RecordSlot.uri]

end Keyed

/-! ### What a context that knows a record shows -/

theorem keyed_embedContext : (index.embedContext images nameBytes viewer).targets.Keyed :=
  EmbedTargets.keyed_of_isPart (fun uri _ h => (getElem?_posts_embedContext uri).symm.trans h)
    (fun uri _ h => (getElem?_generators_embedContext uri).symm.trans h)
    (fun uri _ h => (getElem?_lists_embedContext uri).symm.trans h)

theorem Knows.sameAt (h : c.Knows index nameBytes viewer uri) :
    (index.embedContext images nameBytes viewer).targets.SameAt c.targets uri where
  posts := fun hc => by rw [getElem?_posts_embedContext, h.posts hc]
  generators := fun hc => by rw [getElem?_generators_embedContext, h.generators hc]
  lists := fun hc => by rw [getElem?_lists_embedContext, h.lists hc]

/-- A context that knows a record holds it if the index does. -/
theorem Knows.mem_uris (h : c.Knows index nameBytes viewer uri)
    (hholds : (index.embedContext images nameBytes viewer).targets.Holds uri) :
    uri ∈ c.targets.uris :=
  (h.sameAt.holds hholds).mem_uris

/-- A context that knows a record shows it as the whole index would. -/
theorem slot_eq (h : c.Knows index nameBytes viewer uri)
    (hshows : c.ShowsAs (index.embedContext images nameBytes viewer).display uri) :
    c.slot uri = (index.embedContext images nameBytes viewer).slot uri := by
  have hagree : (index.embedContext images nameBytes viewer).AgreeAt c uri := by
    refine ⟨h.sameAt, fun hholds => ?_, fun hholds => ?_, fun hholds actor hactor => ?_⟩
    · rw [getElem?_actors_embedContext, h.owner (h.mem_uris hholds)]
    · exact (hshows (h.mem_uris hholds)).1.symm
    · rw [getElem?_actors_embedContext] at hactor
      rw [Index.did_of_actor? hactor]
      exact (hshows (h.mem_uris hholds)).2.symm
  exact (slot_congr keyed_embedContext hagree).symm

theorem slot_of_known_generator (h : c.Knows index nameBytes viewer uri)
    (hcollection : uri.collection = Collection.generator)
    (hrecord : index.tables.HasRecord index.tables.generators (·.takenDown) uri) :
    ∃ generator creator, creator.did = uri.authority ∧
      c.slot uri = .generator (c.display.generatorView generator creator) := by
  have hfound : ∃ generator, index.tables.generator? viewer uri = some generator :=
    Tables.exists_map_visible?_iff.2 hrecord
  obtain ⟨generator, hgenerator⟩ := hfound
  have htarget := (h.generators hcollection).trans hgenerator
  obtain ⟨creator, hcreator⟩ := Index.exists_actor?_iff.2 hrecord.owner
  refine ⟨generator, creator, Index.did_of_actor? hcreator, ?_⟩
  have hholds : c.targets.Holds uri := Or.inr (Or.inl ⟨hcollection, generator, htarget⟩)
  rw [← h.owner hholds.mem_uris] at hcreator
  rw [slot_of_generator hcollection, generatorSlot, htarget]
  simp only [Tables.creator_of_generator? hgenerator, hcreator]

theorem slot_of_known_list (h : c.Knows index nameBytes viewer uri)
    (hcollection : uri.collection = Collection.list)
    (hrecord : index.tables.HasRecord index.tables.lists (·.takenDown) uri) :
    ∃ list creator, creator.did = uri.authority ∧
      c.slot uri = .list (c.display.listView list creator) := by
  have hfound : ∃ list, index.tables.list? viewer uri = some list :=
    Tables.exists_map_visible?_iff.2 hrecord
  obtain ⟨list, hlist⟩ := hfound
  have htarget := (h.lists hcollection).trans hlist
  obtain ⟨creator, hcreator⟩ := Index.exists_actor?_iff.2 hrecord.owner
  refine ⟨list, creator, Index.did_of_actor? hcreator, ?_⟩
  have hholds : c.targets.Holds uri := Or.inr (Or.inr ⟨hcollection, list, htarget⟩)
  rw [← h.owner hholds.mem_uris] at hcreator
  rw [slot_of_list hcollection, listSlot, htarget]
  simp only [Tables.creator_of_list? hlist, hcreator]

theorem embedView?_eq {host : EmbedHost} (himages : c.display.images = images)
    (h : ∀ target, host.embed.target? = some target → c.Knows index nameBytes viewer target.uri ∧
      c.ShowsAs (index.embedContext images nameBytes viewer).display target.uri) :
    c.embedView? host = (index.embedContext images nameBytes viewer).embedView? host :=
  embedView?_congr himages fun target htarget =>
    slot_eq (h target htarget).1 (h target htarget).2

end EmbedContext

end FeedHydration
