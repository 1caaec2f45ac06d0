import FeedHydration.Proofs.Page

/-!
# Moderation

Accounts and records are loaded along many paths, and each load looks again at what was taken down.
So a page names nothing that is hidden: every record on it has a row that stands, by an owner who is
there, and every profile on it is that of such an account.
-/

namespace FeedHydration

open Std (ExtTreeMap)

namespace Tables

/-- What a slot shows is a record that stands. -/
def HasSlot (t : Tables) : RecordSlot → Prop
  | .quote view => t.HasRecord t.posts (·.takenDown) view.uri
  | .generator view => t.HasRecord t.generators (·.takenDown) view.uri
  | .list view => t.HasRecord t.lists (·.takenDown) view.uri
  | .missing _ | .blocked _ => True

variable {t : Tables}

theorem hasRecord_of_mutingList? {viewer : Option Did} {did : Did} {list : AccountList}
    (h : t.mutingList? viewer did = some list) :
    t.HasRecord t.lists (·.takenDown) list.uri := by
  obtain ⟨r, -, h⟩ := Option.bind_eq_some_iff.1 h
  obtain ⟨uri, -, hlist⟩ := Option.bind_eq_some_iff.1 h
  rw [uri_of_list? hlist]
  exact exists_map_visible?_iff.1 ⟨list, hlist⟩

end Tables

variable {index : Index} {nameBytes : Nat} {viewer : Option Did} {page : FeedPage}

theorem hasAccount_of_actor? {mode : Fetch.LabelMode} {did : Did} {actor : Actor}
    (h : index.actor? nameBytes viewer mode did = some actor) :
    index.tables.HasAccount actor.did := by
  rw [Index.did_of_actor? h]
  exact Index.exists_actor?_iff.1 ⟨actor, h⟩

section Page

variable (h : page.IsAllowed index nameBytes viewer)

include h

theorem hasRecord_of_post {view : PostView} (hmem : view ∈ page.posts) :
    index.tables.HasRecord index.tables.posts (·.takenDown) view.uri := by
  obtain ⟨d, uri, author, hpost, -⟩ := h.post hmem
  obtain ⟨post, embed, hfound, -⟩ := hpost.post
  rw [hpost.uri_eq]
  exact Tables.exists_map_visible?_iff.1 ⟨post, hfound⟩

theorem hasSlot_of_mem {slot : RecordSlot} (hmem : slot ∈ page.slots) :
    index.tables.HasSlot slot := by
  obtain ⟨d, target, hslot⟩ := h.slot hmem
  have huri : slot.uri = target := hslot.uri_eq
  cases hslot with
  | missing => trivial
  | blocked => trivial
  | quote hpost _ _ _ =>
    rw [← huri] at hpost
    exact Tables.exists_map_visible?_iff.1 ⟨_, hpost⟩
  | generator _ hgenerator _ =>
    rw [← huri] at hgenerator
    exact Tables.exists_map_visible?_iff.1 ⟨_, hgenerator⟩
  | list _ hlist _ =>
    rw [← huri] at hlist
    exact Tables.exists_map_visible?_iff.1 ⟨_, hlist⟩

theorem hasAccount_of_profile {profile : ProfileView} (hmem : profile ∈ page.profiles) :
    index.tables.HasAccount profile.did := by
  obtain ⟨d, did, actor, hactor, rfl⟩ := h.profile hmem
  exact hasAccount_of_actor? hactor

theorem hasRecord_of_mutingList {list : ListSummary} (hmem : list ∈ page.mutingLists) :
    index.tables.HasRecord index.tables.lists (·.takenDown) list.uri := by
  obtain ⟨viewer, hviewer, hlist⟩ := List.mem_filterMap.1 hmem
  obtain hprofile | hhidden := List.mem_append.1 hviewer
  · obtain ⟨profile, hmem, hviewer⟩ := List.mem_filterMap.1 hprofile
    obtain ⟨d, did, actor, hactor, rfl⟩ := h.profile hmem
    obtain ⟨list, hfound, rfl⟩ := Display.mutedByList_of_profile hviewer hlist
    rw [Index.mutedByList_of_actor? hactor] at hfound
    exact Tables.hasRecord_of_mutingList? hfound
  · obtain ⟨author, hmem, hviewer⟩ := List.mem_filterMap.1 hhidden
    obtain ⟨did, actor, rfl⟩ := h.hidden hmem
    rw [Display.mutedByList_of_blockedAuthor hviewer] at hlist
    cases hlist

end Page

/-- **Nothing hidden is shown.** Whatever the index holds and whichever of its reads fail, whatever
the generator answers and whoever looks: a page that is served shows, at any depth, only records
that stand and accounts that are there. -/
theorem FeedService.page_is_moderated {service : FeedService} {request : FeedRequest}
    {s : Surroundings} {outcome : FeedOutcome} (h : (service.page request).Gives s outcome) :
    (∀ view ∈ outcome.page.posts,
      s.index.tables.HasRecord s.index.tables.posts (·.takenDown) view.uri) ∧
    (∀ view, .quote view ∈ outcome.page.slots →
      s.index.tables.HasRecord s.index.tables.posts (·.takenDown) view.uri) ∧
    (∀ view, .generator view ∈ outcome.page.slots →
      s.index.tables.HasRecord s.index.tables.generators (·.takenDown) view.uri) ∧
    (∀ view, .list view ∈ outcome.page.slots →
      s.index.tables.HasRecord s.index.tables.lists (·.takenDown) view.uri) ∧
    (∀ list ∈ outcome.page.mutingLists,
      s.index.tables.HasRecord s.index.tables.lists (·.takenDown) list.uri) ∧
    ∀ profile ∈ outcome.page.profiles, s.index.tables.HasAccount profile.did := by
  have hallowed := isAllowed_of_gives_page h
  refine ⟨?_, ?_, ?_, ?_, ?_, ?_⟩
  · intro view hmem
    exact hasRecord_of_post hallowed hmem
  · intro view hmem
    exact hasSlot_of_mem hallowed hmem
  · intro view hmem
    exact hasSlot_of_mem hallowed hmem
  · intro view hmem
    exact hasSlot_of_mem hallowed hmem
  · intro list hmem
    exact hasRecord_of_mutingList hallowed hmem
  · intro profile hmem
    exact hasAccount_of_profile hallowed hmem

/-- The page of the small index names nothing that is hidden. -/
theorem Sample.page_is_moderated_sample :
    ∃ outcome, (Sample.service.page Sample.request).Gives Sample.surroundings outcome ∧
      outcome.page.slots ≠ [] ∧
      (∀ view ∈ outcome.page.posts,
        Sample.tables.HasRecord Sample.tables.posts (·.takenDown) view.uri) ∧
      (∀ view, .generator view ∈ outcome.page.slots →
        Sample.tables.HasRecord Sample.tables.generators (·.takenDown) view.uri) ∧
      ∀ profile ∈ outcome.page.profiles, Sample.tables.HasAccount profile.did := by
  obtain ⟨outcome, hgives, hslots⟩ := Sample.exists_page
  obtain ⟨hposts, -, hgenerators, -, -, hprofiles⟩ := FeedService.page_is_moderated hgives
  exact ⟨outcome, hgives, hslots, hposts, hgenerators, hprofiles⟩

end FeedHydration
