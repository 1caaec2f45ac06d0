import FeedHydration.Proofs.Accounting

/-!
# Attribution

A generator names a repost beside a post. Who reposted and when is read off the row of that repost,
so a repost that is not stored puts nothing on a page. What the row says was reposted is not read:
that the repost is one of the post beside it is the word of the generator.
-/

namespace FeedHydration

open Std (ExtTreeMap)

theorem Tables.exists_row_of_repost? {t : Tables} {uri : AtUri} {repost : Repost}
    (h : t.repost? uri = some repost) :
    ∃ row, t.reposts[uri]? = some row ∧ repost.originator = uri.authority ∧
      repost.indexedAt = row.indexedAt := by
  obtain ⟨row, hrow, rfl⟩ := Option.map_eq_some_iff.1 h
  exact ⟨row, hrow, rfl, rfl⟩

/-- An entry with the post of an item. If it has a reason, the item names a repost that is stored,
and the reason says of it what is stored. -/
structure FeedEntry.IsBacked (t : Tables) (item : SkeletonItem) (entry : FeedEntry) : Prop where
  post : entry.post.uri = item.post
  repost : ∀ reason, entry.reason = some reason →
    ∃ uri row, item.repost = some uri ∧ t.reposts[uri]? = some row ∧
      reason.reposter.did = uri.authority ∧ reason.indexedAt = row.indexedAt

namespace Hydration

variable {index : Index} {images : ImageService} {nameBytes : Nat} {viewer : Option Did}
  {items : List SkeletonItem} {item : SkeletonItem} {h : Hydration} {entry : FeedEntry}

theorem isBacked_of_entryOf? (hpage : h.IsOf index images nameBytes viewer items)
    (hentry : h.entryOf? images item = some entry) : entry.IsBacked index.tables item where
  post := (isFor_of_entryOf? hpage hentry).post
  repost := by
    intro reason hreason
    obtain ⟨_, _, hmade⟩ := exists_isMadeOf hentry
    obtain ⟨uri, repost, reposter, huri, hrepost, hreposter, rfl⟩ := hmade.exists_repost hreason
    obtain ⟨row, hrow, horiginator, hindexed⟩ :=
      Tables.exists_row_of_repost? (hpage.reposts.value_eq hrepost)
    have hdid : reposter.did = uri.authority := by
      rw [← horiginator]
      exact Index.did_of_actor? (hpage.actors.value_eq hreposter)
    exact ⟨uri, row, huri, hrow, hdid, hindexed⟩

end Hydration

/-- **Attributions are stored.** The entries of a page are, in their order, entries of items of the
skeleton, and each reason among them is that of the stored repost which the item names. -/
theorem FeedService.page_attributes_reposts {service : FeedService} {request : FeedRequest}
    {s : Surroundings} {outcome : FeedOutcome} (h : (service.page request).Gives s outcome) :
    ∃ skeleton shown,
      (Serve.skeleton service.options request
        (service.options.clampLimit request.limit)).Gives s skeleton ∧
      shown.Sublist skeleton.items ∧
      List.Forall₂ (FeedEntry.IsBacked s.index.tables) shown outcome.page.feed := by
  obtain ⟨skeleton, page, reached, hskeleton, hpage, hreached, hfeed, -⟩ :=
    exists_reached_of_gives_page h
  have hbacked : List.Forall₂ (FeedEntry.IsBacked s.index.tables)
      (reached.filter fun item => (page.entryOf? service.images item).isSome)
      outcome.page.feed := by
    rw [hfeed]
    exact forall₂_filterMap (fun _ _ => rfl) fun item _ entry =>
      Hydration.isBacked_of_entryOf? (Fetch.hydrate_isOf hpage)
  exact ⟨skeleton, _, hskeleton, List.filter_sublist.trans (sublist_of_isReached hreached),
    hbacked⟩

namespace Sample

def friendRepost : AtUri :=
  ⟨friend, "app.bsky.feed.repost", "1", by decide, friendPost.rkey_grammatical, by decide⟩

def repostRow : RepostRow := ⟨⟨foePost, cid⟩, noon⟩

def entryReposting (post repost : AtUri) : String :=
  "\x7b\"post\":\"" ++ post.text ++ "\",\"reason\":\x7b\"$type\":\"" ++
    "app.bsky.feed.defs#skeletonReasonRepost\",\"repost\":\"" ++ repost.text ++ "\"\x7d\x7d"

/-- The friend has reposted the post of the foe, and the generator passes it off as a repost of the
friend's own post. -/
def forged : Surroundings :=
  { surroundings with
    index := { index with
      tables := { tables with reposts := ExtTreeMap.ofList [(friendRepost, repostRow)] } }
    generator _ := ⟨0, .ok (listing [entryReposting friendPost friendRepost])⟩ }

theorem any_forged : ((service.page (stranger none)).run forged).result.toOption.any
    (fun outcome => outcome.page.feed.map
      (fun entry => (entry.post.uri, entry.reason.map (·.reposter.did))) =
        [(friendPost, some friend)]) = true := by
  decide +kernel

theorem page_attributes_forged :
    ∃ outcome, (service.page (stranger none)).Gives forged outcome ∧
      outcome.page.feed.map (fun entry => (entry.post.uri, entry.reason.map (·.reposter.did))) =
        [(friendPost, some friend)] ∧
      ∃ shown, List.Forall₂ (FeedEntry.IsBacked forged.index.tables) shown outcome.page.feed := by
  obtain ⟨outcome, hgives, hcheck⟩ := Serve.exists_gives any_forged
  obtain ⟨-, shown, -, -, hbacked⟩ := FeedService.page_attributes_reposts hgives
  exact ⟨outcome, hgives, of_decide_eq_true hcheck, shown, hbacked⟩

/-- A page shows the friend's own post as reposted, and no stored repost is one of that post. -/
theorem exists_forged_entry :
    ∃ outcome, (service.page (stranger none)).Gives forged outcome ∧
      ∃ entry ∈ outcome.page.feed, entry.reason.isSome = true ∧
        ∀ (uri : AtUri) (row : RepostRow), forged.index.tables.reposts[uri]? = some row →
          row.subject.uri ≠ entry.post.uri := by
  obtain ⟨outcome, hgives, hcheck⟩ := Serve.exists_gives any_forged
  have hmem : (friendPost, some friend) ∈ outcome.page.feed.map
      (fun entry => (entry.post.uri, entry.reason.map (·.reposter.did))) := by
    rw [of_decide_eq_true hcheck]
    exact List.mem_cons_self
  obtain ⟨entry, hentry, hshown⟩ := List.mem_map.1 hmem
  obtain ⟨hpost, hreason⟩ := Prod.mk.inj hshown
  have hsome : entry.reason.isSome = true := by
    rw [← Option.isSome_map, hreason]
    rfl
  refine ⟨outcome, hgives, entry, hentry, hsome, fun uri row hrow => ?_⟩
  obtain ⟨-, rfl⟩ := Prod.mk.inj (List.mem_singleton.1 (mem_of_getElem?_ofList hrow))
  rw [hpost]
  decide

end Sample

end FeedHydration
