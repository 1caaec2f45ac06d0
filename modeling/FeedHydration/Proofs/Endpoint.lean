import FeedHydration.Proofs.Gate

/-!
# Endpoints of services

A document may list a service more than once, under its id alone or behind the did, and with any
value as its endpoint. An entry is picked by its type and id and only then asked for its endpoint,
so it is not skipped for a bad one: it hides the entries behind it, and the service counts as one
that has no endpoint.
-/

namespace FeedHydration

/-- The first element of a list that has some property. -/
def IsFirst {α : Type} (p : α → Prop) (list : List α) (a : α) : Prop :=
  ∃ before after, list = before ++ a :: after ∧ (∀ other ∈ before, ¬ p other) ∧ p a

namespace DidDocument

variable {doc : DidDocument} {id type : String} {service : Service} {url : Url}

/-- An entry of this type, under the id alone or under the id behind the did of the document. -/
structure IsEntry (doc : DidDocument) (id type : String) (service : Service) : Prop where
  of_type : service.type = type
  of_id : service.id = id ∨ service.id = doc.id.text ++ id

theorem isService_iff : doc.isService id type service = true ↔ doc.IsEntry id type service := by
  simp only [isService, Bool.and_eq_true, Bool.or_eq_true, beq_iff_eq]
  exact ⟨fun h => ⟨h.1, h.2⟩, fun h => ⟨h.of_type, h.of_id⟩⟩

theorem isService_eq_false_iff :
    doc.isService id type service = false ↔ ¬ doc.IsEntry id type service := by
  rw [← isService_iff, Bool.not_eq_true]

theorem endpoint?_eq_some_iff_isFirst : doc.endpoint? id type = some url ↔
    ∃ service, IsFirst (doc.IsEntry id type) (doc.service.getD []) service ∧
      service.HasEndpoint url := by
  rw [endpoint?_eq_some_iff]
  constructor
  · rintro ⟨⟨before, service, after, hentries, hbefore, hservice, hurl⟩, -⟩
    refine ⟨service, ⟨before, after, hentries, ?_, isService_iff.1 hservice⟩,
      Service.url?_eq_some_iff.1 hurl⟩
    exact fun other hmem => isService_eq_false_iff.1 (hbefore other hmem)
  · rintro ⟨service, ⟨before, after, hentries, hbefore, hservice⟩, hurl⟩
    refine ⟨⟨before, service, after, hentries, ?_, isService_iff.2 hservice,
      Service.url?_eq_some_iff.2 hurl⟩, hurl.web⟩
    exact fun other hmem => isService_eq_false_iff.2 (hbefore other hmem)

/-- **The first entry decides.** The endpoint of a service is that of the first entry of this type
and id, and this is also the first entry that is one and has an endpoint on the web. There is none
exactly if there is no such entry, or if the first has no endpoint on the web; the others are not
looked at. -/
theorem endpoint_of_first_entry (doc : DidDocument) (id type : String) :
    (∀ url, doc.endpoint? id type = some url ↔
      ∃ service, IsFirst (doc.IsEntry id type) (doc.service.getD []) service ∧
        service.HasEndpoint url) ∧
    (∀ url, doc.endpoint? id type = some url → ∃ service,
      IsFirst (fun entry => doc.IsEntry id type entry ∧ ∃ url, entry.HasEndpoint url)
        (doc.service.getD []) service ∧ service.HasEndpoint url) ∧
    (doc.endpoint? id type = none ↔
      ∀ service, IsFirst (doc.IsEntry id type) (doc.service.getD []) service →
        ∀ url, ¬ service.HasEndpoint url) := by
  refine ⟨fun url => endpoint?_eq_some_iff_isFirst, fun url h => ?_, ?_⟩
  · obtain ⟨service, ⟨before, after, hentries, hbefore, hservice⟩, hurl⟩ :=
      endpoint?_eq_some_iff_isFirst.1 h
    exact ⟨service, ⟨before, after, hentries, fun other hmem hother => hbefore other hmem hother.1,
      hservice, url, hurl⟩, hurl⟩
  · simp only [Option.eq_none_iff_forall_ne_some, ne_eq, endpoint?_eq_some_iff_isFirst, not_exists,
      not_and]
    exact ⟨fun h service hfirst url => h url service hfirst,
      fun h url service hfirst => h service hfirst url⟩

end DidDocument

namespace Sample

/-- A document that lists a service twice, under its id alone and behind the did. -/
def offering (endpoint endpoint' : String) : DidDocument :=
  ⟨friend, none, some [⟨"#bsky_fg", "BskyFeedGenerator", some (.str endpoint), []⟩,
    ⟨friend.text ++ "#bsky_fg", "BskyFeedGenerator", some (.str endpoint'), []⟩], []⟩

def reachable : DidDocument := offering "https://feed.test" "ftp://feed.test"

def unreachable : DidDocument := offering "ftp://feed.test" "https://feed.test"

theorem endpoint_of_first_entry_reachable : ∃ url service,
    reachable.endpoint? "#bsky_fg" "BskyFeedGenerator" = some url ∧
    IsFirst (fun entry => reachable.IsEntry "#bsky_fg" "BskyFeedGenerator" entry ∧
      ∃ url, entry.HasEndpoint url) (reachable.service.getD []) service ∧
    service.HasEndpoint url := by
  have hfound : (reachable.endpoint? "#bsky_fg" "BskyFeedGenerator").isSome = true := by
    decide +kernel
  obtain ⟨url, hurl⟩ := Option.isSome_iff_exists.1 hfound
  obtain ⟨-, hfirst, -⟩ :=
    DidDocument.endpoint_of_first_entry reachable "#bsky_fg" "BskyFeedGenerator"
  obtain ⟨service, hservice, hendpoint⟩ := hfirst url hurl
  exact ⟨url, service, hurl, hservice, hendpoint⟩

/-- An entry without an endpoint on the web hides the one behind it. -/
theorem exists_hidden_endpoint :
    unreachable.endpoint? "#bsky_fg" "BskyFeedGenerator" = none ∧
    ∃ service ∈ unreachable.service.getD [],
      unreachable.IsEntry "#bsky_fg" "BskyFeedGenerator" service ∧
      ∃ url, service.HasEndpoint url := by
  have hfound : (Service.url? ⟨friend.text ++ "#bsky_fg", "BskyFeedGenerator",
      some (.str "https://feed.test"), []⟩).isSome = true := by
    decide +kernel
  obtain ⟨url, hurl⟩ := Option.isSome_iff_exists.1 hfound
  exact ⟨by decide +kernel, _, List.mem_cons_of_mem _ List.mem_cons_self, ⟨rfl, .inr rfl⟩, url,
    Service.url?_eq_some_iff.1 hurl⟩

end Sample

end FeedHydration
