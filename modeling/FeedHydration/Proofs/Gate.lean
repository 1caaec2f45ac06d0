import FeedHydration.Proofs.Plan

/-!
# Before a generator is asked

A request goes out to a generator only after the feed has been looked up: its uri must name the
record of a generator, the record must stand, and the document of its service must be about that
very service and say where it is. The first of these that is not so is told to the client. Nothing
that a page is made of is read before a skeleton is there.
-/

namespace FeedHydration

/-! ### Documents -/

structure Url.IsWeb (url : Url) : Prop where
  scheme : url.scheme = "http" ∨ url.scheme = "https"
  host : url.host.isSome = true

namespace Service

variable {service : Service} {text : String} {url : Url}

/-- An entry gives its endpoint as a string, or as the string `url` of an object. -/
inductive Gives (service : Service) : String → Prop
  | string {text : String} : service.endpoint = some (.str text) → Gives service text
  | object {members : List (String × Json)} {text : String} :
      service.endpoint = some (.obj members) → members.lookup "url" = some (.str text) →
      Gives service text

/-- What an entry gives is an absolute url of the web. -/
structure HasEndpoint (service : Service) (url : Url) : Prop where
  given : ∃ text, service.Gives text ∧ Url.parse? text = some url
  web : url.IsWeb

theorem readWeb_eq_some_iff : ((Url.parse? text).bind fun url =>
    if (url.scheme = "http" ∨ url.scheme = "https") ∧ url.host.isSome = true then some url
    else none) = some url ↔ Url.parse? text = some url ∧ url.IsWeb := by
  rw [Option.bind_eq_some_iff]
  constructor
  · rintro ⟨url', hparse, hurl⟩
    split at hurl
    · rename_i hweb
      cases hurl
      exact ⟨hparse, hweb.1, hweb.2⟩
    · cases hurl
  · rintro ⟨hparse, hscheme, hhost⟩
    exact ⟨url, hparse, if_pos ⟨hscheme, hhost⟩⟩

theorem url?_eq_some_iff : service.url? = some url ↔ service.HasEndpoint url := by
  have hstring {value : Json} {text : String} : value.str? = some text ↔ value = .str text := by
    cases value <;> simp [Json.str?]
  unfold url?
  simp only [Option.bind_eq_bind, Option.bind_eq_some_iff]
  constructor
  · rintro ⟨value, hvalue, h⟩
    split at h
    · obtain ⟨hparse, hweb⟩ := readWeb_eq_some_iff.1 h
      exact ⟨⟨_, .string hvalue, hparse⟩, hweb⟩
    · simp only [Option.bind_eq_some_iff, hstring] at h
      obtain ⟨_, hmember, text, rfl, h⟩ := h
      obtain ⟨hparse, hweb⟩ := readWeb_eq_some_iff.1 (Option.bind_eq_some_iff.2 h)
      exact ⟨⟨text, .object hvalue hmember, hparse⟩, hweb⟩
    · cases h
  · rintro ⟨⟨text, hgives, hparse⟩, hweb⟩
    have hread := readWeb_eq_some_iff.2 ⟨hparse, hweb⟩
    cases hgives with
    | string hvalue => exact ⟨_, hvalue, hread⟩
    | object hvalue hmember =>
      refine ⟨_, hvalue, ?_⟩
      dsimp only
      rw [Json.get?, hmember]
      exact hread

end Service

namespace DidDocument

/-- The first entry of a document that is the service has an endpoint on the web. -/
structure Lists (doc : DidDocument) (id type : String) (endpoint : Url) : Prop where
  entry : ∃ before service after, doc.service.getD [] = before ++ service :: after ∧
    (∀ other ∈ before, doc.isService id type other = false) ∧
    doc.isService id type service = true ∧ service.url? = some endpoint
  web : endpoint.IsWeb

theorem endpoint?_eq_some_iff {doc : DidDocument} {id type : String} {endpoint : Url} :
    doc.endpoint? id type = some endpoint ↔ doc.Lists id type endpoint := by
  unfold endpoint?
  simp only [Option.bind_eq_bind, Option.bind_eq_some_iff, List.find?_eq_some_iff_append,
    Bool.not_eq_true']
  constructor
  · rintro ⟨service, ⟨hservice, before, after, hentries, hbefore⟩, hurl⟩
    exact ⟨⟨before, service, after, hentries, hbefore, hservice, hurl⟩,
      (Service.url?_eq_some_iff.1 hurl).web⟩
  · rintro ⟨⟨before, service, after, hentries, hbefore, hservice, hurl⟩, -⟩
    exact ⟨service, ⟨hservice, before, after, hentries, hbefore⟩, hurl⟩

end DidDocument

/-- The document of a did is about that very did, and says where its service is. -/
structure IdentityResolver.Locates (resolver : IdentityResolver) (did : Did) (id type : String)
    (doc : DidDocument) (endpoint : Url) : Prop where
  document : resolver did = .ok doc
  subject : doc.id = did
  service : doc.Lists id type endpoint

namespace IdentityResolver

variable {resolver : IdentityResolver} {did : Did} {id type : String} {doc : DidDocument}
  {endpoint : Url}

theorem serviceEndpoint_of_ok (hdoc : resolver did = .ok doc) :
    resolver.serviceEndpoint did id type =
      if doc.id = did then
        match doc.endpoint? id type with
        | some endpoint => .ok endpoint
        | none => .error (.missingService id type)
      else .error (.idMismatch did doc.id) := by
  unfold serviceEndpoint
  rw [hdoc]
  by_cases hsubject : doc.id = did <;> simp [hsubject, bind, Except.bind] <;> rfl

theorem serviceEndpoint_eq_ok_iff :
    resolver.serviceEndpoint did id type = .ok endpoint ↔
      ∃ doc, resolver.Locates did id type doc endpoint := by
  constructor
  · intro h
    cases hdoc : resolver did with
    | error e =>
      rw [serviceEndpoint, hdoc] at h
      cases h
    | ok doc =>
      rw [serviceEndpoint_of_ok hdoc] at h
      split at h
      · rename_i hsubject
        split at h
        · rename_i hurl
          cases h
          exact ⟨doc, hdoc, hsubject, DidDocument.endpoint?_eq_some_iff.1 hurl⟩
        · cases h
      · cases h
  · rintro ⟨doc, hdoc, hsubject, hservice⟩
    rw [serviceEndpoint_of_ok hdoc, if_pos hsubject, DidDocument.endpoint?_eq_some_iff.2 hservice]

theorem serviceEndpoint_eq_error_of_forall_not
    (h : ∀ doc endpoint, ¬ resolver.Locates did id type doc endpoint) :
    ∃ e, resolver.serviceEndpoint did id type = .error e := by
  cases hresult : resolver.serviceEndpoint did id type with
  | error e => exact ⟨e, rfl⟩
  | ok endpoint =>
    obtain ⟨doc, hlocates⟩ := serviceEndpoint_eq_ok_iff.1 hresult
    exact absurd hlocates (h doc endpoint)

end IdentityResolver

/-! ### Generators -/

structure Tables.HasGenerator (t : Tables) (feed : AtUri) (row : GeneratorRow) : Prop where
  stored : t.generators[feed]? = some row
  standing : row.takenDown = false
  creator : t.HasAccount feed.authority

namespace Tables

variable {t : Tables} {viewer : Option Did} {feed : AtUri} {row : GeneratorRow}

theorem hasGenerator_of_generator? {generator : Generator}
    (h : t.generator? viewer feed = some generator) :
    ∃ row, t.HasGenerator feed row ∧ generator.serviceDid = row.serviceDid := by
  obtain ⟨row, hrow, rfl⟩ := Option.map_eq_some_iff.1 h
  obtain ⟨hrow, hstanding, hlive⟩ := visible?_eq_some_iff.1 hrow
  exact ⟨row, ⟨hrow, hstanding, isLive_iff.1 hlive⟩, rfl⟩

theorem HasGenerator.exists_generator? (h : t.HasGenerator feed row) (viewer : Option Did) :
    ∃ generator, t.generator? viewer feed = some generator ∧
      generator.serviceDid = row.serviceDid := by
  have hrow := visible?_eq_some_iff.2 ⟨h.stored, h.standing, isLive_iff.2 h.creator⟩
  exact ⟨_, Option.map_eq_some_iff.2 ⟨row, hrow, rfl⟩, rfl⟩

end Tables

/-! ### Addresses -/

/-- Urls with the same way to their server. -/
structure Url.SameServer (url other : Url) : Prop where
  scheme : url.scheme = other.scheme
  userinfo : url.userinfo = other.userinfo
  host : url.host = other.host
  port : url.port = other.port

namespace Url

theorem sameServer_withPath (url : Url) (text : List Char) :
    (url.withPath text).SameServer url := by
  unfold withPath
  dsimp only
  split
  · split <;> exact ⟨rfl, rfl, rfl, rfl⟩
  · exact ⟨rfl, rfl, rfl, rfl⟩

theorem sameServer_trimOpaqueEnd (url : Url) : url.trimOpaqueEnd.SameServer url := by
  unfold trimOpaqueEnd
  split <;> exact ⟨rfl, rfl, rfl, rfl⟩

theorem sameServer_withoutFragment (url : Url) : url.withoutFragment.SameServer url :=
  ⟨rfl, rfl, rfl, rfl⟩

theorem SameServer.trans {a b c : Url} (h : a.SameServer b) (h' : b.SameServer c) :
    a.SameServer c :=
  ⟨h.scheme.trans h'.scheme, h.userinfo.trans h'.userinfo, h.host.trans h'.host,
    h.port.trans h'.port⟩

theorem sameServer_endpointUrl (base : Url) (method : String) (query : Option (List Char)) :
    (Xrpc.endpointUrl base method query).SameServer base := by
  have hquery : ∀ (url : Url) (query : Option (List Char)), (url.withQuery query).SameServer url :=
    fun url query => (sameServer_trimOpaqueEnd _).trans ⟨rfl, rfl, rfl, rfl⟩
  exact (hquery _ _).trans (sameServer_withPath base _)

end Url

theorem Skeleton.sameServer_url (endpoint : Url) (feed : AtUri) (limit : Nat)
    (cursor : Option String) : (url endpoint feed limit cursor).SameServer endpoint :=
  Url.sameServer_endpointUrl endpoint _ _

theorem Skeleton.of_httpRequest {options : FeedOptions} {endpoint : Url} {request : FeedRequest}
    {limit : Nat} {outgoing : HttpRequest}
    (h : httpRequest options endpoint request limit = .ok outgoing) :
    outgoing.url = (url endpoint request.feed limit request.cursor).withoutFragment ∧
      outgoing.headers = Headers.override ⟨[(HeaderName.accept, "application/json")]⟩
        (options.forwardable request.headers) := by
  unfold httpRequest HttpRequest.getJson at h
  split at h
  · cases h
  · split at h
    · cases h
    · cases h
      exact ⟨rfl, rfl⟩

/-! ### What is sent -/

namespace Serve

variable {α β : Type} {m : Serve α} {next : α → Serve β} {s : Surroundings}

theorem mapError_eq_ok_iff {ε ε' : Type} {f : ε → ε'} {result : Except ε α} {a : α} :
    result.mapError f = .ok a ↔ result = .ok a := by
  cases result with
  | error e => simp [Except.mapError]
  | ok b => simp [Except.mapError]

def Silent (m : Serve α) : Prop :=
  ∀ s, (m.run s).sent = []

theorem silent_pure (a : α) : (Pure.pure a : Serve α).Silent :=
  fun _ => rfl

theorem silent_ofExcept (result : Except FeedError α) : (ofExcept result).Silent :=
  fun _ => rfl

theorem silent_fetch (m : Fetch α) : (fetch m).Silent :=
  fun _ => rfl

theorem silent_surroundings : surroundings.Silent :=
  fun _ => rfl

theorem sent_bind_of_silent (hnext : ∀ a, (next a).Silent) :
    ((m >>= next).run s).sent = (m.run s).sent := by
  cases hresult : (m.run s).result with
  | ok a => rw [run_bind_of_ok hresult, hnext a s, List.append_nil]
  | error e => rw [run_bind_of_error hresult]

theorem Silent.bind (hm : m.Silent) (hnext : ∀ a, (next a).Silent) : (m >>= next).Silent :=
  fun s => (sent_bind_of_silent hnext).trans (hm s)

theorem Silent.sent_bind (hm : m.Silent) :
    ((m >>= next).run s).sent = [] ∨
      ∃ a, m.Gives s a ∧ ((m >>= next).run s).sent = ((next a).run s).sent := by
  cases hresult : (m.run s).result with
  | ok a =>
    refine .inr ⟨a, hresult, ?_⟩
    rw [run_bind_of_ok hresult, hm s, List.nil_append]
  | error e =>
    rw [run_bind_of_error hresult]
    exact .inl (hm s)

theorem silent_feedEndpoint (options : FeedOptions) (feed : AtUri) (viewer : Option Did) :
    (feedEndpoint options feed viewer).Silent := by
  unfold feedEndpoint
  split
  · exact silent_ofExcept _
  · refine (silent_fetch _).bind fun generators => ?_
    split
    · exact silent_ofExcept _
    · exact silent_surroundings.bind fun _ => silent_ofExcept _

/-- A generator is asked at most once, at the endpoint that was found for the feed. -/
theorem sent_skeleton (options : FeedOptions) (request : FeedRequest) (limit : Nat)
    (s : Surroundings) :
    ((skeleton options request limit).run s).sent = [] ∨
      ∃ endpoint outgoing, (feedEndpoint options request.feed request.viewer).Gives s endpoint ∧
        Skeleton.httpRequest options endpoint request limit = .ok outgoing ∧
        ((skeleton options request limit).run s).sent = [outgoing] := by
  have hendpoint := silent_feedEndpoint options request.feed request.viewer
  unfold skeleton
  obtain hnil | ⟨endpoint, hgives, hsent⟩ := hendpoint.sent_bind
  · exact .inl hnil
  rw [hsent]
  obtain hnil | ⟨outgoing, hrequest, hsent⟩ := (silent_ofExcept _).sent_bind
  · exact .inl hnil
  rw [hsent]
  refine .inr ⟨endpoint, outgoing, hgives, ?_, ?_⟩
  · exact mapError_eq_ok_iff.1 hrequest
  · exact sent_bind_of_silent fun _ => silent_ofExcept _

end Serve

/-! ### The lookup of a feed -/

namespace Serve

variable {options : FeedOptions} {feed : AtUri} {viewer : Option Did} {s : Surroundings}
  {endpoint : Url} {row : GeneratorRow}

theorem result_feedEndpoint_of_collection (h : feed.collection ≠ Collection.generator) :
    ((feedEndpoint options feed viewer).run s).result =
      .error (.invalidFeedReference feed "not an app.bsky.feed.generator record") := by
  rw [feedEndpoint, if_pos h]
  rfl

theorem result_feedEndpoint_of_gives (hcollection : feed.collection = Collection.generator)
    {found : Std.ExtTreeMap AtUri Generator}
    (hfound : (Fetch.loadGenerators [feed] viewer).Gives s.index found) :
    ((feedEndpoint options feed viewer).run s).result =
      match s.index.tables.generator? viewer feed with
      | none => .error (.feedNotFound feed)
      | some generator =>
        (s.resolver.serviceEndpoint generator.serviceDid options.serviceId
          options.serviceType).mapError fun e =>
            .invalidGeneratorConfig generator.serviceDid e.message := by
  have hgenerator : found[feed]? = s.index.tables.generator? viewer feed :=
    (Fetch.loadGenerators_isLookup hfound).getElem?_of_mem (List.mem_singleton_self feed)
  rw [feedEndpoint, if_neg (not_not_intro hcollection), run_bind_of_ok (gives_fetch.2 hfound),
    hgenerator]
  cases s.index.tables.generator? viewer feed with
  | none => rfl
  | some generator => rfl

theorem collection_of_feedEndpoint (h : (feedEndpoint options feed viewer).Gives s endpoint) :
    feed.collection = Collection.generator := by
  by_contra hcollection
  rw [Gives, result_feedEndpoint_of_collection hcollection] at h
  cases h

/-- An endpoint is found only where a generator stands and its document says where it is. -/
theorem of_feedEndpoint (h : (feedEndpoint options feed viewer).Gives s endpoint) :
    ∃ row doc, s.index.tables.HasGenerator feed row ∧
      s.resolver.Locates row.serviceDid options.serviceId options.serviceType doc endpoint := by
  have hcollection := collection_of_feedEndpoint h
  have hload := h
  rw [feedEndpoint, if_neg (not_not_intro hcollection)] at hload
  obtain ⟨found, hfound, -⟩ := gives_bind.1 hload
  rw [Gives, result_feedEndpoint_of_gives hcollection (gives_fetch.1 hfound)] at h
  split at h
  · cases h
  · rename_i generator hgenerator
    obtain ⟨row, hrow, hservice⟩ := Tables.hasGenerator_of_generator? hgenerator
    rw [hservice] at h
    obtain ⟨doc, hlocates⟩ := IdentityResolver.serviceEndpoint_eq_ok_iff.1 (mapError_eq_ok_iff.1 h)
    exact ⟨row, doc, hrow, hlocates⟩

theorem result_feedEndpoint_of_not_hasGenerator (hout : s.index.outage = none)
    (hcollection : feed.collection = Collection.generator)
    (h : ∀ row, ¬ s.index.tables.HasGenerator feed row) :
    ((feedEndpoint options feed viewer).run s).result = .error (.feedNotFound feed) := by
  have hload : (Fetch.loadGenerators [feed] viewer).Answers s.index :=
    Fetch.answers_loadGenerators hout
  obtain ⟨found, hfound⟩ := hload
  rw [result_feedEndpoint_of_gives hcollection hfound]
  cases hgenerator : s.index.tables.generator? viewer feed with
  | none => rfl
  | some generator =>
    obtain ⟨row, hrow, -⟩ := Tables.hasGenerator_of_generator? hgenerator
    exact absurd hrow (h row)

theorem result_feedEndpoint_of_not_locates (hout : s.index.outage = none)
    (hcollection : feed.collection = Collection.generator)
    (hrow : s.index.tables.HasGenerator feed row)
    (h : ∀ doc endpoint, ¬ s.resolver.Locates row.serviceDid options.serviceId options.serviceType
      doc endpoint) :
    ∃ reason, ((feedEndpoint options feed viewer).run s).result =
      .error (.invalidGeneratorConfig row.serviceDid reason) := by
  have hload : (Fetch.loadGenerators [feed] viewer).Answers s.index :=
    Fetch.answers_loadGenerators hout
  obtain ⟨found, hfound⟩ := hload
  obtain ⟨generator, hgenerator, hservice⟩ := hrow.exists_generator? viewer
  obtain ⟨e, he⟩ := IdentityResolver.serviceEndpoint_eq_error_of_forall_not h
  refine ⟨e.message, ?_⟩
  rw [result_feedEndpoint_of_gives hcollection hfound, hgenerator]
  dsimp only
  rw [hservice, he]
  rfl

end Serve

/-! ### Requests -/

namespace FeedService

variable {service : FeedService} {request : FeedRequest} {s : Surroundings} {e : FeedError}

def skeleton (service : FeedService) (request : FeedRequest) : Serve Skeleton :=
  Serve.skeleton service.options request (service.options.clampLimit request.limit)

theorem page_of_skeleton_error (h : ((service.skeleton request).run s).result = .error e) :
    (service.page request).run s =
      ⟨((service.skeleton request).run s).reads, ((service.skeleton request).run s).sent,
        .error e⟩ :=
  Serve.run_bind_of_error h

theorem result_page_of_feedEndpoint_error
    (h : ((Serve.feedEndpoint service.options request.feed request.viewer).run s).result =
      .error e) :
    ((service.page request).run s).result = .error e := by
  have hskeleton : ((service.skeleton request).run s).result = .error e := by
    rw [skeleton, Serve.skeleton, Serve.run_bind_of_error h]
  rw [page_of_skeleton_error hskeleton]

theorem sent_page (service : FeedService) (request : FeedRequest) (s : Surroundings) :
    ((service.page request).run s).sent = ((service.skeleton request).run s).sent :=
  Serve.sent_bind_of_silent fun _ => (Serve.silent_fetch _).bind fun _ =>
    Serve.silent_surroundings.bind fun _ => Serve.silent_pure _

/-- What a page sends, and what it has found before it sends it. -/
theorem sent_page_cases (service : FeedService) (request : FeedRequest) (s : Surroundings) :
    ((service.page request).run s).sent = [] ∨
      ∃ outgoing row doc endpoint, ((service.page request).run s).sent = [outgoing] ∧
        request.feed.collection = Collection.generator ∧
        s.index.tables.HasGenerator request.feed row ∧
        s.resolver.Locates row.serviceDid service.options.serviceId service.options.serviceType
          doc endpoint ∧
        outgoing.url = (Skeleton.url endpoint request.feed
          (service.options.clampLimit request.limit) request.cursor).withoutFragment := by
  rw [sent_page, skeleton]
  obtain hnil | ⟨endpoint, outgoing, hgives, hrequest, hsent⟩ := Serve.sent_skeleton
    service.options request (service.options.clampLimit request.limit) s
  · exact .inl hnil
  · obtain ⟨row, doc, hrow, hlocates⟩ := Serve.of_feedEndpoint hgives
    exact .inr ⟨outgoing, row, doc, endpoint, hsent, Serve.collection_of_feedEndpoint hgives, hrow,
      hlocates, (Skeleton.of_httpRequest hrequest).1⟩

theorem kind_of_mem_reads_skeleton {read : Read}
    (hmem : read ∈ ((service.skeleton request).run s).reads) :
    read.kind = .generators ∨ read.kind = .actors := by
  have hplan := Serve.follows_skeleton service.options request
    (service.options.clampLimit request.limit) s
  have hkind : read.kind ∈ [ReadKind.generators, .actors] :=
    hplan.order.subset (List.mem_map_of_mem hmem)
  simpa using hkind

/-- **The skeleton stage is a gate.** At most one request is sent for a page. It goes to the
endpoint of a service, and only for a record of a generator that stands, from a document that is
about the service and lists it on the web. Without an outage, the first of these that is not so
names the error. A page whose skeleton fails fails alike, and has read generators and accounts at
most. -/
theorem skeleton_gates_page (service : FeedService) (request : FeedRequest) (s : Surroundings) :
    ((service.page request).run s).sent.length ≤ 1 ∧
    (∀ outgoing ∈ ((service.page request).run s).sent, ∃ row doc endpoint,
      request.feed.collection = Collection.generator ∧
      s.index.tables.HasGenerator request.feed row ∧
      s.resolver.Locates row.serviceDid service.options.serviceId service.options.serviceType
        doc endpoint ∧
      outgoing.url = (Skeleton.url endpoint request.feed
        (service.options.clampLimit request.limit) request.cursor).withoutFragment ∧
      outgoing.url.SameServer endpoint) ∧
    (s.index.outage = none →
      (request.feed.collection ≠ Collection.generator →
        ∃ reason, ((service.page request).run s).result =
          .error (.invalidFeedReference request.feed reason)) ∧
      (request.feed.collection = Collection.generator →
        (∀ row, ¬ s.index.tables.HasGenerator request.feed row) →
        ((service.page request).run s).result = .error (.feedNotFound request.feed)) ∧
      (request.feed.collection = Collection.generator →
        ∀ row, s.index.tables.HasGenerator request.feed row →
        (∀ doc endpoint, ¬ s.resolver.Locates row.serviceDid service.options.serviceId
          service.options.serviceType doc endpoint) →
        ∃ reason, ((service.page request).run s).result =
          .error (.invalidGeneratorConfig row.serviceDid reason))) ∧
    ∀ e, ((service.skeleton request).run s).result = .error e →
      ((service.page request).run s).result = .error e ∧
      ∀ read ∈ ((service.page request).run s).reads,
        read.kind = .generators ∨ read.kind = .actors := by
  refine ⟨?_, ?_, fun hout => ⟨?_, ?_, ?_⟩, ?_⟩
  · obtain hnil | ⟨outgoing, -, -, -, hsent, -⟩ := sent_page_cases service request s
    · rw [hnil]
      exact Nat.zero_le 1
    · rw [hsent]
      exact Nat.le_refl 1
  · intro outgoing hmem
    obtain hnil | ⟨outgoing', row, doc, endpoint, hsent, hcollection, hrow, hlocates, hurl⟩ :=
      sent_page_cases service request s
    · rw [hnil] at hmem
      cases hmem
    · rw [hsent, List.mem_singleton] at hmem
      subst hmem
      refine ⟨row, doc, endpoint, hcollection, hrow, hlocates, hurl, ?_⟩
      rw [hurl]
      exact (Url.sameServer_withoutFragment _).trans (Skeleton.sameServer_url endpoint _ _ _)
  · intro hcollection
    exact ⟨_, result_page_of_feedEndpoint_error
      (Serve.result_feedEndpoint_of_collection hcollection)⟩
  · intro hcollection hnone
    exact result_page_of_feedEndpoint_error
      (Serve.result_feedEndpoint_of_not_hasGenerator hout hcollection hnone)
  · intro hcollection row hrow hnone
    obtain ⟨reason, herror⟩ := Serve.result_feedEndpoint_of_not_locates hout hcollection hrow hnone
    exact ⟨reason, result_page_of_feedEndpoint_error herror⟩
  · intro e he
    rw [page_of_skeleton_error he]
    exact ⟨rfl, fun read => kind_of_mem_reads_skeleton⟩

end FeedService

namespace Sample

/-- The document of every service is about the foe. -/
def misled : Surroundings :=
  { surroundings with resolver := fun _ => surroundings.resolver foe }

theorem sent_ne_nil : ((service.page request).run surroundings).sent ≠ [] := by
  have hlength : ((service.skeleton request).run surroundings).sent.length = 1 := by
    decide +kernel
  rw [FeedService.sent_page]
  intro hnil
  rw [hnil] at hlength
  cases hlength

theorem hasGenerator : tables.HasGenerator friendGenerator generatorRow where
  stored := by decide +kernel
  standing := rfl
  creator := ⟨account, by decide +kernel, rfl, rfl⟩

theorem not_locates_misled (id type : String) (doc : DidDocument) (endpoint : Url) :
    ¬ misled.resolver.Locates friend id type doc endpoint := by
  rintro ⟨hdoc, hsubject, -⟩
  cases hdoc
  exact absurd hsubject (by decide)

theorem skeleton_gates_sample :
    (∃ outgoing ∈ ((service.page request).run surroundings).sent, ∃ doc endpoint,
      surroundings.resolver.Locates friend "#bsky_fg" "BskyFeedGenerator" doc endpoint ∧
      outgoing.url.SameServer endpoint) ∧
    (∃ reason, ((service.page { request with feed := friendPost }).run surroundings).result =
      .error (.invalidFeedReference friendPost reason)) ∧
    ∃ reason, ((service.page request).run misled).result =
      .error (.invalidGeneratorConfig friend reason) := by
  refine ⟨?_, ?_, ?_⟩
  · obtain ⟨-, hsent, -, -⟩ := FeedService.skeleton_gates_page service request surroundings
    obtain ⟨outgoing, hmem⟩ := List.exists_mem_of_ne_nil _ sent_ne_nil
    obtain ⟨row, doc, endpoint, -, hrow, hlocates, -, hserver⟩ := hsent outgoing hmem
    obtain rfl : row = generatorRow := Option.some.inj (hrow.stored.symm.trans hasGenerator.stored)
    exact ⟨outgoing, hmem, doc, endpoint, hlocates, hserver⟩
  · obtain ⟨-, -, herrors, -⟩ :=
      FeedService.skeleton_gates_page service { request with feed := friendPost } surroundings
    exact (herrors rfl).1 (by decide)
  · obtain ⟨-, -, herrors, -⟩ := FeedService.skeleton_gates_page service request misled
    exact (herrors rfl).2.2 rfl generatorRow hasGenerator (not_locates_misled _ _)

end Sample

end FeedHydration
