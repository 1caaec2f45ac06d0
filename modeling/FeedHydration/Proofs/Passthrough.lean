import FeedHydration.Proofs.Gate
import FeedHydration.Proofs.Skeleton

/-!
# What a page hands on

Beside the feed, a page has the cursor of the skeleton and what the generator sent along. No stage
between looks at them, so the page has them as they were read, and with them one feed, one cursor
at most, and no name twice: the names that a page has for its own are never handed on.
-/

namespace FeedHydration

/-! ### From the body to the skeleton -/

namespace Skeleton

variable {skeleton : Skeleton} {given : List (String × JsonNode)}

/-- A skeleton has what an object gives beside its entries: a cursor that is not null, and every
member of another name, with the last value that is given for it. -/
structure TakesFrom (skeleton : Skeleton) (given : List (String × JsonNode)) : Prop where
  sorted : Json.IsSorted skeleton.passthrough
  names : ∀ name, name ∈ skeleton.passthrough.map Prod.fst ↔
    name ∉ members ∧ name ∈ given.map Prod.fst
  values : ∀ name ∉ members, skeleton.passthrough.lookup name =
    (given.reverse.lookup name).bind JsonNode.toJson?
  cursor : ∀ text, skeleton.cursor = some text ↔ ("cursor", .str text) ∈ given
  noCursor : skeleton.cursor = none ↔ ∀ node, ("cursor", node) ∈ given → node = .null

theorem exists_takesFrom {contentLanguage : Option String} {document : JsonNode}
    (h : ofNode? contentLanguage document = some skeleton) :
    ∃ given, document = .obj given ∧ skeleton.TakesFrom given := by
  unfold ofNode? at h
  obtain ⟨passthrough, hextras, h⟩ := Option.bind_eq_some_iff.1 h
  obtain ⟨r, hr, h⟩ := Option.bind_eq_some_iff.1 h
  obtain ⟨items, -, h⟩ := Option.bind_eq_some_iff.1 h
  obtain ⟨cursor, hcursor, h⟩ := Option.bind_eq_some_iff.1 h
  cases h
  cases document with
  | obj given =>
    obtain ⟨hsorted, hnames, hvalues⟩ := JsonNode.collected_of_extras? hextras
    obtain ⟨htext, hnone⟩ := JsonNode.trailing?_str?_iff hr (by decide) (by decide) hcursor
    exact ⟨given, rfl, hsorted, hnames, hvalues, htext, hnone⟩
  | _ => cases hextras

theorem ofNode?_eq_map (contentLanguage : Option String) (document : JsonNode) :
    ofNode? contentLanguage document = (ofNode? none document).map fun skeleton =>
      { skeleton with contentLanguage := contentLanguage } := by
  unfold ofNode?
  simp [Option.bind_eq_bind, Option.map_bind]

/-- A skeleton is read off the body of a reply that comes with 200. -/
theorem of_ofReply_eq_ok {reply : HttpReply} (h : ofReply reply = .ok skeleton) :
    reply.status = HttpStatus.ok ∧ ∃ document, JsonNode.ofBytes? reply.body = some document ∧
      ofNode? (reply.headers.first? HeaderName.contentLanguage) document = some skeleton := by
  by_cases hok : reply.status = HttpStatus.ok
  · refine ⟨hok, ?_⟩
    rw [ofReply_of_ok hok] at h
    split at h
    · rename_i hbody
      cases h
      exact Option.bind_eq_some_iff.1 hbody
    · cases h
  · by_cases hknown : reply.status ∈ Xrpc.knownStatuses
    · rw [ofReply_of_known hknown hok] at h
      cases h
    · rw [ofReply_of_unknown hknown] at h
      cases h

/-- Replies with one body give skeletons that have the same to hand on. -/
theorem handed_on_unique {reply reply' : HttpReply} {skeleton' : Skeleton}
    (h : ofReply reply = .ok skeleton) (h' : ofReply reply' = .ok skeleton')
    (hbody : reply'.body = reply.body) :
    skeleton'.cursor = skeleton.cursor ∧ skeleton'.passthrough = skeleton.passthrough := by
  obtain ⟨-, document, hdocument, hread⟩ := of_ofReply_eq_ok h
  obtain ⟨-, document', hdocument', hread'⟩ := of_ofReply_eq_ok h'
  rw [hbody, hdocument] at hdocument'
  cases hdocument'
  rw [ofNode?_eq_map, Option.map_eq_some_iff] at hread hread'
  obtain ⟨read, hread, rfl⟩ := hread
  obtain ⟨read', hread', rfl⟩ := hread'
  rw [hread] at hread'
  cases hread'
  exact ⟨rfl, rfl⟩

end Skeleton

/-! ### From the skeleton to the page -/

namespace FeedPage

variable {page : FeedPage} {skeleton : Skeleton} {given : List (String × JsonNode)} {name : String}

/-- The members of a page in the order in which they are written. -/
def written (page : FeedPage) : List (String × Json) :=
  page.passthrough ++ ("feed", Json.listOf FeedEntry.toJson page.feed) ::
    (page.cursor.map fun text => ("cursor", .str text)).toList

theorem present_fields (page : FeedPage) : Json.present page.fields =
    ("feed", Json.listOf FeedEntry.toJson page.feed) ::
      (page.cursor.map fun text => ("cursor", .str text)).toList := by
  cases hcursor : page.cursor <;> simp [fields, Json.present, hcursor]

theorem present_openFields (page : FeedPage) :
    Json.present (Json.openFields page.passthrough page.fields) = page.written := by
  rw [Json.present_openFields, present_fields, written]

theorem mem_names_written : name ∈ page.written.map Prod.fst ↔
    name ∈ page.passthrough.map Prod.fst ∨ name = "feed" ∨
      name = "cursor" ∧ page.cursor ≠ none := by
  cases hcursor : page.cursor <;> simp [written, hcursor]

theorem lookup_written (hname : name ∉ members) :
    page.written.lookup name = page.passthrough.lookup name := by
  have hown : (("feed", Json.listOf FeedEntry.toJson page.feed) ::
      (page.cursor.map fun text => ("cursor", .str text)).toList).lookup name = none := by
    rw [← present_fields, List.lookup_eq_none_iff]
    intro member hmember
    rw [bne_iff_ne]
    rintro rfl
    exact hname (page.names_fields ▸
      (Json.present_names_sublist _).mem (List.mem_map_of_mem hmember))
  rw [written, List.lookup_append, hown, Option.or_none]

/-- A page is an object without repeated names. It has a feed, it has the cursor that an object
gives, if there is one that is not null, and it has every other member of the object, with the last
value that is given for its name. -/
structure HandsOn (page : FeedPage) (given : List (String × JsonNode)) : Prop where
  object : ∃ members, page.toJson = .obj members ∧ members.Perm page.written
  once : (page.written.map Prod.fst).Nodup
  names : ∀ name, name ∈ page.written.map Prod.fst ↔
    name = "feed" ∨ (name = "cursor" ∧ ∃ node, ("cursor", node) ∈ given ∧ node ≠ .null) ∨
      (name ∉ members ∧ name ∈ given.map Prod.fst)
  cursor : ∀ value, ("cursor", value) ∈ page.written ↔
    ∃ text, value = .str text ∧ ("cursor", .str text) ∈ given
  values : ∀ name ∉ members, page.written.lookup name =
    (given.reverse.lookup name).bind JsonNode.toJson?

theorem handsOn_of_takesFrom (h : skeleton.TakesFrom given)
    (hpassthrough : page.passthrough = skeleton.passthrough)
    (hcursor : page.cursor = skeleton.cursor) : page.HandsOn given := by
  have hopen : ∀ member ∈ page.passthrough, member.1 ∉ members := by
    intro member hmember
    exact ((h.names member.1).1 (hpassthrough ▸ List.mem_map_of_mem hmember)).1
  have hsorted : Json.IsSorted page.passthrough := hpassthrough ▸ h.sorted
  have honce : (page.written.map Prod.fst).Nodup := by
    rw [← page.present_openFields]
    exact (Json.present_names_sublist _).nodup
      (Json.nodup_openFields page.names_fields (by decide) hsorted hopen)
  refine ⟨⟨_, ?_, Json.perm_sortMembers honce⟩, honce, fun name => ?_, fun value => ?_,
    fun name hname => ?_⟩
  · rw [toJson_eq, Json.record_eq, page.present_openFields]
  · have hgiven : page.cursor ≠ none ↔ ∃ node, ("cursor", node) ∈ given ∧ node ≠ .null := by
      rw [hcursor, ne_eq, h.noCursor]
      simp
    rw [mem_names_written, hpassthrough, h.names, hgiven]
    exact or_comm.trans or_assoc
  · have hnot : ("cursor", value) ∉ page.passthrough := fun hmem => hopen _ hmem (by simp [members])
    simp [written, hnot, hcursor, h.cursor, and_comm, eq_comm]
  · rw [lookup_written hname, hpassthrough, h.values name hname]

/-- What is sent as a value without repeated names is handed on as it is. -/
theorem HandsOn.lookup_of_holds {sent : List (String × Json)} (h : page.HandsOn given)
    (hholds : (JsonNode.obj given).Holds (.obj sent)) (hname : name ∉ members) :
    page.written.lookup name = sent.lookup name := by
  have hnodup : (given.reverse.map Prod.fst).Nodup := by
    rw [List.map_reverse, List.nodup_reverse]
    exact hholds.names_nodup
  rw [h.values name hname, Json.lookup_of_perm hnodup (List.reverse_perm given)]
  have hlookup := hholds.lookup name
  cases hgiven : given.lookup name with
  | none =>
    rw [hgiven] at hlookup
    generalize sent.lookup name = value at hlookup ⊢
    cases hlookup
    rfl
  | some node =>
    rw [hgiven] at hlookup
    generalize sent.lookup name = value at hlookup ⊢
    cases hlookup with
    | some hnode => exact hnode.value

end FeedPage

/-! ### From the request to the page -/

namespace Serve

variable {α β : Type} {m : Serve α} {next : α → Serve β} {s : Surroundings}

theorem Silent.sent_bind_of_gives (hm : m.Silent) {a : α} (ha : m.Gives s a) :
    ((m >>= next).run s).sent = ((next a).run s).sent := by
  rw [run_bind_of_ok ha, hm s, List.nil_append]

theorem result_of_gives_exchange {outgoing : HttpRequest} {timeout : Option Nat}
    {reply : HttpReply} (h : (exchange outgoing timeout).Gives s reply) :
    (s.generator outgoing).result = .ok reply := by
  unfold Gives exchange at h
  dsimp only at h
  split at h
  · cases h
  · rw [mapError_eq_ok_iff, Answer.outcome] at h
    split at h
    · cases h
    · exact mapError_eq_ok_iff.1 h

theorem exists_reply_of_gives {options : FeedOptions} {request : FeedRequest} {limit : Nat}
    {read : Skeleton} (h : (skeleton options request limit).Gives s read) :
    ∃ outgoing reply, ((skeleton options request limit).run s).sent = [outgoing] ∧
      (s.generator outgoing).result = .ok reply ∧ Skeleton.ofReply reply = .ok read := by
  obtain ⟨endpoint, hendpoint, h⟩ := gives_bind.1 h
  obtain ⟨outgoing, hrequest, h⟩ := gives_bind.1 h
  obtain ⟨reply, hreply, hread⟩ := gives_bind.1 h
  refine ⟨outgoing, reply, ?_, result_of_gives_exchange hreply, hread⟩
  rw [skeleton, (silent_feedEndpoint _ _ _).sent_bind_of_gives hendpoint,
    (silent_ofExcept _).sent_bind_of_gives hrequest]
  exact sent_bind_of_silent fun _ => silent_ofExcept _

end Serve

namespace FeedService

variable {service service' : FeedService} {request request' : FeedRequest} {s s' : Surroundings}
  {outcome outcome' : FeedOutcome} {reply reply' : HttpReply}

/-- The generator is asked for a skeleton and replies. -/
def Receives (service : FeedService) (request : FeedRequest) (s : Surroundings)
    (reply : HttpReply) : Prop :=
  ∃ outgoing ∈ ((service.page request).run s).sent, (s.generator outgoing).result = .ok reply

/-- A page has the cursor and the other members of the skeleton that is read off the one reply. -/
theorem exists_reply_of_gives_page (h : (service.page request).Gives s outcome) :
    ∃ reply skeleton, (∀ other, service.Receives request s other ↔ other = reply) ∧
      Skeleton.ofReply reply = .ok skeleton ∧
      outcome.page.passthrough = skeleton.passthrough ∧
      outcome.page.cursor = skeleton.cursor := by
  obtain ⟨skeleton, hskeleton, hpresent⟩ := gives_page.1 h
  obtain ⟨outgoing, reply, hsent, hreply, hread⟩ := Serve.exists_reply_of_gives hskeleton
  obtain ⟨page, -, hgives⟩ := Fetch.gives_bind.1 hpresent
  rw [Fetch.gives_pure] at hgives
  subst hgives
  refine ⟨reply, skeleton, fun other => ?_, hread, rfl, rfl⟩
  rw [Receives, sent_page, FeedService.skeleton, hsent]
  simp [hreply, eq_comm]

/-- **Pages hand on what the generator sent.** A page is made of one reply, which comes with 200 and
is an object. The page is an object without repeated names; it has a feed, the cursor if the
generator sent one that is not null, and the other members that the generator sent, with the values
that were read. If all numbers are whole, these are the values that were written into the body. Any
two pages made of one body have the same cursor and the same other members. -/
theorem page_hands_on (service : FeedService) (request : FeedRequest) (s : Surroundings)
    (outcome : FeedOutcome) (h : (service.page request).Gives s outcome) :
    (∃ reply, service.Receives request s reply) ∧
    ∀ reply, service.Receives request s reply →
      reply.status = HttpStatus.ok ∧
      (∃ given, JsonNode.ofBytes? reply.body = some (.obj given) ∧
        outcome.page.HandsOn given) ∧
      (∀ sent : List (String × Json), (Json.obj sent).IsCanonical → (Json.obj sent).IsWhole →
        (Json.obj sent).depth ≤ JsonNode.maxDepth →
        reply.body = Utf8.encode (Json.obj sent).render →
          ∀ name ∉ FeedPage.members, outcome.page.written.lookup name = sent.lookup name) ∧
      ∀ (service' : FeedService) (request' : FeedRequest) (s' : Surroundings)
        (outcome' : FeedOutcome) (reply' : HttpReply),
        (service'.page request').Gives s' outcome' → service'.Receives request' s' reply' →
        reply'.body = reply.body →
          outcome'.page.cursor = outcome.page.cursor ∧
          outcome'.page.passthrough = outcome.page.passthrough := by
  obtain ⟨reply, skeleton, hreceives, hread, hpassthrough, hcursor⟩ := exists_reply_of_gives_page h
  refine ⟨⟨reply, (hreceives reply).2 rfl⟩, ?_⟩
  intro other hother
  obtain rfl := (hreceives other).1 hother
  obtain ⟨hok, document, hdocument, hnode⟩ := Skeleton.of_ofReply_eq_ok hread
  obtain ⟨given, rfl, htakes⟩ := Skeleton.exists_takesFrom hnode
  have hhands := FeedPage.handsOn_of_takesFrom htakes hpassthrough hcursor
  refine ⟨hok, ⟨given, hdocument, hhands⟩, ?_, ?_⟩
  -- A printed value has one document, so the object that was read is the one that was sent.
  · intro sent hcanonical hwhole hdepth hbody name hname
    have hholds := JsonNode.holds_ofJson hcanonical
    rw [hbody, JsonNode.ofBytes?_render hwhole hdepth, Option.some.injEq] at hdocument
    rw [hdocument] at hholds
    exact hhands.lookup_of_holds hholds hname
  · intro service' request' s' outcome' reply' h' hreply' hbody
    obtain ⟨_, skeleton', hreceives', hread', hpassthrough', hcursor'⟩ :=
      exists_reply_of_gives_page h'
    obtain rfl := (hreceives' reply').1 hreply'
    obtain ⟨hsame, hsame'⟩ := Skeleton.handed_on_unique hread hread' hbody
    rw [hpassthrough, hpassthrough', hcursor, hcursor']
    exact ⟨hsame, hsame'⟩

end FeedService

namespace Sample

/-- The generator answers with a reply of its own. -/
def answering (reply : HttpReply) : Surroundings :=
  { surroundings with generator := fun _ => ⟨0, .ok reply⟩ }

theorem eq_of_receives_answering {asked : FeedRequest} {reply other : HttpReply}
    (h : service.Receives asked (answering reply) other) : other = reply := by
  obtain ⟨outgoing, -, hreply⟩ := h
  exact (Except.ok.inj hreply).symm

/-- A count beside the cursor and the entries, of which there are none. -/
def counted : List (String × Json) :=
  [("count", .num (.int (-1))), ("cursor", .str "next"), ("feed", .arr [])]

def countedReply : HttpReply := ⟨200, ⟨[]⟩, Utf8.encode (Json.obj counted).render⟩

theorem isCanonical_counted : (Json.obj counted).IsCanonical := by
  have hsorted : List.Pairwise (· < ·) ["count", "cursor", "feed"] := by decide
  exact ⟨hsorted, trivial, trivial, trivial, trivial⟩

theorem isWhole_counted : (Json.obj counted).IsWhole :=
  ⟨⟨by decide, by decide⟩, trivial, trivial, trivial⟩

theorem any_counted (viewer : Option Did) (h : viewer = Sample.viewer ∨ viewer = none) :
    ((service.page { request with viewer := viewer }).run
      (answering countedReply)).result.toOption.any (fun _ => true) = true := by
  obtain rfl | rfl := h <;> decide +kernel

/-- The viewer of a request and a client that is logged out get the same cursor and the count that
was sent. -/
theorem page_hands_on_counted : ∃ outcome outcome',
    (service.page request).Gives (answering countedReply) outcome ∧
    (service.page { request with viewer := none }).Gives (answering countedReply) outcome' ∧
    outcome.page.written.lookup "count" = some (.num (.int (-1))) ∧
    outcome'.page.cursor = outcome.page.cursor ∧
    outcome'.page.passthrough = outcome.page.passthrough := by
  obtain ⟨outcome, hgives, -⟩ := Serve.exists_gives (any_counted viewer (.inl rfl))
  obtain ⟨outcome', hgives', -⟩ := Serve.exists_gives (any_counted none (.inr rfl))
  obtain ⟨⟨reply, hreply⟩, hall⟩ := FeedService.page_hands_on _ _ _ _ hgives
  obtain ⟨⟨reply', hreply'⟩, -⟩ := FeedService.page_hands_on _ _ _ _ hgives'
  obtain rfl := eq_of_receives_answering hreply
  obtain rfl := eq_of_receives_answering hreply'
  obtain ⟨-, -, hsent, hsame⟩ := hall countedReply hreply
  have hcount := hsent counted isCanonical_counted isWhole_counted (by decide) rfl "count"
    (by decide)
  exact ⟨outcome, outcome', hgives, hgives', hcount, hsame _ _ _ _ _ hgives' hreply' rfl⟩

/-- A score that is not whole in place of the count. -/
def scoredText : String :=
  "\x7b\"cursor\":\"next\",\"feed\":[],\"score\":31.245270191439438\x7d"

def scoredReply : HttpReply := ⟨200, ⟨[]⟩, Utf8.encode scoredText.toList⟩

def scoredPage : String :=
  "\x7b\"cursor\":\"next\",\"feed\":[],\"score\":31.24527019143944\x7d"

theorem any_scored : ((service.page request).run (answering scoredReply)).result.toOption.any
    (fun outcome => outcome.page.toJson.render == scoredPage.toList) = true := by
  decide +kernel

/-- A page without entries has the members of the body in the same order, and yet it is not the
body: the score is another. -/
theorem exists_changed_score : ∃ outcome,
    (service.page request).Gives (answering scoredReply) outcome ∧
    service.Receives request (answering scoredReply) scoredReply ∧
    scoredReply.body = Utf8.encode scoredText.toList ∧
    outcome.page.toJson.render = scoredPage.toList ∧ scoredPage ≠ scoredText := by
  obtain ⟨outcome, hgives, hpage⟩ := Serve.exists_gives any_scored
  obtain ⟨reply, -, hreceives, -⟩ := FeedService.exists_reply_of_gives_page hgives
  have hreply := (hreceives reply).2 rfl
  obtain rfl := eq_of_receives_answering hreply
  exact ⟨outcome, hgives, hreply, rfl, beq_iff_eq.1 hpage, by decide +kernel⟩

end Sample

end FeedHydration
