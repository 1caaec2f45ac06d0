import FeedHydration.Identity.Document
import FeedHydration.Proofs.OpenRecord
import FeedHydration.Proofs.Wire

/-!
# Did documents are kept

A did document and each of its services is an open record: what is not modelled is collected when it
is read, and written beside the members that are. So a document that is written again has all that
it had. An optional member that is null is left out, the did is written in its short form, and
nothing else is lost, neither in the document nor in an entry of its services.
-/

namespace FeedHydration

/-! ### Services -/

namespace Service

open JsonNode (takes_str takes_toJson)

variable {service : Service} {given : List (String × Json)}

/-- A service as it is read from the members of an object. -/
structure IsReadFrom (service : Service) (given : List (String × Json)) : Prop where
  canonical : (Json.obj given).IsCanonical
  id : given.lookup "id" = some (.str service.id)
  type : given.lookup "type" = some (.str service.type)
  endpoint : service.endpoint = (given.lookup "serviceEndpoint").filter fun value => value ≠ .null
  extra : service.extra = Json.others members given

theorem takes : JsonNode.Takes ofNode? fun service value =>
    ∃ given, value = .obj given ∧ service.IsReadFrom given := by
  intro node service h
  simp only [ofNode?, Option.bind_eq_bind, Option.bind_eq_some_iff, Option.some.injEq] at h
  obtain ⟨extra, hextra, r, hr, id, hid, type, htype, endpoint, hendpoint, rfl⟩ := h
  obtain ⟨hid, _, hidValue, rfl⟩ := takes_str.required? hid
  obtain ⟨htype, _, htypeValue, rfl⟩ := takes_str.required? htype
  obtain ⟨hendpoint, hendpointValue⟩ := takes_toJson.trailing? hendpoint
  obtain ⟨given, hvalue, rfl, hlookup⟩ := JsonNode.exists_members_of_extras? hextra hr
    (by simp [members, hid, htype, hendpoint])
  refine ⟨_, hvalue, given, rfl, Json.isCanonical_of_toJson? hvalue, ?_, ?_, ?_, rfl⟩
  · rw [hlookup "id" (by simp [members]), hidValue]
  · rw [hlookup "type" (by simp [members]), htypeValue]
  · rw [hlookup "serviceEndpoint" (by simp [members])]
    generalize (r.member "serviceEndpoint").value?.filter (fun value => value ≠ .null) = given
      at hendpointValue ⊢
    cases hendpointValue with
    | none => rfl
    | some heq => rw [heq]

/-- The members that a service has for its own. -/
def fields (service : Service) : List (String × Option Json) :=
  [("id", some (.str service.id)), ("type", some (.str service.type)),
    ("serviceEndpoint", service.endpoint)]

theorem names_fields (service : Service) : service.fields.map Prod.fst = members := rfl

namespace IsReadFrom

variable (h : service.IsReadFrom given)

include h

theorem notMem_members : ∀ member ∈ service.extra, member.1 ∉ members :=
  fun _ hmember => Json.notMem_of_mem_others (h.extra ▸ hmember)

theorem sorted : Json.IsSorted service.extra := h.extra ▸ Json.isSorted_others h.canonical.1

theorem toJson_eq_record :
    service.toJson = Json.record (Json.openFields service.extra service.fields) :=
  (Json.record_append_comm
    (Json.nodup_openFields service.names_fields (by decide) h.sorted h.notMem_members)).symm

theorem endpoint_ne_null {value : Json} (hvalue : service.endpoint = some value) :
    value ≠ .null ∧ value.IsCanonical := by
  rw [h.endpoint, Option.filter_eq_some_iff] at hvalue
  exact ⟨of_decide_eq_true hvalue.2, Json.haveCanonical_iff.1 h.canonical.2 _
    ((Json.lookup_eq_some_iff_mem h.canonical.1.nodup).1 hvalue.1)⟩

/-- A service is written with all the members it was read from, but for an endpoint of null. -/
theorem toJson_eq : service.toJson = .obj (Json.withoutNull ["serviceEndpoint"] given) := by
  have hsorted := h.canonical.1
  rw [h.toJson_eq_record, Json.record_eq, h.extra]
  congr 1
  apply (Json.isSorted_sortMembers _).eq_of_lookup (Json.isSorted_withoutNull hsorted)
  intro name
  rw [Json.lookup_open service.names_fields (by decide) hsorted, Json.lookup_withoutNull hsorted]
  by_cases hid : name = "id"
  · simp [hid, members, fields, h.id]
  by_cases htype : name = "type"
  · simp [htype, members, fields, Json.lookup_cons_eq_ite, h.type]
  by_cases hendpoint : name = "serviceEndpoint"
  · simp [hendpoint, members, fields, Json.lookup_cons_eq_ite, h.endpoint]
  · simp [hid, htype, hendpoint, members]

theorem isCanonical_toJson : service.toJson.IsCanonical := by
  rw [h.toJson_eq_record]
  refine Json.isCanonical_openFields (h.extra ▸ Json.haveCanonical_others h.canonical.2) ?_
  have hendpoint : ∀ value, service.endpoint = some value → value.IsCanonical :=
    fun _ hvalue => (h.endpoint_ne_null hvalue).2
  simpa [fields] using hendpoint

theorem readsBack : ReadsBack ofNode? toJson service where
  reads hnode := by
    rw [h.toJson_eq_record] at hnode
    have hnodup := Json.nodup_openFields service.names_fields (by decide) h.sorted h.notMem_members
    have hendpoint : ∀ value ∈ service.endpoint, ReadsBack JsonNode.toJson? (fun v => v) value :=
      fun value hvalue => ⟨fun hholds => hholds.value, (h.endpoint_ne_null hvalue).1⟩
    rw [ofNode?, hnode.extras? service.names_fields (by decide) h.sorted h.notMem_members,
      Option.bind_eq_bind, Option.bind_some]
    refine hnode.bind_record? hnodup fun r hof => ?_
    have hof := hof.of_openFields h.notMem_members
    simp only [Option.bind_eq_bind]
    rw [hof.required? (by simp [members]) rfl (JsonNode.readsBack_str service.id).reads,
      Option.bind_some,
      hof.required? (by simp [members]) rfl (JsonNode.readsBack_str service.type).reads,
      Option.bind_some,
      hof.trailing? (by simp [members]) (by simp [fields, Json.lookup_cons_eq_ite]) hendpoint,
      Option.bind_some]
  present := Json.noConfusion

end IsReadFrom

/-- An entry of a list of services, without an endpoint that is null. -/
def withoutNull : Json → Json
  | .obj given => .obj (Json.withoutNull ["serviceEndpoint"] given)
  | value => value

/-- A list of services, each without an endpoint that is null. -/
def listWithoutNull : Json → Json
  | .arr entries => .arr (entries.map withoutNull)
  | value => value

/-- What a service is read from. -/
def IsEntry (service : Service) (value : Json) : Prop :=
  ∃ given, value = .obj given ∧ service.IsReadFrom given

theorem map_toJson_eq {services : List Service} {entries : List Json}
    (h : List.Forall₂ IsEntry services entries) :
    services.map toJson = entries.map withoutNull := by
  induction h with
  | nil => rfl
  | cons hentry _ ih =>
    obtain ⟨given, rfl, hread⟩ := hentry
    rw [List.map_cons, List.map_cons, ih, hread.toJson_eq, withoutNull]

theorem exists_isReadFrom_of_mem {services : List Service} {entries : List Json}
    (h : List.Forall₂ IsEntry services entries) :
    ∀ service ∈ services, ∃ given, service.IsReadFrom given := by
  induction h with
  | nil => simp
  | cons hentry _ ih =>
    obtain ⟨given, -, hread⟩ := hentry
    exact List.forall_mem_cons.2 ⟨⟨given, hread⟩, ih⟩

end Service

/-! ### Documents -/

theorem Did.takes : JsonNode.Takes ofNode? fun did value =>
    ∃ text, value = .str text ∧ parse text = .ok did := by
  intro node did h
  cases node with
  | str text =>
    change (parse text).toOption = some did at h
    cases hparse : parse text with
    | ok did' =>
      rw [hparse] at h
      cases h
      exact ⟨_, rfl, text, rfl, hparse⟩
    | error e =>
      rw [hparse] at h
      cases h
  | _ => cases h

namespace DidDocument

variable {doc : DidDocument} {given : List (String × Json)}

/-- A document as it is read from the members of an object. -/
structure IsReadFrom (doc : DidDocument) (given : List (String × Json)) : Prop where
  canonical : (Json.obj given).IsCanonical
  id : ∃ text, given.lookup "id" = some (.str text) ∧ Did.parse text = .ok doc.id
  alsoKnownAs : (doc.alsoKnownAs.map fun names => Json.arr (names.map .str)) =
    (given.lookup "alsoKnownAs").filter fun value => value ≠ .null
  service : Option.Rel
    (fun services value => ∃ entries, value = .arr entries ∧
      List.Forall₂ Service.IsEntry services entries)
    doc.service ((given.lookup "service").filter fun value => value ≠ .null)
  extra : doc.extra = Json.others members given

theorem takes : JsonNode.Takes ofNode? fun doc value =>
    ∃ given, value = .obj given ∧ doc.IsReadFrom given := by
  intro node doc h
  simp only [ofNode?, Option.bind_eq_bind, Option.bind_eq_some_iff, Option.some.injEq] at h
  obtain ⟨extra, hextra, r, hr, id, hid, names, hnames, services, hservices, rfl⟩ := h
  obtain ⟨hid, _, hidValue, text, rfl, hparse⟩ := Did.takes.required? hid
  obtain ⟨hnames, hnamesValue⟩ := JsonNode.takes_str.list.trailing? hnames
  obtain ⟨hservices, hservicesValue⟩ := Service.takes.list.trailing? hservices
  obtain ⟨given, hvalue, rfl, hlookup⟩ := JsonNode.exists_members_of_extras? hextra hr
    (by simp [members, hid, hnames, hservices])
  refine ⟨_, hvalue, given, rfl, Json.isCanonical_of_toJson? hvalue, ?_, ?_, ?_, rfl⟩
  · exact ⟨text, by rw [hlookup "id" (by simp [members]), hidValue], hparse⟩
  · rw [hlookup "alsoKnownAs" (by simp [members])]
    generalize (r.member "alsoKnownAs").value?.filter (fun value => value ≠ .null) = given
      at hnamesValue ⊢
    cases hnamesValue with
    | none => rfl
    | some h =>
      obtain ⟨values, rfl, hvalues⟩ := h
      rw [Option.map_some, JsonNode.eq_map_of_forall₂ hvalues]
  · rw [hlookup "service" (by simp [members])]
    exact hservicesValue

/-- The members that a document has for its own. -/
def fields (doc : DidDocument) : List (String × Option Json) :=
  [("id", some doc.id.toJson),
    ("alsoKnownAs", doc.alsoKnownAs.map (Json.listOf .str)),
    ("service", doc.service.map (Json.listOf Service.toJson))]

theorem names_fields (doc : DidDocument) : doc.fields.map Prod.fst = members := rfl

/-- What is written for a document that was read from the members of an object: all of them but for
null, with the did in its short form and each service as it is written by itself. -/
structure Keeps (doc : DidDocument) (given written : List (String × Json)) : Prop where
  once : Json.IsSorted written
  id : ∃ text, given.lookup "id" = some (.str text) ∧ Did.parse text = .ok doc.id ∧
    written.lookup "id" = some (.str doc.id.text)
  alsoKnownAs : written.lookup "alsoKnownAs" =
    (given.lookup "alsoKnownAs").filter fun value => value ≠ .null
  service : written.lookup "service" =
    ((given.lookup "service").filter fun value => value ≠ .null).map Service.listWithoutNull
  unmodelled : ∀ name ∉ members, written.lookup name = given.lookup name

namespace IsReadFrom

variable (h : doc.IsReadFrom given)

include h

theorem notMem_members : ∀ member ∈ doc.extra, member.1 ∉ members :=
  fun _ hmember => Json.notMem_of_mem_others (h.extra ▸ hmember)

theorem sorted : Json.IsSorted doc.extra := h.extra ▸ Json.isSorted_others h.canonical.1

theorem toJson_eq_record : doc.toJson = Json.record (Json.openFields doc.extra doc.fields) :=
  (Json.record_append_comm
    (Json.nodup_openFields doc.names_fields (by decide) h.sorted h.notMem_members)).symm

theorem services : ∀ services ∈ doc.service, ∀ service ∈ services,
    ∃ given, service.IsReadFrom given := by
  intro services hservices
  have hrel := h.service
  rw [Option.mem_def.1 hservices] at hrel
  generalize (given.lookup "service").filter (fun value => value ≠ .null) = value at hrel
  cases hrel with
  | some hrel =>
    obtain ⟨entries, -, hentries⟩ := hrel
    exact Service.exists_isReadFrom_of_mem hentries

/-- The list of services is written as it is, entry by entry. -/
theorem written_service : doc.service.map (Json.listOf Service.toJson) =
    ((given.lookup "service").filter fun value => value ≠ .null).map Service.listWithoutNull := by
  have hrel := h.service
  generalize (given.lookup "service").filter (fun value => value ≠ .null) = value,
    doc.service = services at hrel ⊢
  cases hrel with
  | none => rfl
  | some hrel =>
    obtain ⟨entries, rfl, hentries⟩ := hrel
    exact congrArg (some ∘ Json.arr) (Service.map_toJson_eq hentries)

theorem exists_keeps : ∃ written, doc.toJson = .obj written ∧ doc.Keeps given written := by
  obtain ⟨text, hgiven, hparse⟩ := h.id
  have hlookup := Json.lookup_open doc.names_fields (by decide) h.canonical.1
  rw [← h.extra] at hlookup
  refine ⟨_, h.toJson_eq_record.trans (Json.record_eq _), Json.isSorted_sortMembers _,
    ⟨text, hgiven, hparse, ?_⟩, ?_, ?_, fun name hname => ?_⟩
  · rw [hlookup, if_pos (by simp [members])]
    rfl
  · rw [hlookup, if_pos (by simp [members]), ← h.alsoKnownAs]
    rfl
  · rw [hlookup, if_pos (by simp [members]), ← h.written_service]
    rfl
  · rw [hlookup, if_neg hname]

theorem isCanonical_toJson : doc.toJson.IsCanonical := by
  rw [h.toJson_eq_record]
  refine Json.isCanonical_openFields (h.extra ▸ Json.haveCanonical_others h.canonical.2) ?_
  have hservices : ∀ services, doc.service = some services →
      ∀ service ∈ services, service.toJson.IsCanonical := by
    intro services hservices service hservice
    obtain ⟨given, hread⟩ := h.services services hservices service hservice
    exact hread.isCanonical_toJson
  simpa [fields] using hservices

theorem readsBack : ReadsBack ofNode? toJson doc where
  reads hnode := by
    rw [h.toJson_eq_record] at hnode
    have hnodup := Json.nodup_openFields doc.names_fields (by decide) h.sorted h.notMem_members
    have hnames : ∀ names ∈ doc.alsoKnownAs,
        ReadsBack (JsonNode.list? JsonNode.str?) (Json.listOf .str) names :=
      fun names _ => JsonNode.readsBack_list fun name _ => JsonNode.readsBack_str name
    have hservices : ∀ services ∈ doc.service,
        ReadsBack (JsonNode.list? Service.ofNode?) (Json.listOf Service.toJson) services := by
      intro services hservices
      refine JsonNode.readsBack_list fun service hservice => ?_
      obtain ⟨given, hread⟩ := h.services services hservices service hservice
      exact hread.readsBack
    rw [ofNode?, hnode.extras? doc.names_fields (by decide) h.sorted h.notMem_members,
      Option.bind_eq_bind, Option.bind_some]
    refine hnode.bind_record? hnodup fun r hof => ?_
    have hof := hof.of_openFields h.notMem_members
    simp only [Option.bind_eq_bind]
    rw [hof.required? (by simp [members]) rfl doc.id.readsBack.reads, Option.bind_some,
      hof.trailing? (by simp [members]) rfl hnames, Option.bind_some,
      hof.trailing? (by simp [members]) rfl hservices, Option.bind_some]
  present := Json.noConfusion

end IsReadFrom

/-- **Did documents are kept.** What is read as a service or as a document is an object; written
again, it is read as the same; and what is written is the object as it was, but for optional members
that are null, which are left out, and for the form of the did. What is collected are exactly the
members that are not modelled, in a document and in each of its services. -/
theorem survives_writing :
    (∀ node service, Service.ofNode? node = some service →
      Service.ofNode? (.ofJson service.toJson) = some service ∧
        ∃ given, node.toJson? = some (.obj given) ∧
          service.toJson = .obj (Json.withoutNull ["serviceEndpoint"] given) ∧
          service.extra = Json.others Service.members given) ∧
      ∀ node doc, ofNode? node = some doc →
        ofNode? (.ofJson doc.toJson) = some doc ∧
          ∃ given written, node.toJson? = some (.obj given) ∧ doc.toJson = .obj written ∧
            doc.Keeps given written ∧ doc.extra = Json.others members given ∧
            ∀ services ∈ doc.service, ∀ service ∈ services, ∀ member ∈ service.extra,
              member.1 ∉ Service.members := by
  refine ⟨fun node service hservice => ?_, fun node doc hdoc => ?_⟩
  · obtain ⟨_, hvalue, given, rfl, h⟩ := Service.takes node service hservice
    exact ⟨h.readsBack.value h.isCanonical_toJson, given, hvalue, h.toJson_eq, h.extra⟩
  · obtain ⟨_, hvalue, given, rfl, h⟩ := takes node doc hdoc
    obtain ⟨written, hwritten, hkeeps⟩ := h.exists_keeps
    refine ⟨h.readsBack.value h.isCanonical_toJson, given, written, hvalue, hwritten, hkeeps,
      h.extra, fun services hservices service hservice => ?_⟩
    obtain ⟨_, hread⟩ := h.services services hservices service hservice
    exact hread.notMem_members

end DidDocument

namespace Sample

/-- A service with an endpoint of null and a priority that is not modelled. -/
def spareService : Json := .obj [
  ("id", .str "#spare"), ("priority", .obj [("rank", .null)]), ("serviceEndpoint", .null),
  ("type", .str "Spare")]

/-- A document with a long did, no other names, that service, and members that are not modelled. -/
def longDocument : Json := .obj [
  ("@context", .arr [.str "https://www.w3.org/ns/did/v1"]), ("alsoKnownAs", .null),
  ("also_known_as", .nat 1), ("id", .str "at://did:plc:alice"), ("service", .arr [spareService]),
  ("zone", .null)]

theorem survives_writing_sample : ∃ service doc,
    Service.ofNode? (.ofJson spareService) = some service ∧
      Service.ofNode? (.ofJson service.toJson) = some service ∧
      service.toJson = .obj [("id", .str "#spare"), ("priority", .obj [("rank", .null)]),
        ("type", .str "Spare")] ∧
      DidDocument.ofNode? (.ofJson longDocument) = some doc ∧
      DidDocument.ofNode? (.ofJson doc.toJson) = some doc ∧
      doc.extra.map Prod.fst = ["@context", "also_known_as", "zone"] := by
  obtain ⟨service, hservice⟩ : ∃ service, Service.ofNode? (.ofJson spareService) = some service :=
    Option.isSome_iff_exists.1 (by decide +kernel)
  obtain ⟨doc, hdoc⟩ : ∃ doc, DidDocument.ofNode? (.ofJson longDocument) = some doc :=
    Option.isSome_iff_exists.1 (by decide +kernel)
  obtain ⟨hservices, hdocs⟩ := DidDocument.survives_writing
  obtain ⟨hback, given, hgiven, hwritten, -⟩ := hservices _ _ hservice
  obtain ⟨hbackDoc, givenDoc, -, hgivenDoc, -, -, hextra, -⟩ := hdocs _ _ hdoc
  have hspare : (JsonNode.ofJson spareService).toJson? = some spareService := by decide +kernel
  have hlong : (JsonNode.ofJson longDocument).toJson? = some longDocument := by decide +kernel
  obtain rfl := Json.obj.inj (Option.some.inj (hspare.symm.trans hgiven))
  obtain rfl := Json.obj.inj (Option.some.inj (hlong.symm.trans hgivenDoc))
  refine ⟨service, doc, hservice, hback, hwritten.trans (by decide +kernel), hdoc, hbackDoc, ?_⟩
  rw [hextra]
  decide +kernel

end Sample

end FeedHydration
