import FeedHydration.Proofs.Gate
import FeedHydration.Proofs.Privacy

/-!
# Headers that are passed on

A page looks at the headers of a client in one place only, where those are picked that the generator
may see. So the others have no effect on what is sent, on what is read and on what comes of it, and
the generator is told nothing by a client but what stands under a name that may be passed on.

Headers are picked name by name, and a name that is listed twice is picked twice. So what is picked
is a part of the headers of the client only as far as no header that is there is listed twice.
-/

namespace FeedHydration

/-! ### Headers -/

namespace Headers

/-- Headers that have the same values, in the same order, under each of some names. -/
def AgreeOn (headers headers' : Headers) (names : List HeaderName) : Prop :=
  ∀ name ∈ names, headers.values name = headers'.values name

instance (headers headers' : Headers) (names : List HeaderName) :
    Decidable (headers.AgreeOn headers' names) :=
  inferInstanceAs (Decidable (∀ name ∈ names, headers.values name = headers'.values name))

variable {headers headers' added : Headers} {names : List HeaderName} {field : HeaderName × String}

theorem AgreeOn.select_eq (h : headers.AgreeOn headers' names) :
    headers.select names = headers'.select names := by
  refine congrArg Headers.mk (List.flatMap_congr fun name hmem => ?_)
  rw [h name hmem]

theorem mem_values {name : HeaderName} {value : String} :
    value ∈ headers.values name ↔ (name, value) ∈ headers.fields := by
  simp [values]

theorem mem_select :
    field ∈ (headers.select names).fields ↔ field.1 ∈ names ∧ field ∈ headers.fields := by
  simp only [select, List.mem_flatMap, List.mem_map, mem_values]
  constructor
  · rintro ⟨name, hname, value, hvalue, rfl⟩
    exact ⟨hname, hvalue⟩
  · rintro ⟨hname, hfield⟩
    exact ⟨field.1, hname, field.2, hfield, rfl⟩

theorem mem_of_mem_override (h : field ∈ (headers.override added).fields) :
    field ∈ headers.fields ∨ field ∈ added.fields :=
  (List.mem_append.1 h).imp_left List.mem_of_mem_filter

variable {name : HeaderName} {times times' : Nat}

/-- The values of a name, several times over. -/
def valuesTimes (headers : Headers) (name : HeaderName) (times : Nat) : List String :=
  (List.replicate times (headers.values name)).flatten

theorem length_valuesTimes :
    (headers.valuesTimes name times).length = times * (headers.values name).length := by
  simp [valuesTimes]

theorem valuesTimes_add : headers.valuesTimes name (times + times') =
    headers.valuesTimes name times ++ headers.valuesTimes name times' := by
  rw [valuesTimes, List.replicate_add, List.flatten_append, valuesTimes, valuesTimes]

/-- Values tell by their length how often they were taken, unless there are none. -/
theorem valuesTimes_eq_iff : headers.valuesTimes name times = headers.valuesTimes name times' ↔
    (headers.values name ≠ [] → times = times') := by
  constructor
  · intro h hvalues
    have hlength := congrArg List.length h
    rw [length_valuesTimes, length_valuesTimes] at hlength
    exact Nat.eq_of_mul_eq_mul_right (List.length_pos_iff.2 hvalues) hlength
  · intro h
    by_cases hvalues : headers.values name = []
    · simp [valuesTimes, hvalues]
    · rw [h hvalues]

theorem values_select (headers : Headers) (names : List HeaderName) (name : HeaderName) :
    (headers.select names).values name = headers.valuesTimes name (names.count name) := by
  induction names with
  | nil => rfl
  | cons other names ih =>
    have hfirst : Headers.values ⟨(headers.values other).map (other, ·)⟩ name =
        if other = name then headers.values other else [] := by
      by_cases h : other = name <;> simp [values, List.filter_map, Function.comp_def, h]
    have hcons : (headers.select (other :: names)).values name =
        Headers.values ⟨(headers.values other).map (other, ·)⟩ name ++
          (headers.select names).values name := by
      simp [select, values]
    rw [hcons, hfirst, ih, List.count_cons]
    by_cases h : other = name
    · simp [h, valuesTimes, List.replicate_succ]
    · simp [h]

theorem valuesTimes_select : (headers.select names).valuesTimes name times =
    headers.valuesTimes name (times * names.count name) := by
  induction times with
  | zero => simp [valuesTimes]
  | succ times ih =>
    have honce : (headers.select names).valuesTimes name 1 =
        headers.valuesTimes name (names.count name) := by
      rw [← values_select, valuesTimes, List.replicate_one, List.flatten_singleton]
    rw [valuesTimes_add, ih, honce, Nat.succ_mul, valuesTimes_add]

end Headers

def FeedRequest.withHeaders (request : FeedRequest) (headers : Headers) : FeedRequest :=
  { request with headers := headers }

def Surroundings.withTimings (s : Surroundings) (timings : StageTimings) : Surroundings :=
  { s with timings := timings }

/-! ### What is sent -/

namespace FeedService

variable {service : FeedService} {request : FeedRequest} {s : Surroundings}

/-- Nothing but the headers that may be passed on is looked at. -/
theorem page_congr_headers {headers : Headers}
    (h : request.headers.AgreeOn headers service.options.forwardedHeaders) :
    service.page (request.withHeaders headers) = service.page request := by
  have hforwardable : service.options.forwardable request.headers =
      service.options.forwardable headers := h.select_eq
  unfold page Serve.skeleton Skeleton.httpRequest FeedRequest.withHeaders
  simp only [hforwardable]

/-- How long the stages of a page take is written on it, and changes nothing else. -/
theorem page_congr_timings (service : FeedService) (request : FeedRequest) (s : Surroundings)
    (timings : StageTimings) :
    Served.AlikeBy FeedOutcome.untimed ((service.page request).run s)
      ((service.page request).run (s.withTimings timings)) := by
  have halike : s.AlikeFor request.viewer (s.withTimings timings) :=
    ⟨rfl, rfl, rfl, rfl, rfl, rfl⟩
  have hskeleton := Serve.isPrivate_skeleton service.options request
    (service.options.clampLimit request.limit) s _ halike
  refine Served.AlikeBy.bind hskeleton fun skeleton => ?_
  refine Served.AlikeBy.bind rfl fun page => ?_
  refine ⟨rfl, rfl, ?_⟩
  exact congrArg Except.ok (FeedOutcome.untimed_assemble _ _ _ _ _ s.timings timings)

theorem mem_headers_of_sent {outgoing : HttpRequest}
    (hmem : outgoing ∈ ((service.page request).run s).sent) {field : HeaderName × String}
    (hfield : field ∈ outgoing.headers.fields) :
    field = (HeaderName.accept, "application/json") ∨
      field.1 ∈ service.options.forwardedHeaders ∧ field ∈ request.headers.fields := by
  rw [sent_page, skeleton] at hmem
  obtain hnil | ⟨endpoint, outgoing', -, hrequest, hsent⟩ := Serve.sent_skeleton
    service.options request (service.options.clampLimit request.limit) s
  · rw [hnil] at hmem
    cases hmem
  · rw [hsent, List.mem_singleton] at hmem
    subst hmem
    rw [(Skeleton.of_httpRequest hrequest).2] at hfield
    exact (Headers.mem_of_mem_override hfield).imp List.mem_singleton.1 Headers.mem_select.1

/-- **Only what may be passed on counts.** Two requests that differ only in headers that may not be
passed on send the generator the same request and come to the same end, however long that takes.
Apart from what it accepts, the request to the generator has no field but those of the client that
may be passed on. -/
theorem page_ignores_other_headers (service : FeedService) (request : FeedRequest)
    {headers : Headers} (h : request.headers.AgreeOn headers service.options.forwardedHeaders)
    (s : Surroundings) (timings : StageTimings) :
    Served.AlikeBy FeedOutcome.untimed ((service.page request).run s)
      ((service.page (request.withHeaders headers)).run (s.withTimings timings)) ∧
    ∀ outgoing ∈ ((service.page request).run s).sent, ∀ field ∈ outgoing.headers.fields,
      field = (HeaderName.accept, "application/json") ∨
        field.1 ∈ service.options.forwardedHeaders ∧ field ∈ request.headers.fields := by
  refine ⟨?_, fun outgoing hmem field hfield => mem_headers_of_sent hmem hfield⟩
  rw [page_congr_headers h]
  exact page_congr_timings service request s timings

end FeedService

/-! ### How often -/

namespace FeedOptions

variable {options : FeedOptions} {headers : Headers}

/-- No header that is there is listed twice among those that may be passed on. -/
def ListsOnce (options : FeedOptions) (headers : Headers) : Prop :=
  ∀ name, headers.values name ≠ [] → options.forwardedHeaders.count name ≤ 1

/-- What is passed on is a part of the headers only as far as nothing is listed twice. -/
theorem forwardable_restricts_iff :
    (∀ name, (options.forwardable headers).values name =
      if name ∈ options.forwardedHeaders then headers.values name else []) ↔
      options.ListsOnce headers := by
  refine forall_congr' fun name => ?_
  have hrestricted : (if name ∈ options.forwardedHeaders then headers.values name else []) =
      headers.valuesTimes name (min (options.forwardedHeaders.count name) 1) := by
    by_cases hmem : name ∈ options.forwardedHeaders
    · rw [if_pos hmem, Nat.min_eq_right (List.count_pos_iff.2 hmem), Headers.valuesTimes,
        List.replicate_one, List.flatten_singleton]
    · rw [if_neg hmem, List.count_eq_zero.2 hmem, Nat.zero_min, Headers.valuesTimes,
        List.replicate_zero, List.flatten_nil]
  rw [hrestricted, forwardable, Headers.values_select, Headers.valuesTimes_eq_iff]
  exact imp_congr_right fun _ => by omega

/-- To pick twice is to square how often a name is listed. -/
theorem forwardable_idempotent_iff :
    (∀ name, (options.forwardable (options.forwardable headers)).values name =
      (options.forwardable headers).values name) ↔ options.ListsOnce headers := by
  refine forall_congr' fun name => ?_
  rw [forwardable, forwardable, Headers.values_select, Headers.valuesTimes_select,
    Headers.values_select, Headers.valuesTimes_eq_iff]
  refine imp_congr_right fun _ => ⟨fun hsquare => ?_, fun honce => ?_⟩
  · exact Nat.le_of_not_lt fun hmany => absurd hsquare (Nat.ne_of_gt (Nat.lt_mul_self_iff.2 hmany))
  · obtain hcount | hcount := Nat.le_one_iff_eq_zero_or_eq_one.1 honce <;> simp [hcount]

theorem nodup_iff_forall_listsOnce :
    options.forwardedHeaders.Nodup ↔ ∀ headers, options.ListsOnce headers := by
  rw [List.nodup_iff_count_le_one]
  constructor
  · exact fun hcount _ name _ => hcount name
  · intro honce name
    refine honce ⟨[(name, "")]⟩ name ?_
    simp [Headers.values]

/-- **A header is passed on as often as it is listed.** Under each name, what may be passed on has
the values of the client, in their order, once for every time that the name is listed. So it is the
part of the headers that is under the listed names, and is kept when the listed names are picked once
more, exactly if no header that is there is listed twice. For every client this is so exactly if no
name at all is listed twice. -/
theorem forwardable_counts_names (options : FeedOptions) (headers : Headers) :
    (∀ name, (options.forwardable headers).values name =
      (List.replicate (options.forwardedHeaders.count name) (headers.values name)).flatten) ∧
    ((∀ name, (options.forwardable headers).values name =
      if name ∈ options.forwardedHeaders then headers.values name else []) ↔
      options.ListsOnce headers) ∧
    ((∀ name, (options.forwardable (options.forwardable headers)).values name =
      (options.forwardable headers).values name) ↔ options.ListsOnce headers) ∧
    (options.forwardedHeaders.Nodup ↔ ∀ headers, options.ListsOnce headers) :=
  ⟨Headers.values_select headers options.forwardedHeaders, forwardable_restricts_iff,
    forwardable_idempotent_iff, nodup_iff_forall_listsOnce⟩

end FeedOptions

namespace Sample

/-- A client that is logged in. -/
def loggedIn : FeedRequest :=
  request.withHeaders ⟨[(HeaderName.authorization, "Bearer t")]⟩

/-- The same login, with a cookie and in other letters. -/
def withCookie : Headers :=
  Headers.ofList [("Cookie", "session=secret"), ("Authorization", "Bearer t")]

/-- The cookie makes no difference. -/
theorem page_ignores_cookie :
    loggedIn.headers.AgreeOn withCookie service.options.forwardedHeaders ∧
      Served.AlikeBy FeedOutcome.untimed ((service.page loggedIn).run surroundings)
        ((service.page (loggedIn.withHeaders withCookie)).run
          (surroundings.withTimings ⟨1000, 2000⟩)) := by
  have hagree : loggedIn.headers.AgreeOn withCookie service.options.forwardedHeaders := by
    decide +kernel
  obtain ⟨halike, -⟩ :=
    service.page_ignores_other_headers loggedIn hagree surroundings ⟨1000, 2000⟩
  exact ⟨hagree, halike⟩

/-- A header that is listed twice. -/
def twice : FeedOptions :=
  { forwardedHeaders := [HeaderName.accept, HeaderName.accept] }

/-- It is passed on twice, and four times when it is picked once more. -/
theorem forwardable_counts_accept :
    (twice.forwardable ⟨[(HeaderName.accept, "a")]⟩).values HeaderName.accept = ["a", "a"] ∧
      ¬ ∀ name, (twice.forwardable (twice.forwardable ⟨[(HeaderName.accept, "a")]⟩)).values name =
        (twice.forwardable ⟨[(HeaderName.accept, "a")]⟩).values name := by
  obtain ⟨hvalues, -, hidempotent, -⟩ :=
    twice.forwardable_counts_names ⟨[(HeaderName.accept, "a")]⟩
  refine ⟨hvalues HeaderName.accept, ?_⟩
  rw [hidempotent]
  exact fun honce => absurd (honce HeaderName.accept (by decide)) (by decide)

end Sample

end FeedHydration
