import FeedHydration.Proofs.Gate

/-!
# Giving up

A client may give up on a page at any instant. Time passes only while the reply of a generator is
waited for, so this comes to one comparison: either the client outlasts the wait, and the request
goes as it would for a client with all the patience in the world, or the client does not, and the
request ends right there. Nothing in between is ever served, and nothing is read any more.
-/

namespace FeedHydration

/-- The same surroundings with a client that never gives up. -/
def Surroundings.patient (s : Surroundings) : Surroundings :=
  { s with giveUp := none }

/-- The client gives up while the answer to a request is waited for. -/
def Surroundings.GivesUpOn (s : Surroundings) (timeout : Option Nat) (outgoing : HttpRequest) :
    Prop :=
  ∃ instant, s.giveUp = some instant ∧ instant < (s.generator outgoing).waiting timeout

/-! ### How long an answer is waited for -/

namespace Answer

variable {answer : Answer} {timeout : Option Nat} {instant : Nat}

theorem lt_waiting_iff : instant < answer.waiting timeout ↔
    instant < answer.delay ∧ ∀ limit ∈ timeout, instant < limit := by
  cases timeout with
  | none => simp [waiting]
  | some limit =>
    simp only [waiting, Option.mem_def, Option.some.injEq, forall_eq']
    omega

theorem waiting_lt_iff : answer.waiting timeout < instant ↔
    answer.delay < instant ∨ ∃ limit ∈ timeout, limit < instant := by
  cases timeout with
  | none => simp [waiting]
  | some limit =>
    simp only [waiting, Option.mem_def, Option.some.injEq, exists_eq_left']
    omega

end Answer

namespace Serve

variable {α β : Type} {m : Serve α} {next : α → Serve β} {timeout : Option Nat}

/-! ### Parts that take no time -/

/-- A part of a request that runs alike however long the client waits. -/
def IsInstant (m : Serve α) : Prop :=
  ∀ s, m.run s = m.run s.patient

theorem isInstant_ofExcept (result : Except FeedError α) : (ofExcept result).IsInstant :=
  fun _ => rfl

theorem isInstant_fetch (m : Fetch α) : (fetch m).IsInstant :=
  fun _ => rfl

theorem IsInstant.bind (hm : m.IsInstant) (hnext : ∀ a, (next a).IsInstant) :
    (m >>= next).IsInstant := by
  intro s
  rw [run_bind, run_bind, hm s]
  cases (m.run s.patient).result with
  | error e => rfl
  | ok a => simp only [hnext a s]

theorem isInstant_feedEndpoint (options : FeedOptions) (feed : AtUri) (viewer : Option Did) :
    (feedEndpoint options feed viewer).IsInstant := by
  unfold feedEndpoint
  split
  · exact isInstant_ofExcept _
  · refine (isInstant_fetch _).bind fun generators => ?_
    split
    · exact isInstant_ofExcept _
    · exact fun _ => rfl

/-! ### Parts that can be abandoned -/

/-- A part of a request that runs as for a patient client, unless the client gives up on an answer
that it waits for: then it fails as cancelled. -/
structure Yields (m : Serve α) (timeout : Option Nat) : Prop where
  patient : ∀ s, (∀ outgoing ∈ (m.run s.patient).sent, ¬ s.GivesUpOn timeout outgoing) →
    m.run s = m.run s.patient
  cancelled : ∀ s, ∀ outgoing ∈ (m.run s.patient).sent, s.GivesUpOn timeout outgoing →
    (m.run s).result = .error .cancelled

theorem IsInstant.yields (hm : m.IsInstant) (hsilent : m.Silent) : m.Yields timeout where
  patient := fun s _ => hm s
  cancelled := by
    intro s outgoing hmem
    rw [hsilent s.patient] at hmem
    cases hmem

theorem yields_exchange (outgoing : HttpRequest) (timeout : Option Nat) :
    (exchange outgoing timeout).Yields timeout where
  patient := by
    intro s hpatient
    have hstays : ¬ s.GivesUpOn timeout outgoing := hpatient outgoing (List.mem_singleton_self _)
    have hgiveUp : s.giveUp.any (· < (s.generator outgoing).waiting timeout) = false := by
      rw [← Bool.not_eq_true, Option.any_eq_true]
      rintro ⟨instant, hinstant, hlt⟩
      exact hstays ⟨instant, hinstant, of_decide_eq_true hlt⟩
    simp [exchange, hgiveUp, Surroundings.patient]
  cancelled := by
    intro s outgoing' hmem hgivesUp
    obtain ⟨instant, hinstant, hlt⟩ := hgivesUp
    rw [List.mem_singleton.1 hmem] at hlt
    simp [exchange, hinstant, hlt]

/-- Two parts in a row: the second is not begun if the client has given up in the first. -/
theorem Yields.bind (hm : m.Yields timeout) (hnext : ∀ a, (next a).Yields timeout) :
    (m >>= next).Yields timeout where
  patient := by
    intro s hpatient
    cases hresult : (m.run s.patient).result with
    | error e =>
      rw [run_bind_of_error hresult] at hpatient
      rw [run_bind, run_bind, hm.patient s hpatient]
      simp only [hresult]
    | ok a =>
      rw [run_bind_of_ok hresult] at hpatient
      rw [run_bind, run_bind, hm.patient s fun _ hmem => hpatient _ (List.mem_append_left _ hmem)]
      simp only [hresult,
        (hnext a).patient s fun _ hmem => hpatient _ (List.mem_append_right _ hmem)]
  cancelled := by
    intro s outgoing hmem hgivesUp
    by_cases hfirst : ∃ outgoing ∈ (m.run s.patient).sent, s.GivesUpOn timeout outgoing
    · obtain ⟨outgoing, hmem, hgivesUp⟩ := hfirst
      rw [run_bind_of_error (hm.cancelled s outgoing hmem hgivesUp)]
    · have hrun : m.run s = m.run s.patient :=
        hm.patient s fun outgoing hmem hgivesUp => hfirst ⟨outgoing, hmem, hgivesUp⟩
      cases hresult : (m.run s.patient).result with
      | error e =>
        rw [run_bind_of_error hresult] at hmem
        exact absurd ⟨outgoing, hmem, hgivesUp⟩ hfirst
      | ok a =>
        rw [run_bind_of_ok hresult, List.mem_append] at hmem
        have hsecond := hmem.resolve_left fun hmem => hfirst ⟨outgoing, hmem, hgivesUp⟩
        rw [run_bind_of_ok (hrun ▸ hresult)]
        exact (hnext a).cancelled s outgoing hsecond hgivesUp

theorem yields_skeleton (options : FeedOptions) (request : FeedRequest) (limit : Nat) :
    (skeleton options request limit).Yields options.timeout := by
  have hexcept : ∀ {γ : Type} (result : Except FeedError γ),
      (ofExcept result).Yields options.timeout := fun result =>
    (isInstant_ofExcept result).yields (silent_ofExcept result)
  refine ((isInstant_feedEndpoint _ _ _).yields (silent_feedEndpoint _ _ _)).bind fun _ => ?_
  refine (hexcept _).bind fun outgoing => ?_
  exact (yields_exchange outgoing options.timeout).bind fun _ => hexcept _

end Serve

namespace FeedService

variable {service : FeedService} {request : FeedRequest} {s : Surroundings}

theorem yields_page (service : FeedService) (request : FeedRequest) :
    (service.page request).Yields service.options.timeout := by
  refine (Serve.yields_skeleton service.options request _).bind fun skeleton => ?_
  refine Serve.IsInstant.yields ?_ ?_
  · exact (Serve.isInstant_fetch _).bind fun _ _ => rfl
  · exact (Serve.silent_fetch _).bind fun _ => Serve.silent_surroundings.bind fun _ =>
      Serve.silent_pure _

theorem serve_of_givenUp (h : s.giveUp = some 0) :
    (service.serve request).run s = ⟨[], [], .error .cancelled⟩ :=
  if_pos h

theorem serve_of_ne (h : s.giveUp ≠ some 0) :
    (service.serve request).run s = (service.page request).run s :=
  if_neg h

theorem serve_of_stays (hnow : s.giveUp ≠ some 0)
    (hstays : ∀ outgoing ∈ ((service.page request).run s.patient).sent,
      ¬ s.GivesUpOn service.options.timeout outgoing) :
    (service.serve request).run s = (service.page request).run s.patient :=
  (serve_of_ne hnow).trans ((yields_page service request).patient s hstays)

theorem eq_of_mem_sent_page {outgoing outgoing' : HttpRequest}
    (hmem : outgoing ∈ ((service.page request).run s).sent)
    (hmem' : outgoing' ∈ ((service.page request).run s).sent) : outgoing = outgoing' := by
  obtain hnil | ⟨only, -, -, -, hsent, -⟩ := sent_page_cases service request s
  · rw [hnil] at hmem
    cases hmem
  · rw [hsent, List.mem_singleton] at hmem hmem'
    rw [hmem, hmem']

/-- A client who gives up on the generator has had the feed looked up, and no more. -/
theorem serve_of_givesUpOn {outgoing : HttpRequest}
    (hmem : outgoing ∈ ((service.page request).run s.patient).sent)
    (hgivesUp : s.GivesUpOn service.options.timeout outgoing) :
    ((service.serve request).run s).result = .error .cancelled ∧
      ((service.serve request).run s).reads <+:
        ((Fetch.loadGenerators [request.feed] request.viewer).run s.index).reads := by
  by_cases hnow : s.giveUp = some 0
  · rw [serve_of_givenUp hnow]
    exact ⟨rfl, List.nil_prefix⟩
  · rw [sent_page] at hmem
    have hskeleton : ((service.skeleton request).run s).result = .error .cancelled :=
      (Serve.yields_skeleton service.options request _).cancelled s outgoing hmem hgivesUp
    rw [serve_of_ne hnow, page_of_skeleton_error hskeleton]
    exact ⟨rfl, Serve.reads_skeleton _ _ _ _⟩

/-- **All or nothing.** A request is served as to a patient client, or it fails as cancelled. Once a
generator is asked, what comes first decides: that the client gives up, or that the reply or the end
of the wait comes. A client who had given up before the request began costs nothing. -/
theorem serve_all_or_nothing (service : FeedService) (request : FeedRequest) (s : Surroundings) :
    ((service.serve request).run s = (service.page request).run s.patient ∨
      ((service.serve request).run s).result = .error .cancelled) ∧
    (s.giveUp = some 0 → (service.serve request).run s = ⟨[], [], .error .cancelled⟩) ∧
    ∀ outgoing ∈ ((service.page request).run s.patient).sent, ∀ instant, s.giveUp = some instant →
      (instant < (s.generator outgoing).delay →
        (∀ timeout ∈ service.options.timeout, instant < timeout) →
        ((service.serve request).run s).result = .error .cancelled ∧
        ((service.serve request).run s).reads <+:
          ((Fetch.loadGenerators [request.feed] request.viewer).run s.index).reads) ∧
      ((s.generator outgoing).delay < instant ∨
          (∃ timeout ∈ service.options.timeout, timeout < instant) →
        (service.serve request).run s = (service.page request).run s.patient) := by
  refine ⟨?_, serve_of_givenUp, fun outgoing hmem instant hinstant => ⟨fun hdelay htimeout => ?_,
    fun hafter => ?_⟩⟩
  · by_cases hnow : s.giveUp = some 0
    · rw [serve_of_givenUp hnow]
      exact .inr rfl
    by_cases hgivesUp : ∃ outgoing ∈ ((service.page request).run s.patient).sent,
        s.GivesUpOn service.options.timeout outgoing
    · obtain ⟨outgoing, hmem, hgivesUp⟩ := hgivesUp
      exact .inr (serve_of_givesUpOn hmem hgivesUp).1
    · refine .inl (serve_of_stays hnow fun outgoing hmem hgives => ?_)
      exact hgivesUp ⟨outgoing, hmem, hgives⟩
  · exact serve_of_givesUpOn hmem
      ⟨instant, hinstant, Answer.lt_waiting_iff.2 ⟨hdelay, htimeout⟩⟩
  · have hlt : (s.generator outgoing).waiting service.options.timeout < instant :=
      Answer.waiting_lt_iff.2 hafter
    have hnow : s.giveUp ≠ some 0 := by
      rw [hinstant]
      rintro ⟨⟩
      exact Nat.not_lt_zero _ hlt
    refine serve_of_stays hnow fun outgoing' hmem' hgivesUp => ?_
    -- there is only one request whose answer could be waited for
    obtain rfl := eq_of_mem_sent_page hmem' hmem
    obtain ⟨instant', hinstant', hlt'⟩ := hgivesUp
    obtain rfl := Option.some.inj (hinstant.symm.trans hinstant')
    exact Nat.lt_asymm hlt hlt'

end FeedService

namespace Sample

/-- A generator that takes its time, and a client who gives up at some instant. -/
def restless (instant : Nat) : Surroundings :=
  { surroundings with
    generator := fun _ => ⟨5, .ok reply⟩
    giveUp := some instant }

theorem exists_sent_restless (instant : Nat) :
    ∃ outgoing, outgoing ∈ ((service.page request).run (restless instant).patient).sent := by
  have hlength : ((service.skeleton request).run (restless 0).patient).sent.length = 1 := by
    decide +kernel
  have hpatient : (restless instant).patient = (restless 0).patient := rfl
  rw [hpatient, FeedService.sent_page]
  apply List.length_pos_iff_exists_mem.1
  rw [hlength]
  exact Nat.one_pos

/-- The reply comes at five: too late for a client who gives up at three, in time for one who gives
up at nine. -/
theorem serve_restless :
    ((service.serve request).run (restless 3)).result = .error .cancelled ∧
      (service.serve request).run (restless 9) =
        (service.page request).run (restless 9).patient ∧
      (service.serve request).run (restless 0) = ⟨[], [], .error .cancelled⟩ := by
  refine ⟨?_, ?_, ?_⟩
  · obtain ⟨outgoing, hmem⟩ := exists_sent_restless 3
    obtain ⟨-, -, hraces⟩ := FeedService.serve_all_or_nothing service request (restless 3)
    have hbefore : 3 < ((restless 3).generator outgoing).delay := (by decide : 3 < 5)
    exact ((hraces outgoing hmem 3 rfl).1 hbefore (by rintro timeout ⟨⟩)).1
  · obtain ⟨outgoing, hmem⟩ := exists_sent_restless 9
    obtain ⟨-, -, hraces⟩ := FeedService.serve_all_or_nothing service request (restless 9)
    have hafter : ((restless 9).generator outgoing).delay < 9 := (by decide : 5 < 9)
    exact (hraces outgoing hmem 9 rfl).2 (.inl hafter)
  · obtain ⟨-, hnow, -⟩ := FeedService.serve_all_or_nothing service request (restless 0)
    exact hnow rfl

end Sample

end FeedHydration
