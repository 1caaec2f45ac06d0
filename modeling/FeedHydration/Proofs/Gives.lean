import FeedHydration.Feed.Serve

/-!
# What a program gives

A program of reads gives a value or fails. Which value it gives follows its structure: a bind gives
what its last part gives, a fallback gives a value in any case, and without an outage no read fails.
-/

namespace FeedHydration

variable {α β : Type}

namespace Fetch

variable {index : Index}

/-- The value that a program ends with on an index. -/
def Gives (m : Fetch α) (index : Index) (a : α) : Prop :=
  (m.run index).result = .ok a

theorem Gives.unique {m : Fetch α} {a b : α} (ha : m.Gives index a) (hb : m.Gives index b) :
    a = b := by
  unfold Gives at ha hb
  rw [ha] at hb
  cases hb
  rfl

@[simp]
theorem gives_pure {a b : α} : (Pure.pure a : Fetch α).Gives index b ↔ a = b := by
  simp [Gives]

theorem gives_bind {m : Fetch α} {next : α → Fetch β} {b : β} :
    (m >>= next).Gives index b ↔ ∃ a, m.Gives index a ∧ (next a).Gives index b := by
  unfold Gives
  cases hm : (m.run index).result with
  | error e => simp [run_bind_of_error hm]
  | ok a => simp [run_bind_of_ok hm]

theorem gives_map {m : Fetch α} {f : α → β} {b : β} :
    (f <$> m).Gives index b ↔ ∃ a, m.Gives index a ∧ f a = b := by
  rw [← bind_pure_comp, gives_bind]
  simp only [gives_pure]

@[simp]
theorem gives_read {kind : ReadKind} {ids : List String} {answer : Tables → α} {a : α} :
    (read kind ids answer).Gives index a ↔ index.outage ≠ some kind ∧ answer index.tables = a := by
  unfold Gives read
  by_cases hout : index.outage = some kind <;> simp [hout]

@[simp]
theorem gives_clock {now : Instant} : clock.Gives index now ↔ index.clock = now := by
  simp [Gives, clock]

/-- Either the program gives the value, or it gives none and the value is the fallback. -/
theorem gives_orElse {m : Fetch α} {fallback a : α} :
    (m.orElse fallback).Gives index a ↔
      m.Gives index a ∨ (∀ b, ¬ m.Gives index b) ∧ fallback = a := by
  unfold Gives orElse
  cases hm : (m.run index).result with
  | error e => simp [Except.toOption, hm]
  | ok b => simp [Except.toOption, hm]

/-- A run that can be evaluated shows what its value is like. -/
theorem exists_gives {m : Fetch α} {p : α → Bool} (h : (m.run index).result.toOption.any p = true) :
    ∃ a, m.Gives index a ∧ p a = true := by
  cases hm : (m.run index).result with
  | error e => simp [hm, Except.toOption] at h
  | ok a =>
    simp only [hm, Except.toOption, Option.any_some] at h
    exact ⟨a, hm, h⟩

/-- Whether a program ends with a value at all. -/
def Answers (m : Fetch α) (index : Index) : Prop :=
  ∃ a, m.Gives index a

@[simp]
theorem answers_pure (a : α) : (Pure.pure a : Fetch α).Answers index :=
  ⟨a, gives_pure.2 rfl⟩

theorem Answers.bind {m : Fetch α} {next : α → Fetch β} (hm : m.Answers index)
    (hnext : ∀ a, m.Gives index a → (next a).Answers index) : (m >>= next).Answers index := by
  obtain ⟨a, ha⟩ := hm
  obtain ⟨b, hb⟩ := hnext a ha
  exact ⟨b, gives_bind.2 ⟨a, ha, hb⟩⟩

theorem Answers.map {m : Fetch α} (hm : m.Answers index) (f : α → β) :
    (f <$> m).Answers index := by
  obtain ⟨a, ha⟩ := hm
  exact ⟨f a, gives_map.2 ⟨a, ha, rfl⟩⟩

theorem answers_read (hout : index.outage = none) (kind : ReadKind) (ids : List String)
    (answer : Tables → α) : (read kind ids answer).Answers index :=
  ⟨answer index.tables, gives_read.2 ⟨by simp [hout], rfl⟩⟩

theorem answers_clock : clock.Answers index :=
  ⟨index.clock, gives_clock.2 rfl⟩

theorem answers_orElse (m : Fetch α) (fallback : α) : (m.orElse fallback).Answers index :=
  ⟨_, rfl⟩

/-- A fallback is not needed for a program that answers. -/
theorem gives_orElse_of_answers {m : Fetch α} (hm : m.Answers index) {fallback a : α} :
    (m.orElse fallback).Gives index a ↔ m.Gives index a := by
  rw [gives_orElse]
  constructor
  · rintro (ha | ⟨hnone, _⟩)
    · exact ha
    · obtain ⟨b, hb⟩ := hm
      exact absurd hb (hnone b)
  · exact Or.inl

end Fetch

namespace Serve

variable {s : Surroundings}

/-- The value that a request ends with. -/
def Gives (m : Serve α) (s : Surroundings) (a : α) : Prop :=
  (m.run s).result = .ok a

@[simp]
theorem gives_pure {a b : α} : (Pure.pure a : Serve α).Gives s b ↔ a = b := by
  simp [Gives]

theorem gives_bind {m : Serve α} {next : α → Serve β} {b : β} :
    (m >>= next).Gives s b ↔ ∃ a, m.Gives s a ∧ (next a).Gives s b := by
  unfold Gives
  cases hm : (m.run s).result with
  | error e => simp [run_bind_of_error hm]
  | ok a => simp [run_bind_of_ok hm]

@[simp]
theorem gives_fetch {m : Fetch α} {a : α} : (fetch m).Gives s a ↔ m.Gives s.index a := by
  change (m.run s.index).result.mapError FeedError.data = .ok a ↔ (m.run s.index).result = .ok a
  cases (m.run s.index).result with
  | error e =>
    constructor
    · intro h
      cases h
    · intro h
      cases h
  | ok b =>
    constructor
    · intro h
      cases h
      rfl
    · intro h
      cases h
      rfl

theorem exists_gives {m : Serve α} {p : α → Bool} (h : (m.run s).result.toOption.any p = true) :
    ∃ a, m.Gives s a ∧ p a = true := by
  cases hm : (m.run s).result with
  | error e => simp [hm, Except.toOption] at h
  | ok a =>
    simp only [hm, Except.toOption, Option.any_some] at h
    exact ⟨a, hm, h⟩

@[simp]
theorem gives_surroundings {s' : Surroundings} : surroundings.Gives s s' ↔ s = s' := by
  simp [Gives, surroundings]

end Serve

end FeedHydration
