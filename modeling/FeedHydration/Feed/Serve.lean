import FeedHydration.Feed.Error
import FeedHydration.Feed.Outcome
import FeedHydration.Identity.Resolution

/-!
Serving a request: reads of the index, and exchanges with the generator service. Time passes only
while a reply is waited for; the client may give up at some instant, and what is waited for is then
abandoned. The reads and the requests sent are on record even if the request fails.
-/

namespace FeedHydration

/-- All that a request meets. `giveUp` is the time at which the client gives up, in milliseconds
from the start of the request. -/
structure Surroundings where
  index : Index
  resolver : IdentityResolver
  generator : HttpRequest → Answer
  timings : StageTimings
  giveUp : Option Nat

structure Served (α : Type) where
  reads : List Read
  sent : List HttpRequest
  result : Except FeedError α

structure Serve (α : Type) where
  run : Surroundings → Served α

namespace Serve

def pure (a : α) : Serve α :=
  ⟨fun _ => ⟨[], [], .ok a⟩⟩

def bind (m : Serve α) (next : α → Serve β) : Serve β :=
  ⟨fun s =>
    match (m.run s).result with
    | .ok a =>
      ⟨(m.run s).reads ++ ((next a).run s).reads, (m.run s).sent ++ ((next a).run s).sent,
        ((next a).run s).result⟩
    | .error e => ⟨(m.run s).reads, (m.run s).sent, .error e⟩⟩

instance : Monad Serve where
  pure := pure
  bind := bind

/-- A value or an error, without any effect. -/
def ofExcept (result : Except FeedError α) : Serve α :=
  ⟨fun _ => ⟨[], [], result⟩⟩

def fail (e : FeedError) : Serve α :=
  ofExcept (.error e)

/-- Reads of the index; an error of the index fails the request. -/
def fetch (m : Fetch α) : Serve α :=
  ⟨fun s => ⟨(m.run s.index).reads, [], (m.run s.index).result.mapError .data⟩⟩

def surroundings : Serve Surroundings :=
  ⟨fun s => ⟨[], [], .ok s⟩⟩

end Serve

namespace Answer

/-- For how long an answer is waited for. -/
def waiting (answer : Answer) (timeout : Option Nat) : Nat :=
  match timeout with
  | some timeout => min answer.delay timeout
  | none => answer.delay

/-- What an exchange comes to; an answer that comes with the timeout is in time. -/
def outcome (answer : Answer) (timeout : Option Nat) : Except TransportError HttpReply :=
  if timeout.any (· < answer.delay) then .error .timeout
  else answer.result.mapError .client

end Answer

namespace Serve

/-- Sends a request and waits for the reply, unless the client gives up before. -/
def exchange (request : HttpRequest) (timeout : Option Nat) : Serve HttpReply :=
  ⟨fun s =>
    ⟨[], [request],
      if s.giveUp.any (· < (s.generator request).waiting timeout) then .error .cancelled
      else ((s.generator request).outcome timeout).mapError .feedUnavailable⟩⟩

/-- Nothing is done for a client that has given up before it began. -/
def unlessGivenUp (m : Serve α) : Serve α :=
  ⟨fun s => if s.giveUp = some 0 then ⟨[], [], .error .cancelled⟩ else m.run s⟩

@[simp]
theorem run_pure (a : α) (s : Surroundings) : (Pure.pure a : Serve α).run s = ⟨[], [], .ok a⟩ :=
  rfl

theorem run_bind (m : Serve α) (next : α → Serve β) (s : Surroundings) :
    (m >>= next).run s =
      match (m.run s).result with
      | .ok a =>
        ⟨(m.run s).reads ++ ((next a).run s).reads, (m.run s).sent ++ ((next a).run s).sent,
          ((next a).run s).result⟩
      | .error e => ⟨(m.run s).reads, (m.run s).sent, .error e⟩ := rfl

theorem run_bind_of_ok {m : Serve α} {next : α → Serve β} {s : Surroundings} {a : α}
    (h : (m.run s).result = .ok a) :
    (m >>= next).run s =
      ⟨(m.run s).reads ++ ((next a).run s).reads, (m.run s).sent ++ ((next a).run s).sent,
        ((next a).run s).result⟩ := by
  rw [run_bind, h]

theorem run_bind_of_error {m : Serve α} {next : α → Serve β} {s : Surroundings} {e : FeedError}
    (h : (m.run s).result = .error e) :
    (m >>= next).run s = ⟨(m.run s).reads, (m.run s).sent, .error e⟩ := by
  rw [run_bind, h]

end Serve

end FeedHydration
