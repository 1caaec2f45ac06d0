import FeedHydration.Http.Headers
import FeedHydration.View.Feed

/-!
What a request for a feed gives: a page, headers, and the account of what was left out.
-/

namespace FeedHydration

/-- How many items of a skeleton were left out, by reason. -/
structure OmittedCounts where
  notHydrated : Nat
  blocked : Nat
  muted : Nat
  malformed : Nat
deriving DecidableEq

namespace OmittedCounts

def zero : OmittedCounts := ⟨0, 0, 0, 0⟩

def total (counts : OmittedCounts) : Nat :=
  counts.notHydrated + counts.blocked + counts.muted + counts.malformed

end OmittedCounts

/-- How long the two slow stages took, in microseconds. -/
structure StageTimings where
  skeleton : Nat
  hydration : Nat
deriving DecidableEq

/-- The value of the `server-timing` header, in whole milliseconds. -/
def StageTimings.serverTiming (timings : StageTimings) : String :=
  "skeleton;dur=" ++ toString (timings.skeleton / 1000) ++ ", hydration;dur=" ++
    toString (timings.hydration / 1000)

structure FeedOutcome where
  page : FeedPage
  headers : Headers
  omitted : OmittedCounts
  timings : StageTimings
deriving DecidableEq

end FeedHydration
