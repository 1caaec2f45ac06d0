import FeedHydration.Http.Headers
import FeedHydration.Identifier.AtUri

/-!
The settings of the service, and what a client asks for.
-/

namespace FeedHydration

structure FeedOptions where
  defaultLimit : Nat := 50
  maxLimit : Nat := 100
  /-- Display names are cut to this many bytes. -/
  displayNameBytes : Nat := 64
  /-- The service entry by which a generator is found in a did document. -/
  serviceId : String := "#bsky_fg"
  serviceType : String := "BskyFeedGenerator"
  /-- The headers of the client that the generator gets to see. -/
  forwardedHeaders : List HeaderName :=
    [HeaderName.authorization, HeaderName.acceptLanguage, HeaderName.topics]
  /-- How many milliseconds the generator has for its reply. -/
  timeout : Option Nat := none

namespace FeedOptions

/-- The number of entries of a page: at least one, at most the largest page. -/
def clampLimit (options : FeedOptions) (requested : Option Nat) : Nat :=
  min (max (requested.getD options.defaultLimit) 1) (max options.maxLimit 1)

def forwardable (options : FeedOptions) (headers : Headers) : Headers :=
  headers.select options.forwardedHeaders

end FeedOptions

/-- A request for a page of a feed. Without a viewer the client is logged out. -/
structure FeedRequest where
  feed : AtUri
  limit : Option Nat
  cursor : Option String
  viewer : Option Did
  headers : Headers

end FeedHydration
