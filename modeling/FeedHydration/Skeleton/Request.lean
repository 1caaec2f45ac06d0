import FeedHydration.Feed.Options
import FeedHydration.Feed.Serve
import FeedHydration.Hydration.Embed
import FeedHydration.Skeleton.Basic
import FeedHydration.Url.Form

/-!
Asking a generator for a skeleton. The record of the feed names a service, the did document of the
service gives its endpoint, and one call to the endpoint gives the skeleton.
-/

namespace FeedHydration

namespace Skeleton

/-- The method that a generator answers. -/
def method : String := "app.bsky.feed.getFeedSkeleton"

def query (feed : AtUri) (limit : Nat) (cursor : Option String) : List (String × String) :=
  [("feed", feed.text), ("limit", toString limit)] ++
    (cursor.map fun cursor => ("cursor", cursor)).toList

def url (endpoint : Url) (feed : AtUri) (limit : Nat) (cursor : Option String) : Url :=
  Xrpc.endpointUrl endpoint method (some (Form.encode (query feed limit cursor)))

/-- The request to a generator. Only those headers of the client go along that may be forwarded. -/
def httpRequest (options : FeedOptions) (endpoint : Url) (request : FeedRequest) (limit : Nat) :
    Except TransportError HttpRequest := do
  let outgoing ← HttpRequest.getJson (url endpoint request.feed limit request.cursor)
  return { outgoing with
    headers := outgoing.headers.override (options.forwardable request.headers) }

end Skeleton

namespace Serve

/-- The endpoint of the service that answers for a feed. -/
def feedEndpoint (options : FeedOptions) (feed : AtUri) (viewer : Option Did) : Serve Url := do
  if feed.collection ≠ Collection.generator then
    fail (.invalidFeedReference feed "not an app.bsky.feed.generator record")
  else
    let generators ← fetch (Fetch.loadGenerators [feed] viewer)
    match generators[feed]? with
    | none => fail (.feedNotFound feed)
    | some generator =>
      let s ← surroundings
      ofExcept ((s.resolver.serviceEndpoint generator.serviceDid options.serviceId
        options.serviceType).mapError fun e =>
          .invalidGeneratorConfig generator.serviceDid e.message)

/-- Asks the generator for up to `limit` items. -/
def skeleton (options : FeedOptions) (request : FeedRequest) (limit : Nat) : Serve Skeleton := do
  let endpoint ← feedEndpoint options request.feed request.viewer
  let outgoing ← ofExcept
    ((Skeleton.httpRequest options endpoint request limit).mapError .feedUnavailable)
  let reply ← exchange outgoing options.timeout
  ofExcept (Skeleton.ofReply reply)

end Serve

end FeedHydration
