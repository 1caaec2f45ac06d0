import FeedHydration.Http.Exchange
import FeedHydration.Index.Fetch

/-!
Why a request for a feed fails as a whole, and how the failure is told to the client. What is wrong
with a single entry of a feed is never a failure of the request.
-/

namespace FeedHydration

/-- The first four are faults of what was asked for. -/
inductive FeedError where
  | unknownFeed (reason : Option String)
  | feedNotFound (feed : AtUri)
  | invalidFeedReference (feed : AtUri) (reason : String)
  | invalidGeneratorConfig (service : Did) (reason : String)
  | feedUnavailable (source : TransportError)
  | invalidFeedResponse (reason : String)
  | refused (status : Nat) (error : String) (reason : Option String)
  | data (source : DataError)
  | cancelled
deriving DecidableEq

/-- A coarse classification of failures. -/
inductive ErrorKind where
  | clientInput
  | generatorUnavailable
  | protocolViolation
  | refusal
  | internal
  | cancelled
deriving DecidableEq

namespace FeedError

def message : FeedError → String
  | unknownFeed reason => "unknown feed" ++ reason.elim "" (": " ++ ·)
  | feedNotFound feed => "could not find feed " ++ feed.text
  | invalidFeedReference feed reason => "invalid feed reference " ++ feed.text ++ ": " ++ reason
  | invalidGeneratorConfig service reason =>
    "invalid feed generator service details for " ++ service.text ++ ": " ++ reason
  | feedUnavailable _ => "feed unavailable"
  | invalidFeedResponse reason => "invalid response from feed generator: " ++ reason
  | refused status error _ =>
    "feed generator error " ++ HttpStatus.describe status ++ ": " ++ error
  | data source => source.message
  | cancelled => "request cancelled"

def code : FeedError → String
  | unknownFeed _ => "weft::feed::unknown_feed"
  | feedNotFound _ => "weft::feed::not_found"
  | invalidFeedReference .. => "weft::feed::invalid_reference"
  | invalidGeneratorConfig .. => "weft::feed::invalid_generator_config"
  | feedUnavailable _ => "weft::feed::unavailable"
  | invalidFeedResponse _ => "weft::feed::invalid_response"
  | refused .. => "weft::feed::upstream"
  | data source => source.code
  | cancelled => "weft::feed::cancelled"

def help? : FeedError → Option String
  | unknownFeed _ => some "the generator service answered UnknownFeed for this uri"
  | invalidFeedReference .. => some "feed uris must point at an app.bsky.feed.generator record"
  | invalidGeneratorConfig .. =>
    some "the service DID document needs a #bsky_fg BskyFeedGenerator service entry"
  | _ => none

def kind : FeedError → ErrorKind
  | unknownFeed _ | feedNotFound _ | invalidFeedReference .. | invalidGeneratorConfig .. =>
    .clientInput
  | feedUnavailable _ => .generatorUnavailable
  | invalidFeedResponse _ => .protocolViolation
  | refused .. => .refusal
  | data _ => .internal
  | cancelled => .cancelled

/-- Whether the same request might succeed when it is made again. A reply that is no skeleton will
be none the next time either. -/
def isRetryable : FeedError → Bool
  | feedUnavailable _ => true
  | data source => source.isRetryable
  | _ => false

/-- The name of the error for the client. -/
def xrpcName : FeedError → String
  | unknownFeed _ => "UnknownFeed"
  | feedNotFound _ | invalidFeedReference .. | invalidGeneratorConfig .. => "InvalidRequest"
  | feedUnavailable _ => "UpstreamFailure"
  | invalidFeedResponse _ => "InvalidFeedResponse"
  | refused _ error _ => error
  | data _ => "InternalServerError"
  | cancelled => "RequestCancelled"

/-- The status for the client. An error of the generator service keeps its own. -/
def httpStatus : FeedError → Nat
  | refused status _ _ => status
  | e =>
    match e.kind with
    | .clientInput => HttpStatus.badRequest
    | .generatorUnavailable | .protocolViolation | .refusal => HttpStatus.badGateway
    | .internal => HttpStatus.internalServerError
    | .cancelled => HttpStatus.requestTimeout

end FeedError

end FeedHydration
