import FeedHydration.Http.Exchange
import FeedHydration.Identity.Document

/-!
From a did to the endpoint of one of its services. A resolver gives the document for a did; the
document must be about that very did and must list the service.
-/

namespace FeedHydration

inductive IdentityError where
  | notFound (did : Did)
  | transport (error : TransportError)
  | invalidDocument (reason : String)
  | idMismatch (expected found : Did)
  | missingService (id type : String)
deriving DecidableEq

namespace IdentityError

def message : IdentityError → String
  | notFound did => "DID document not found for " ++ did.text
  | transport error => error.message
  | invalidDocument reason => "invalid DID document: " ++ reason
  | idMismatch expected found =>
    "DID document id mismatch: expected " ++ expected.text ++ ", found " ++ found.text
  | missingService id type => "no " ++ id ++ " service of type " ++ type ++ " in DID document"

def code : IdentityError → String
  | notFound _ => "weft::identity::not_found"
  | transport _ => "weft::identity::transport"
  | invalidDocument _ => "weft::identity::invalid_doc"
  | idMismatch .. => "weft::identity::doc_id_mismatch"
  | missingService .. => "weft::identity::missing_service"

end IdentityError

/-- Gives the document of a did. -/
abbrev IdentityResolver := Did → Except IdentityError DidDocument

namespace IdentityResolver

def serviceEndpoint (resolver : IdentityResolver) (did : Did) (id type : String) :
    Except IdentityError Url := do
  let doc ← resolver did
  if doc.id ≠ did then throw (.idMismatch did doc.id)
  match doc.endpoint? id type with
  | some url => pure url
  | none => throw (.missingService id type)

end IdentityResolver

end FeedHydration
