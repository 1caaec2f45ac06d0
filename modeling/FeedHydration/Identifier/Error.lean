/-!
Why a text is no identifier. An error names the specification that the text breaks, keeps the text,
and says which rule is broken and, where one component is at fault, which bytes of the text hold it.
-/

namespace FeedHydration

/-- A run of bytes of a text. -/
structure Span where
  start : Nat
  length : Nat
deriving DecidableEq

/-- The specification that a kind of identifier follows. -/
inductive Specification where
  | did
  | dataModel
  | atUri
deriving DecidableEq

def Specification.slug : Specification → String
  | .did => "did"
  | .dataModel => "data-model"
  | .atUri => "at-uri-scheme"

inductive IdentifierFault where
  | malformed (span : Option Span) (reason : String)
  | tooLong (limit actual : Nat)
  | missing (span : Span) (component : String)
deriving DecidableEq

namespace IdentifierFault

def message : IdentifierFault → String
  | malformed _ reason => "regex failure - " ++ reason
  | tooLong limit actual => s!"string too long (allowed: {limit}, actual: {actual})"
  | missing _ component => "missing - " ++ component

def code : IdentifierFault → String
  | malformed .. => "weft::types::regex_fail"
  | tooLong .. => "weft::types::wrong_length"
  | missing .. => "weft::types::missing_component"

def help? : IdentifierFault → Option String
  | malformed _ reason => some reason
  | tooLong .. => none
  | missing _ component => some component

def span? : IdentifierFault → Option Span
  | malformed span _ => span
  | tooLong .. => none
  | missing span _ => some span

end IdentifierFault

structure IdentifierError where
  specification : Specification
  text : String
  fault : IdentifierFault
deriving DecidableEq

namespace IdentifierError

def message (e : IdentifierError) : String :=
  "error in `" ++ e.text ++ "`: " ++ e.fault.message

def url (e : IdentifierError) : String :=
  "https://atproto.com/specs/" ++ e.specification.slug

end IdentifierError

end FeedHydration
