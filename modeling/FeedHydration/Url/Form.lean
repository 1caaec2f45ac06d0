import FeedHydration.Url.Percent

/-!
Form encoding of pairs of texts, `name=value&…`. A space is written as a plus sign; letters, digits
and `*-._` stand for themselves, every other byte is escaped.
-/

namespace FeedHydration.Form

def isPlain (c : Char) : Bool :=
  c.isAlphanum || c == '*' || c == '-' || c == '.' || c == '_'

def encodeChar (c : Char) : List Char :=
  if c = ' ' then ['+']
  else if isPlain c then [c]
  else (String.utf8EncodeChar c).flatMap Percent.encodeByte

def encodePart (text : String) : List Char :=
  text.toList.flatMap encodeChar

def encodePair (pair : String × String) : List Char :=
  encodePart pair.1 ++ '=' :: encodePart pair.2

def encode (pairs : List (String × String)) : List Char :=
  ['&'].intercalate (pairs.map encodePair)

/-- Undoes the plus signs first, then the escapes. -/
def decodePart (text : List Char) : String :=
  Utf8.decodeLossy (Percent.decode (text.map fun c => if c = '+' then ' ' else c))

def decodePair (text : List Char) : String × String :=
  let (name, value) := Text.cut '=' text
  (decodePart name, decodePart (value.getD []))

/-- The pairs of a query; empty pieces are passed over. -/
def decode (text : List Char) : List (String × String) :=
  ((Text.splitAll '&' text).filter (!·.isEmpty)).map decodePair

end FeedHydration.Form
