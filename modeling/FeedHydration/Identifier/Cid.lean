import FeedHydration.Identifier.Error

/-!
Content identifiers in their string form. Only the shape is checked: base 32 (`b…`) or base 58
(`Qm…`); the hash inside is never decoded.
-/

namespace FeedHydration

namespace Cid

def isBase32Digit (c : Char) : Bool :=
  c.isLower || ('2' ≤ c && c ≤ '7')

def isBase58Digit (c : Char) : Bool :=
  c.isAlphanum && c != '0' && c != 'O' && c != 'I' && c != 'l'

def isCid : List Char → Bool
  | 'b' :: digits => 8 ≤ digits.length && digits.all isBase32Digit
  | 'Q' :: 'm' :: digits => digits.length == 44 && digits.all isBase58Digit
  | _ => false

/-- A content identifier has at most this many bytes. -/
def maxBytes : Nat := 256

end Cid

structure Cid where
  text : String
  grammatical : Cid.isCid text.toList = true
  fits : text.utf8ByteSize ≤ Cid.maxBytes

namespace Cid

instance : DecidableEq Cid := fun a b =>
  if h : a.text = b.text then
    isTrue (by cases a; cases b; cases h; rfl)
  else isFalse (fun e => h (congrArg text e))

theorem ext {a b : Cid} (h : a.text = b.text) : a = b := by
  cases a; cases b; cases h; rfl

instance : ToString Cid := ⟨text⟩

def parse (text : String) : Except IdentifierError Cid :=
  if fits : text.utf8ByteSize ≤ maxBytes then
    if grammatical : isCid text.toList = true then .ok ⟨text, grammatical, fits⟩
    else .error ⟨.dataModel, text, .malformed none "not a base32 or base58 CID string"⟩
  else .error ⟨.dataModel, text, .tooLong maxBytes text.utf8ByteSize⟩

end Cid

end FeedHydration
