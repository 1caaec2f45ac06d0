import FeedHydration.Text.Utf8
import FeedHydration.Text.Search

/-!
Percent encoding. Which ASCII characters of a component are escaped is settled by its set; every
other character is escaped byte by byte.
-/

namespace FeedHydration.Percent

def upperHex (n : Nat) : Char :=
  if n < 10 then Char.ofNat ('0'.toNat + n) else Char.ofNat ('A'.toNat + (n - 10))

def encodeByte (byte : UInt8) : List Char :=
  ['%', upperHex (byte.toNat / 16), upperHex (byte.toNat % 16)]

/-- Characters of a component that are escaped. -/
abbrev Set := Char → Bool

def control : Set := fun c => c.toNat < 0x20 || c.toNat == 0x7F

def fragment : Set := fun c =>
  control c || c == ' ' || c == '"' || c == '<' || c == '>' || c == '`'

def path : Set := fun c =>
  fragment c || c == '#' || c == '?' || c == '{' || c == '}'

def userinfo : Set := fun c =>
  path c || c == '/' || c == ':' || c == ';' || c == '=' || c == '@' || c == '[' || c == '\\' ||
    c == ']' || c == '^' || c == '|'

def query : Set := fun c =>
  control c || c == ' ' || c == '"' || c == '#' || c == '<' || c == '>'

def specialQuery : Set := fun c => query c || c == '\''

def encodeChar (set : Set) (c : Char) : List Char :=
  if c.toNat < 0x80 && !set c then [c] else (String.utf8EncodeChar c).flatMap encodeByte

def encode (set : Set) (text : List Char) : List Char :=
  text.flatMap (encodeChar set)

def hexValue? (c : Char) : Option Nat :=
  if c.isDigit then some (c.toNat - '0'.toNat)
  else if 'a' ≤ c ∧ c ≤ 'f' then some (c.toNat - 'a'.toNat + 10)
  else if 'A' ≤ c ∧ c ≤ 'F' then some (c.toNat - 'A'.toNat + 10)
  else none

/-- The bytes that a text stands for; a percent sign without two hexadecimal digits is itself. -/
def decode : List Char → Bytes
  | '%' :: high :: low :: rest =>
    match hexValue? high, hexValue? low with
    | some h, some l => UInt8.ofNat (h * 16 + l) :: decode rest
    | _, _ => String.utf8EncodeChar '%' ++ decode (high :: low :: rest)
  | c :: rest => String.utf8EncodeChar c ++ decode rest
  | [] => []

end FeedHydration.Percent
