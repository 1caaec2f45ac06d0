import FeedHydration.Json.Basic

/-!
The tokens of a JSON text. A number or a string may be right in form and still have no value: a
number beyond the doubles, a string with an ill-formed byte run or half a surrogate pair. Such a
token is kept without a value, so that a reader may pass over it.
-/

namespace FeedHydration.Json

/-- One character of a text; none is an ill-formed run of bytes. -/
abbrev Glyph := Option Char

inductive Token where
  | beginArray
  | endArray
  | beginObject
  | endObject
  | colon
  | comma
  | null
  | bool (b : Bool)
  | number (value : Option JsonNumber)
  | string (value : Option String)
deriving DecidableEq

/-- A number as it is written: digits before and after the point, and the exponent. -/
structure Literal where
  negative : Bool
  whole : List Char
  fraction : Option (List Char)
  exponent : Option (Bool × List Char)

namespace Literal

def takeDigits (text : List Char) : List Char × List Char :=
  (text.takeWhile Char.isDigit, text.dropWhile Char.isDigit)

/-- At least one digit, and no needless zero in front. -/
def isWhole : List Char → Bool
  | [] => false
  | '0' :: rest => rest.isEmpty
  | _ => true

def exponent? : List Char → Option (Option (Bool × List Char))
  | [] => some none
  | e :: text =>
    if e = 'e' ∨ e = 'E' then
      let (down, digits) : Bool × List Char :=
        match text with
        | '-' :: digits => (true, digits)
        | '+' :: digits => (false, digits)
        | digits => (false, digits)
      if digits.isEmpty || !digits.all Char.isDigit then none else some (some (down, digits))
    else none

def parse? (text : List Char) : Option Literal := do
  let (negative, text) : Bool × List Char :=
    match text with
    | '-' :: text => (true, text)
    | text => (false, text)
  let (whole, text) := takeDigits text
  guard (isWhole whole)
  match text with
  | '.' :: text =>
    let (fraction, text) := takeDigits text
    guard !fraction.isEmpty
    let exponent ← exponent? text
    some ⟨negative, whole, some fraction, exponent⟩
  | text =>
    let exponent ← exponent? text
    some ⟨negative, whole, none, exponent⟩

/-- Reads digits as long as the number fits into 64 bits, and leaves the others. -/
def absorb : Nat → List Char → Nat × List Char
  | n, [] => (n, [])
  | n, c :: rest =>
    let next := n * 10 + (c.toNat - '0'.toNat)
    if next < Nat.pow 2 64 then absorb next rest else (n, c :: rest)

def natOfDigits (digits : List Char) : Nat :=
  digits.foldl (fun n c => n * 10 + (c.toNat - '0'.toNat)) 0

/-- The greatest exponent that is told from an endless one. -/
def maxExponent : Nat := Nat.pow 2 31 - 1

/-- Digits that do not fit are dropped; before the point they still count for the scale. An exponent
beyond `maxExponent` is out of range, unless it points down or the number is zero. -/
def real? (literal : Literal) : Option Binary64 :=
  let (significand, dropped) := absorb 0 literal.whole
  let (significand, scale) : Nat × Int :=
    match literal.fraction with
    | none => (significand, dropped.length)
    | some fraction =>
      let (significand, cut) := absorb significand fraction
      (significand, dropped.length - (fraction.length - cut.length : Nat))
  let signed (magnitude : Nat) : Binary64 := ⟨literal.negative, magnitude⟩
  match literal.exponent with
  | none => (Binary64.ofDecimal? significand scale).map signed
  | some (down, digits) =>
    let power := natOfDigits digits
    if maxExponent < power then
      if down || significand == 0 then some (signed 0) else none
    else
      let power : Int := if down then -power else power
      (Binary64.ofDecimal? significand (scale + power)).map signed

/-- A whole number that fits into 64 bits, signed if it is negative, is an integer. Minus zero is
a double. -/
def value? (literal : Literal) : Option JsonNumber :=
  match literal.fraction, literal.exponent with
  | none, none =>
    let n := natOfDigits literal.whole
    if literal.negative then
      if n = 0 ∨ Nat.pow 2 63 < n then literal.real?.map .real else some (.int (-n))
    else if n < Nat.pow 2 64 then some (.int n) else literal.real?.map .real
  | _, _ => literal.real?.map .real

end Literal

/-- A piece of a string: a character, a UTF-16 unit given by `\u`, or an ill-formed run. -/
inductive Piece where
  | char (c : Char)
  | unit (n : Nat)
  | illFormed

namespace Piece

def isHighSurrogate (n : Nat) : Bool := 0xD800 ≤ n && n ≤ 0xDBFF

def isLowSurrogate (n : Nat) : Bool := 0xDC00 ≤ n && n ≤ 0xDFFF

/-- The text of the pieces: a high surrogate and the low one right after it make one character, and
no surrogate may stand alone. -/
def text? : List Piece → Option (List Char)
  | [] => some []
  | .char c :: rest => (text? rest).map (c :: ·)
  | .illFormed :: _ => none
  | .unit high :: .unit low :: rest =>
    if isHighSurrogate high then
      if isLowSurrogate low then
        (text? rest).map (Char.ofNat (0x10000 + (high - 0xD800) * 0x400 + (low - 0xDC00)) :: ·)
      else none
    else if isLowSurrogate high then none
    else (text? (.unit low :: rest)).map (Char.ofNat high :: ·)
  | .unit n :: rest =>
    if isHighSurrogate n || isLowSurrogate n then none
    else (text? rest).map (Char.ofNat n :: ·)

end Piece

namespace Lexer

/-- Where in a token the reader stands; what is read so far is kept backwards. -/
inductive Mode where
  | between
  | word (text : List Char)
  | number (text : List Char)
  | string (pieces : List Piece)
  | escape (pieces : List Piece)
  | unit (pieces : List Piece) (digits : Nat) (value : Nat)

def wordToken? (text : List Char) : Option Token :=
  if text = "null".toList then some .null
  else if text = "true".toList then some (.bool true)
  else if text = "false".toList then some (.bool false)
  else none

def numberToken? (text : List Char) : Option Token :=
  (Literal.parse? text).map fun literal => .number literal.value?

def stringToken (pieces : List Piece) : Token :=
  .string ((Piece.text? pieces).map String.ofList)

def isBlank (c : Char) : Bool :=
  c == ' ' || c == '\t' || c == '\n' || c == '\r'

def punctuation? (c : Char) : Option Token :=
  match c with
  | '[' => some .beginArray
  | ']' => some .endArray
  | '{' => some .beginObject
  | '}' => some .endObject
  | ':' => some .colon
  | ',' => some .comma
  | _ => none

def isNumberChar (c : Char) : Bool :=
  c.isDigit || c == '-' || c == '+' || c == '.' || c == 'e' || c == 'E'

/-- The first character of what follows a token. -/
def start? (c : Char) : Option (List Token × Mode) :=
  if isBlank c then some ([], .between)
  else if c = '"' then some ([], .string [])
  else if c.isDigit || c = '-' then some ([], .number [c])
  else if c.isLower then some ([], .word [c])
  else (punctuation? c).map fun token => ([token], .between)

def hexValue? (c : Char) : Option Nat :=
  if c.isDigit then some (c.toNat - '0'.toNat)
  else if 'a' ≤ c ∧ c ≤ 'f' then some (c.toNat - 'a'.toNat + 10)
  else if 'A' ≤ c ∧ c ≤ 'F' then some (c.toNat - 'A'.toNat + 10)
  else none

def escaped? (c : Char) : Option Char :=
  match c with
  | '"' => some '"'
  | '\\' => some '\\'
  | '/' => some '/'
  | 'b' => some '\x08'
  | 'f' => some '\x0c'
  | 'n' => some '\n'
  | 'r' => some '\r'
  | 't' => some '\t'
  | _ => none

/-- Ends a word or number before the character `c`. -/
def endToken? (token : Option Token) (c : Char) : Option (List Token × Mode) := do
  let token ← token
  let (tokens, mode) ← start? c
  some (token :: tokens, mode)

def step? : Mode → Glyph → Option (List Token × Mode)
  | .string pieces, none => some ([], .string (.illFormed :: pieces))
  | _, none => none
  | .between, some c => start? c
  | .word text, some c =>
    if c.isLower then some ([], .word (c :: text)) else endToken? (wordToken? text.reverse) c
  | .number text, some c =>
    if isNumberChar c then some ([], .number (c :: text))
    else endToken? (numberToken? text.reverse) c
  | .string pieces, some c =>
    if c = '"' then some ([stringToken pieces.reverse], .between)
    else if c = '\\' then some ([], .escape pieces)
    else if c.toNat < 0x20 then none
    else some ([], .string (.char c :: pieces))
  | .escape pieces, some c =>
    if c = 'u' then some ([], .unit pieces 0 0)
    else (escaped? c).map fun char => ([], .string (.char char :: pieces))
  | .unit pieces digits value, some c => do
    let value := value * 16 + (← hexValue? c)
    if digits = 3 then some ([], .string (.unit value :: pieces))
    else some ([], .unit pieces (digits + 1) value)

/-- The end of the text ends a word or a number, and must not fall inside a string. -/
def finish? : Mode → Option (List Token)
  | .between => some []
  | .word text => (wordToken? text.reverse).map ([·])
  | .number text => (numberToken? text.reverse).map ([·])
  | .string _ | .escape _ | .unit .. => none

def tokensFrom? : Mode → List Glyph → Option (List Token)
  | mode, [] => finish? mode
  | mode, glyph :: rest => do
    let (tokens, mode) ← step? mode glyph
    let more ← tokensFrom? mode rest
    some (tokens ++ more)

end Lexer

/-- The tokens of a text. -/
def tokens? (text : List Glyph) : Option (List Token) :=
  Lexer.tokensFrom? .between text

end FeedHydration.Json
