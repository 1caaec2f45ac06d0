import FeedHydration.DomainName.Label
import FeedHydration.Url.Percent

/-!
Hosts of urls: names, addresses of four bytes, addresses of eight words. A name is written in ASCII,
and must be an address if its last label is numeric.
-/

namespace FeedHydration

inductive UrlHost where
  | name (text : String)
  | ipv4 (address : Nat)
  | ipv6 (pieces : List Nat)
deriving DecidableEq

namespace UrlHost

/-- A number of an address: decimal, octal after `0`, hexadecimal after `0x`; just `0x` is zero. -/
def number? (text : List Char) : Option Nat :=
  let read (base : Nat) (isDigit : Char → Bool) (digits : List Char) : Option Nat :=
    if digits.all isDigit then
      some (digits.foldl (fun n c => n * base + (Percent.hexValue? c).getD 0) 0)
    else none
  match text with
  | [] => none
  | '0' :: 'x' :: digits | '0' :: 'X' :: digits =>
    read 16 (fun c => (Percent.hexValue? c).isSome) digits
  | '0' :: d :: digits => read 8 (fun c => '0' ≤ c && c ≤ '7') (d :: digits)
  | digits => read 10 Char.isDigit digits

/-- One empty label at the end is passed over. -/
def labels (name : List Char) : List (List Char) :=
  let all := Text.splitAll '.' name
  match all.reverse with
  | [] :: rest => rest.reverse
  | _ => all

def endsInNumber (name : List Char) : Bool :=
  match (labels name).getLast? with
  | some label => (!label.isEmpty && label.all Char.isDigit) || (number? label).isSome
  | none => false

/-- All numbers but the last stand for one byte; the last one fills the bytes that remain. -/
def ipv4? (name : List Char) : Option UrlHost := do
  let numbers ← (labels name).mapM number?
  guard (numbers.length ≤ 4)
  let last ← numbers.getLast?
  let leading := numbers.dropLast
  guard (leading.all (· ≤ 255))
  guard (last < Nat.pow 256 (4 - leading.length))
  let high := leading.foldl (fun n byte => n * 256 + byte) 0
  some (.ipv4 (high * Nat.pow 256 (4 - leading.length) + last))

def hexGroup? (text : List Char) : Option Nat :=
  if 1 ≤ text.length && text.length ≤ 4 then
    (text.mapM Percent.hexValue?).map fun digits => digits.foldl (fun n d => n * 16 + d) 0
  else none

/-- A byte in decimal digits without needless zeros. -/
def decimalByte? (text : List Char) : Option Nat :=
  let value := text.foldl (fun n c => n * 10 + (Percent.hexValue? c).getD 0) 0
  let noLeadingZero := text.length == 1 || text.head? != some '0'
  let plain := text.all Char.isDigit && !text.isEmpty && noLeadingZero
  if plain && value ≤ 255 then some value else none

/-- Four bytes as two words. -/
def dotted? (text : List Char) : Option (List Nat) :=
  match (Text.splitAll '.' text).mapM decimalByte? with
  | some [a, b, c, d] => some [a * 256 + b, c * 256 + d]
  | _ => none

/-- Groups between colons; only the last one may be dotted. -/
def groups? (mayEndDotted : Bool) : List (List Char) → Option (List Nat)
  | [] => some []
  | [last] =>
    match hexGroup? last with
    | some word => some [word]
    | none => if mayEndDotted then dotted? last else none
  | group :: rest => do
    let word ← hexGroup? group
    let words ← groups? mayEndDotted rest
    some (word :: words)

def wordsOf? (mayEndDotted : Bool) (text : List Char) : Option (List Nat) :=
  if text.isEmpty then some [] else groups? mayEndDotted (Text.splitAll ':' text)

/-- Splits at the first double colon. -/
def cutDouble : List Char → List Char × Option (List Char)
  | ':' :: ':' :: rest => ([], some rest)
  | c :: rest =>
    let tail := cutDouble rest
    (c :: tail.1, tail.2)
  | [] => ([], none)

/-- A double colon stands for the zero words that are missing, at least one. -/
def ipv6? (text : List Char) : Option UrlHost :=
  match cutDouble text with
  | (all, none) => do
    let words ← wordsOf? true all
    guard (words.length == 8)
    some (.ipv6 words)
  | (left, some right) => do
    let before ← wordsOf? false left
    let after ← wordsOf? true right
    guard (before.length + after.length ≤ 7)
    some (.ipv6 (before ++ List.replicate (8 - before.length - after.length) 0 ++ after))

def isForbidden (c : Char) : Bool :=
  c.toNat == 0 || c == '\t' || c == '\n' || c == '\r' || c == ' ' || c == '#' || c == '/' ||
    c == ':' || c == '<' || c == '>' || c == '?' || c == '@' || c == '[' || c == '\\' ||
    c == ']' || c == '^' || c == '|'

def isForbiddenInName (c : Char) : Bool :=
  isForbidden c || Percent.control c || c == '%'

/-- An address in brackets. -/
def bracketed? (text : List Char) : Option UrlHost :=
  if text.getLast? = some ']' then ipv6? text.dropLast else none

/-- The host of a url of a scheme that has hosts; escapes are undone before the name is read. -/
def ofDomain? (text : List Char) : Option UrlHost :=
  match text with
  | '[' :: inner => bracketed? inner
  | text => do
    let decoded ← Utf8.decode? (Percent.decode text)
    let name ← DomainName.toAscii? decoded.toList
    guard (!name.isEmpty && !name.any isForbiddenInName)
    if endsInNumber name then ipv4? name else some (.name (String.ofList name))

/-- The host of a url of any other scheme, kept as it is. -/
def ofOpaque? (text : List Char) : Option UrlHost :=
  match text with
  | '[' :: inner => bracketed? inner
  | text =>
    if text.any isForbidden then none
    else some (.name (String.ofList (Percent.encode Percent.control text)))

def renderIpv4 (address : Nat) : List Char :=
  let byte (shift : Nat) := Nat.toDigits 10 (address / Nat.pow 256 shift % 256)
  byte 3 ++ '.' :: (byte 2 ++ '.' :: (byte 1 ++ '.' :: byte 0))

/-- Length of the run of zero words at the front. -/
def zeroRun (words : List Nat) : Nat :=
  (words.takeWhile (· == 0)).length

/-- Where the first of the longest runs of zero words starts, and its length. -/
def longestZeroRun : List Nat → Nat × Nat
  | [] => (0, 0)
  | word :: words =>
    let here := zeroRun (word :: words)
    let later := longestZeroRun words
    if later.2 ≤ here then (0, here) else (later.1 + 1, later.2)

def renderWords (words : List Nat) : List Char :=
  ([':'] : List Char).intercalate (words.map (Nat.toDigits 16))

/-- A longest run of at least two zero words is written as a double colon. -/
def renderIpv6 (words : List Nat) : List Char :=
  let (start, length) := longestZeroRun words
  if length < 2 then renderWords words
  else renderWords (words.take start) ++ [':', ':'] ++ renderWords (words.drop (start + length))

def render : UrlHost → List Char
  | .name text => text.toList
  | .ipv4 address => renderIpv4 address
  | .ipv6 pieces => '[' :: (renderIpv6 pieces ++ [']'])

end UrlHost

end FeedHydration
