import FeedHydration.Json.Basic
import FeedHydration.Number.Shortest

/-!
JSON text without blanks. Control characters, quotes and backslashes are escaped; all other
characters stand for themselves.
-/

namespace FeedHydration

def JsonNumber.render : JsonNumber → List Char
  | .int n => (toString n).toList
  | .real x => x.render

namespace Json

def hexDigit (n : Nat) : Char :=
  if n < 10 then Char.ofNat ('0'.toNat + n) else Char.ofNat ('a'.toNat + (n - 10))

def escapeChar (c : Char) : List Char :=
  if c = '"' then ['\\', '"']
  else if c = '\\' then ['\\', '\\']
  else if c = '\n' then ['\\', 'n']
  else if c = '\r' then ['\\', 'r']
  else if c = '\t' then ['\\', 't']
  else if c = '\x08' then ['\\', 'b']
  else if c = '\x0c' then ['\\', 'f']
  else if c.toNat < 0x20 then
    ['\\', 'u', '0', '0', hexDigit (c.toNat / 16), hexDigit (c.toNat % 16)]
  else [c]

def quote (text : List Char) : List Char :=
  '"' :: (text.flatMap escapeChar ++ ['"'])

mutual

def render : Json → List Char
  | .null => "null".toList
  | .bool true => "true".toList
  | .bool false => "false".toList
  | .num n => n.render
  | .str s => quote s.toList
  | .arr items => '[' :: (renderItems items ++ [']'])
  | .obj members => '{' :: (renderMembers members ++ ['}'])

def renderItems : List Json → List Char
  | [] => []
  | [item] => render item
  | item :: next :: items => render item ++ ',' :: renderItems (next :: items)

def renderMembers : List (String × Json) → List Char
  | [] => []
  | [(name, item)] => quote name.toList ++ ':' :: render item
  | (name, item) :: next :: members =>
    quote name.toList ++ ':' :: (render item ++ ',' :: renderMembers (next :: members))

end

def text (value : Json) : String :=
  String.ofList value.render

end Json

end FeedHydration
