import FeedHydration.Url.Host
import FeedHydration.Url.Path

/-!
Absolute urls in normal form. `render` is the text of a url; `path` and `query` of a url can be
replaced, and are normalized in the way in which a reader normalizes them.
-/

namespace FeedHydration

structure Url where
  scheme : String
  userinfo : List Char
  host : Option UrlHost
  port : Option Nat
  /-- Whether `/.` stands between the scheme and the path. A url without a host is read so if its
  path starts with two slashes, and it stays so when the path is replaced. -/
  isGuarded : Bool
  path : UrlPath
  query : Option (List Char)
  fragment : Option (List Char)
deriving DecidableEq

namespace Url

def defaultPort? (scheme : String) : Option Nat :=
  [("http", 80), ("https", 443), ("ws", 80), ("wss", 443), ("ftp", 21)].lookup scheme

def kind (url : Url) : SchemeKind :=
  .ofScheme url.scheme

def renderAuthority (url : Url) : List Char :=
  match url.host with
  | some host =>
    let user := if url.userinfo.isEmpty then [] else url.userinfo ++ ['@']
    let port := url.port.elim [] (':' :: Nat.toDigits 10 ·)
    '/' :: '/' :: (user ++ host.render ++ port)
  | none => if url.isGuarded then ['/', '.'] else []

def render (url : Url) : List Char :=
  url.scheme.toList ++ ':' :: (url.renderAuthority ++ url.path.render ++
    url.query.elim [] ('?' :: ·) ++ url.fragment.elim [] ('#' :: ·))

def text (url : Url) : String :=
  String.ofList url.render

/-- Tabs and line ends are dropped wherever they stand. -/
def dropLineBreaks (text : List Char) : List Char :=
  text.filter fun c => c != '\t' && c != '\n' && c != '\r'

def encodeQuery (kind : SchemeKind) (text : List Char) : List Char :=
  let set := if kind.isSpecial then Percent.specialQuery else Percent.query
  Percent.encode set (dropLineBreaks text)

/-- Replaces the path; question marks and number signs in it are escaped. -/
def withPath (url : Url) (text : List Char) : Url :=
  let text := dropLineBreaks text
  match url.path with
  | .opaqueText _ =>
    match text with
    | '/' :: rest =>
      { url with path := .opaqueText ("%2F".toList ++ Percent.encode Percent.control rest) }
    | text => { url with path := .opaqueText (Percent.encode Percent.control text) }
  | .segments _ => { url with path := .ofText url.kind text }

/-- An opaque path must not end in blanks if nothing follows it. -/
def trimOpaqueEnd (url : Url) : Url :=
  match url.path, url.query, url.fragment with
  | .opaqueText text, none, none => { url with path := .opaqueText (Text.trimEnd ' ' text) }
  | _, _, _ => url

def withQuery (url : Url) (query : Option (List Char)) : Url :=
  trimOpaqueEnd { url with query := query.map (encodeQuery url.kind) }

def withoutFragment (url : Url) : Url :=
  { url with fragment := none }

end Url

end FeedHydration
