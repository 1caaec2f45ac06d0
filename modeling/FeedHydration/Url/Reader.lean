import FeedHydration.Url.Basic

/-!
Reading absolute urls. Blanks and control characters around the text are dropped, tabs and line
ends everywhere; the scheme settles how the rest is taken apart.
-/

namespace FeedHydration.Url

def isEdge (c : Char) : Bool := c.toNat ≤ 0x20

def trimEdges (text : List Char) : List Char :=
  ((text.dropWhile isEdge).reverse.dropWhile isEdge).reverse

def isSchemeChar (c : Char) : Bool :=
  c.isAlphanum || c == '+' || c == '-' || c == '.'

/-- The scheme in lower case, and what follows its colon. -/
def scheme? (text : List Char) : Option (String × List Char) :=
  match text.span isSchemeChar with
  | (c :: name, ':' :: rest) =>
    if c.isAlpha then some (String.ofList ((c :: name).map Char.toLower), rest) else none
  | _ => none

def isSlash (c : Char) : Bool := c == '/' || c == '\\'

/-- Ends the authority. -/
def isPathStart (kind : SchemeKind) (c : Char) : Bool :=
  c == '/' || c == '?' || c == '#' || (kind.isSpecial && c == '\\')

/-- Splits at the last `@`. -/
def splitUserinfo (authority : List Char) : Option (List Char) × List Char :=
  match (Text.splitAll '@' authority).reverse with
  | host :: part :: parts => (some (['@'].intercalate (part :: parts).reverse), host)
  | _ => (none, authority)

/-- A name, and after the first colon a password, unless it is empty. -/
def encodeUserinfo (text : List Char) : List Char :=
  match Text.cut ':' text with
  | (user, some (c :: password)) =>
    Percent.encode Percent.userinfo user ++ ':' :: Percent.encode Percent.userinfo (c :: password)
  | (user, _) => Percent.encode Percent.userinfo user

/-- The host ends at the first colon outside of brackets. -/
def splitHost : Bool → List Char → List Char × List Char
  | _, [] => ([], [])
  | inBrackets, c :: rest =>
    if c = ':' ∧ inBrackets = false then ([], c :: rest)
    else
      let next := splitHost (if c = '[' then true else if c = ']' then false else inBrackets) rest
      (c :: next.1, next.2)

/-- A port is at most 65535; the default port of the scheme is dropped. A backslash ends a port,
whatever the scheme; it comes back with what follows it. -/
def port? (scheme : String) (text : List Char) : Option (Option Nat × List Char) :=
  let (digits, rest) := text.span Char.isDigit
  let value := digits.foldl (fun n c => n * 10 + (c.toNat - '0'.toNat)) 0
  if 65535 < value || !rest.head?.all (· == '\\') then none
  else if digits.isEmpty || defaultPort? scheme = some value then some (none, rest)
  else some (some value, rest)

structure Authority where
  userinfo : List Char
  host : UrlHost
  port : Option Nat

/-- The authority at the start of a text, and the path after it. A host may be empty for other
schemes only, and then neither a user nor a port may be written; a lone `@` writes nothing, but
nothing may follow it. -/
def authority? (scheme : String) (text : List Char) : Option (Authority × List Char) := do
  let kind := SchemeKind.ofScheme scheme
  let (text, rest) := text.span (fun c => !isPathStart kind c)
  guard (!(text == ['@'] && !rest.isEmpty))
  let (userText, text) := splitUserinfo text
  let userinfo := encodeUserinfo (userText.getD [])
  let (hostText, portText) := splitHost false text
  guard (!(hostText.isEmpty && (kind.isSpecial || !userinfo.isEmpty || !portText.isEmpty)))
  let host ← if kind.isSpecial then UrlHost.ofDomain? hostText else UrlHost.ofOpaque? hostText
  let (port, path) ← port? scheme (portText.drop 1)
  some (⟨userinfo, host, port⟩, path ++ rest)

/-- Splits the query and the fragment off. -/
def splitSuffixes (text : List Char) : List Char × Option (List Char) × Option (List Char) :=
  let (text, fragment) := Text.cut '#' text
  let (path, query) := Text.cut '?' text
  (path, query, fragment)

/-- Whether a path would be taken for a host if it followed the scheme. -/
def needsGuard : UrlPath → Bool
  | .segments ([] :: _ :: _) => true
  | _ => false

def build (scheme : String) (authority : Option Authority) (path : UrlPath)
    (query fragment : Option (List Char)) : Url where
  scheme := scheme
  userinfo := authority.elim [] (·.userinfo)
  host := authority.map (·.host)
  port := authority.bind (·.port)
  isGuarded := authority.isNone && needsGuard path
  path := path
  query := query.map (encodeQuery (.ofScheme scheme))
  fragment := fragment.map (Percent.encode Percent.fragment)

def withAuthority? (scheme : String) (text : List Char) : Option Url := do
  let (authority, rest) ← authority? scheme text
  let (pathText, query, fragment) := splitSuffixes rest
  some (build scheme (some authority) (.ofText (.ofScheme scheme) pathText) query fragment)

def withoutAuthority (scheme : String) (rest : List Char) : Url :=
  let (pathText, query, fragment) := splitSuffixes rest
  match pathText with
  | '/' :: _ => build scheme none (.ofText .other pathText) query fragment
  | _ =>
    build scheme none (.opaqueText (Percent.encode Percent.control pathText)) query fragment

def buildFile (host : UrlHost) (list : List (List Char)) (query fragment : Option (List Char)) :
    Url :=
  build "file" (some ⟨[], host, none⟩) (.ofSegments .file list) query fragment

/-- A file without a host. A slash at the start of the text comes after that of the path. -/
def localFile (text : List Char) : Url :=
  let (pathText, query, fragment) := splitSuffixes text
  buildFile (.name "") (UrlPath.readSegments .file pathText) query fragment

/-- A path that starts with a drive belongs to no host. -/
def hostedFile (host : UrlHost) (text : List Char) : Url :=
  let (pathText, query, fragment) := splitSuffixes text
  let list := UrlPath.readSegments .file (UrlPath.dropSlash .file pathText)
  let host := if list.head?.any UrlPath.isDrive then .name "" else host
  buildFile host list query fragment

/-- What follows the two slashes of a file: a path right away if it starts with a drive, else a
host, which may be missing; `localhost` counts as missing. -/
def fileWithHost? (text : List Char) : Option Url := do
  let (hostText, rest) := text.span (fun c => !isPathStart .file c)
  if UrlPath.isDrive hostText then some (localFile text)
  else if hostText.isEmpty then some (localFile rest)
  else
    let host ← UrlHost.ofDomain? hostText
    some (if host = .name "localhost" then localFile rest else hostedFile host rest)

/-- Fewer than two slashes do not announce a host. -/
def file? (rest : List Char) : Option Url :=
  if 2 ≤ (rest.takeWhile isSlash).length then fileWithHost? (rest.drop 2)
  else some (localFile (rest.dropWhile isSlash))

def parse? (s : String) : Option Url := do
  let (scheme, rest) ← scheme? (dropLineBreaks (trimEdges s.toList))
  match SchemeKind.ofScheme scheme with
  | .file => file? rest
  | .web => withAuthority? scheme (rest.dropWhile isSlash)
  | .other =>
    match rest with
    | '/' :: '/' :: rest => withAuthority? scheme rest
    | rest => some (withoutAuthority scheme rest)

end FeedHydration.Url
