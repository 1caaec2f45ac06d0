import FeedHydration.Text.Search
import FeedHydration.Url.Percent

/-!
Paths of urls. A path is read segment by segment: dots are resolved on the way, and a drive, such as
`C:`, is never removed by a double dot. What else is done depends on the family of the scheme.
-/

namespace FeedHydration

/-- Families of schemes: files, the special schemes of the web, and all others. -/
inductive SchemeKind where
  | file
  | web
  | other
deriving DecidableEq

namespace SchemeKind

def ofScheme (scheme : String) : SchemeKind :=
  if scheme = "file" then .file
  else if ["http", "https", "ws", "wss", "ftp"].contains scheme then .web
  else .other

/-- Special schemes take a backslash for a slash, and always have a path. -/
def isSpecial (kind : SchemeKind) : Bool :=
  kind != .other

end SchemeKind

inductive UrlPath where
  | opaqueText (text : List Char)
  | segments (list : List (List Char))
deriving DecidableEq

namespace UrlPath

def render : UrlPath → List Char
  | .opaqueText text => text
  | .segments list => list.flatMap ('/' :: ·)

def isSingleDot (segment : List Char) : Bool :=
  [".", "%2e"].any (·.toList == segment.map Char.toLower)

def isDoubleDot (segment : List Char) : Bool :=
  ["..", ".%2e", "%2e.", "%2e%2e"].any (·.toList == segment.map Char.toLower)

/-- A letter before a colon or a bar. -/
def isDrive : List Char → Bool
  | [letter, mark] => letter.isAlpha && (mark == ':' || mark == '|')
  | _ => false

/-- A segment that a double dot does not remove, in a path of any scheme. -/
def isAnchor (segment : List Char) : Bool :=
  isDrive (segment.takeWhile (· != '\\'))

/-- The path without its last segment, both backwards. -/
def parent : List (List Char) → List (List Char)
  | [] => []
  | segment :: done => if isAnchor segment then segment :: done else done

/-- A drive at the start of a file's path is written with a colon. -/
def normalizeDrive (kind : SchemeKind) (done : List (List Char)) (segment : List Char) :
    List Char :=
  if kind = .file ∧ done = [] ∧ isDrive segment then segment.take 1 ++ [':'] else segment

/-- Adds a segment to the path before it, which is kept backwards. At the end of a path, dots leave
an empty segment. -/
def addSegment (kind : SchemeKind) (done : List (List Char)) (segment : List Char)
    (isLast : Bool) : List (List Char) :=
  if isDoubleDot segment then if isLast then [] :: parent done else parent done
  else if isSingleDot segment then if isLast then [] :: done else done
  else normalizeDrive kind done segment :: done

def addSegments (kind : SchemeKind) (done : List (List Char)) :
    List (List Char) → List (List Char)
  | [] => done
  | [segment] => addSegment kind done segment true
  | segment :: rest => addSegments kind (addSegment kind done segment false) rest

/-- The segments of a text that follows the slash at the start of a path. -/
def readSegments (kind : SchemeKind) (text : List Char) : List (List Char) :=
  let text := if kind.isSpecial then text.map (fun c => if c = '\\' then '/' else c) else text
  let pieces := (Text.splitAll '/' text).map (Percent.encode Percent.path)
  (addSegments kind [] pieces).reverse

/-- Empty segments at the start are dropped, but a path keeps its slash. -/
def dropLeadingEmpty (list : List (List Char)) : List (List Char) :=
  match list.dropWhile List.isEmpty with
  | [] => [[]]
  | list => list

/-- The path of the segments that were read; a file's path starts with one slash only. -/
def ofSegments (kind : SchemeKind) (list : List (List Char)) : UrlPath :=
  .segments (if kind = .file then dropLeadingEmpty list else list)

/-- A text without the slash that it may start with. -/
def dropSlash (kind : SchemeKind) : List Char → List Char
  | '/' :: rest => rest
  | '\\' :: rest => if kind.isSpecial then rest else '\\' :: rest
  | text => text

/-- The path that a text gives. An empty text is a path for special schemes only. -/
def ofText (kind : SchemeKind) (text : List Char) : UrlPath :=
  if text.isEmpty && !kind.isSpecial then .segments []
  else ofSegments kind (readSegments kind (dropSlash kind text))

end UrlPath

end FeedHydration
