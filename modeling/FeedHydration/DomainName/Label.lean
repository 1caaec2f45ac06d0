import FeedHydration.DomainName.Composition
import FeedHydration.DomainName.Direction
import FeedHydration.DomainName.Joiner
import FeedHydration.DomainName.Mapping
import FeedHydration.DomainName.Punycode

/-!
Domain names and their labels. A label with characters beyond ASCII is written in Punycode after
`xn--`; a label that starts so stands for the one that was written, and that must be well-formed. A
name is mapped and composed before its labels are read.
-/

namespace FeedHydration.DomainName

/-- Starts a label that is written in Punycode. -/
def codeMark : List Char := "xn--".toList

/-- Longer codes are not read. -/
def maxCodeLength : Nat := 2000

/-- Longer labels are not written in Punycode. -/
def maxLabelLength : Nat := 1000

/-- Whether a label that is not ASCII may be written in Punycode. -/
def isWellFormed (label : List Char) : Bool :=
  label.all (fun c => isAscii c || permitted.contains c) && !label.head?.any isMark &&
    !codeMark.isPrefixOf label && isComposed label && areJoinersPlaced [] label &&
    label.length ≤ maxLabelLength

/-- The label that a label stands for; a code of ASCII characters only is none. -/
def readLabel? (label : List Char) : Option (List Char) :=
  match Text.stripStart? codeMark label with
  | none => if label.all isAscii || isWellFormed label then some label else none
  | some code => do
    guard (code.all isAscii && !code.isEmpty && code.getLast? != some '-' &&
      code.length ≤ maxCodeLength)
    let label ← Punycode.decode? code
    guard (isWellFormed label)
    some label

def writeLabel (label : List Char) : List Char :=
  if label.all isAscii then label else codeMark ++ Punycode.encode label

/-- A text of ASCII characters is composed. -/
def normalize (text : List Char) : List Char :=
  if text.all isAscii then text else compose (sortMarks (decompose text))

/-- A name in ASCII, if each label stands for one and their directions agree. -/
def toAscii? (name : List Char) : Option (List Char) := do
  let mapped ← map? name
  let labels := Text.splitAll '.' (normalize mapped)
  let read ← labels.mapM readLabel?
  guard (Direction.areUniform read)
  some (List.intercalate ['.'] (labels.map writeLabel))

end FeedHydration.DomainName
