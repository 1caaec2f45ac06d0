import FeedHydration.Text.Search
import FeedHydration.Url.Percent

/-!
Tables of characters, as runs of code points in hexadecimal. `5F` is one character, `61-7A` all
characters from one to another, `101=131` every second one of them.
-/

namespace FeedHydration

/-- Code points from `first` to `last` at equal distances. -/
structure CharRun where
  first : Nat
  last : Nat
  step : Nat
deriving DecidableEq

namespace CharRun

def hexNumber (digits : List Char) : Nat :=
  digits.foldl (fun n c => n * 16 + (Percent.hexValue? c).getD 0) 0

def ofText (text : List Char) : CharRun :=
  match Text.cut '-' text, Text.cut '=' text with
  | (first, some last), _ => ⟨hexNumber first, hexNumber last, 1⟩
  | _, (first, some last) => ⟨hexNumber first, hexNumber last, 2⟩
  | _, _ => ⟨hexNumber text, hexNumber text, 1⟩

def contains (run : CharRun) (c : Char) : Bool :=
  run.first ≤ c.toNat && c.toNat ≤ run.last && (c.toNat - run.first) % run.step == 0

end CharRun

abbrev CharTable := List CharRun

namespace CharTable

/-- The runs of a line stand between blanks. -/
def ofLine (line : String) : CharTable :=
  ((Text.splitAll ' ' line.toList).filter (!·.isEmpty)).map CharRun.ofText

def ofLines (lines : List String) : CharTable :=
  lines.flatMap ofLine

def contains (table : CharTable) (c : Char) : Bool :=
  table.any (·.contains c)

end CharTable

end FeedHydration
