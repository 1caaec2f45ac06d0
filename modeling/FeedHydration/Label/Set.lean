import FeedHydration.Distinct
import FeedHydration.Label.Basic
import Std.Data.ExtTreeMap

/-!
The labels of many subjects, read at one time. A set knows which subjects were asked for, so that a
subject without labels is told apart from one that was never looked at.
-/

namespace FeedHydration

open Std (ExtTreeMap ExtTreeSet)

namespace Label

/-- Whether a label is one that a negation speaks of: same labeler, same value. -/
def isNegatedBy (label negation : Label) : Bool :=
  label.val == negation.val && label.src == negation.src

/-- A negation takes back what stands before it; any other label is added. -/
def settleStep (kept : List Label) (label : Label) : List Label :=
  if label.neg then kept.filter (!·.isNegatedBy label) else kept ++ [label]

/-- The labels that have an effect, in the order of their creation. An expired label neither has an
effect nor takes one back. -/
def settle (labels : List Label) (now : Instant) : List Label :=
  ((labels.mergeSort (·.cts ≤ ·.cts)).filter (!·.isExpired now)).foldl settleStep []

end Label

structure LabelSet where
  labels : ExtTreeMap String (List Label)
  fetched : ExtTreeSet String
deriving DecidableEq

namespace LabelSet

def empty : LabelSet := ⟨∅, ∅⟩

/-- The settled labels of the subjects asked for. -/
def ofRaw (raw : ExtTreeMap String (List Label)) (fetched : ExtTreeSet String) (now : Instant) :
    LabelSet :=
  ⟨raw.filterMap fun subject labels =>
      if fetched.contains subject then
        some (Label.settle labels now) |>.filter (!·.isEmpty)
      else none,
    fetched⟩

/-- The labels of a subject; none if it was never asked for. -/
def get (set : LabelSet) (subject : String) : List Label :=
  set.labels[subject]?.getD []

def covers (set : LabelSet) (subject : String) : Bool :=
  set.fetched.contains subject

/-- The candidates that were not asked for yet. -/
def missing (set : LabelSet) (candidates : List String) : List String :=
  distinct (candidates.filter (!set.covers ·))

/-- Both sets in one; where both have labels of a subject, those of the first stand. -/
def merged (set other : LabelSet) : LabelSet :=
  ⟨other.labels ∪ set.labels, set.fetched ∪ other.fetched⟩

/-- How many subjects have labels. -/
def size (set : LabelSet) : Nat :=
  set.labels.size

def isEmpty (set : LabelSet) : Bool :=
  set.labels.isEmpty

end LabelSet

end FeedHydration
