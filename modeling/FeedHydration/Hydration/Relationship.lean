import FeedHydration.Distinct
import FeedHydration.Index.Fetch

/-!
How accounts relate to the viewer: blocks and follows in both directions, mutes, and mutes by way of
a list. The relationships of many accounts are worked out from four reads.
-/

namespace FeedHydration

open Std (ExtTreeMap)

/-- `blocking`, `following` and `followedBy` are records that say so; `mutedByList` is a list. -/
structure Relationship where
  blocking : Option AtUri
  blockedBy : Bool
  following : Option AtUri
  followedBy : Option AtUri
  muted : Bool
  mutedByList : Option AtUri
deriving DecidableEq

/-- The rows that were read about a viewer and some accounts. -/
structure GraphRows where
  blocks : List GraphEdge
  follows : List GraphEdge
  mutes : List Did
  listMutes : List ListItem

namespace GraphRows

/-- The record that leads from one account to another; of several, the last. -/
def edge? (edges : List GraphEdge) (creator subject : Did) : Option AtUri :=
  ((edges.filter fun edge => edge.creator = creator && edge.subject = subject).getLast?).map (·.uri)

/-- The list through which an account is muted; of several, the one with the least uri. -/
def mutingList? (rows : GraphRows) (did : Did) : Option AtUri :=
  (distinct ((rows.listMutes.filter (·.member = did)).map (·.list))).head?

end GraphRows

namespace Relationship

/-- Nothing is known, or the account is the viewer's own. -/
def none : Relationship :=
  ⟨Option.none, false, Option.none, Option.none, false, Option.none⟩

/-- A block in either direction. -/
def hasBlock (r : Relationship) : Bool :=
  r.blocking.isSome || r.blockedBy

/-- Muted directly or through a list. -/
def isMuted (r : Relationship) : Bool :=
  r.muted || r.mutedByList.isSome

def ofRows (rows : GraphRows) (viewer did : Did) : Relationship where
  blocking := GraphRows.edge? rows.blocks viewer did
  blockedBy := (GraphRows.edge? rows.blocks did viewer).isSome
  following := GraphRows.edge? rows.follows viewer did
  followedBy := GraphRows.edge? rows.follows did viewer
  muted := rows.mutes.contains did
  mutedByList := rows.mutingList? did

end Relationship

namespace Fetch

/-- Everything the graph says about the viewer and the subjects. -/
def graphRows (viewer : Did) (subjects : List Did) : Fetch GraphRows := do
  let blocks ← blocks viewer subjects
  let follows ← follows viewer subjects
  let mutes ← mutes viewer subjects
  let listMutes ← listMutes viewer subjects
  return ⟨blocks, follows, mutes, listMutes⟩

/-- The relationship of each account to the viewer; no account has one if there is no viewer. The
viewer's own account needs no reads. -/
def relationships (dids : List Did) (viewer : Option Did) :
    Fetch (ExtTreeMap Did Relationship) := do
  match viewer with
  | none => return ∅
  | some viewer =>
    let subjects := distinct (dids.filter (· ≠ viewer))
    if subjects.isEmpty then
      return ExtTreeMap.ofList (dids.map (·, Relationship.none))
    else
      let rows ← graphRows viewer subjects
      return ExtTreeMap.ofList (dids.map fun did =>
        (did, if did = viewer then Relationship.none else Relationship.ofRows rows viewer did))

end Fetch

end FeedHydration
