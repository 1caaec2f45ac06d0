import FeedHydration.Hydration.Entity
import FeedHydration.Label.Set
import FeedHydration.Text.Utf8

/-!
Loading entities by their ids. Each load asks for the distinct ids at once, asks nothing if there
are none, and gives the entities that may be shown, by id.
-/

namespace FeedHydration.Fetch

open Std (ExtTreeMap ExtTreeSet)

/-- The accounts among some that may be shown. -/
def visibleAccounts (dids : List Did) : Fetch (ExtTreeSet Did) := do
  let dids := distinct dids
  if dids.isEmpty then return ∅
  let rows ← actors dids
  return ExtTreeSet.ofList ((rows.filter (·.2.isVisible)).map (·.1))

/-- Of the rows that are not taken down, those whose owner may be shown. -/
def visibleRows (rows : List (AtUri × ρ)) (takenDown : ρ → Bool) :
    Fetch (List (AtUri × ρ)) := do
  let rows := rows.filter (!takenDown ·.2)
  let owners ← visibleAccounts (rows.map (·.1.authority))
  return rows.filter (owners.contains ·.1.authority)

def loadPosts (uris : List AtUri) (viewer : Option Did) : Fetch (ExtTreeMap AtUri Post) := do
  let uris := distinct uris
  if uris.isEmpty then return ∅
  let rows ← visibleRows (← posts uris viewer) (·.takenDown)
  return ExtTreeMap.ofList (rows.map fun (uri, row) => (uri, Post.ofRow uri row))

def loadReposts (uris : List AtUri) : Fetch (ExtTreeMap AtUri Repost) := do
  let uris := distinct uris
  if uris.isEmpty then return ∅
  let rows ← reposts uris
  return ExtTreeMap.ofList (rows.map fun (uri, row) => (uri, Repost.ofRow uri row))

def loadGenerators (uris : List AtUri) (viewer : Option Did) :
    Fetch (ExtTreeMap AtUri Generator) := do
  let uris := distinct uris
  if uris.isEmpty then return ∅
  let rows ← visibleRows (← generators uris viewer) (·.takenDown)
  return ExtTreeMap.ofList (rows.map fun (uri, row) => (uri, Generator.ofRow uri row))

def loadLists (uris : List AtUri) (viewer : Option Did) :
    Fetch (ExtTreeMap AtUri AccountList) := do
  let uris := distinct uris
  if uris.isEmpty then return ∅
  let rows ← visibleRows (← lists uris viewer) (·.takenDown)
  return ExtTreeMap.ofList (rows.map fun (uri, row) => (uri, AccountList.ofRow uri row))

/-- The settled labels of some subjects. -/
def labelSet (subjects : List String) : Fetch LabelSet := do
  if subjects.isEmpty then return LabelSet.empty
  let raw ← labels (distinct subjects)
  return LabelSet.ofRaw raw (ExtTreeSet.ofList subjects) (← clock)

/-- Whether the labels of accounts are loaded with them or kept apart. -/
inductive LabelMode where
  | withLabels
  | withoutLabels
deriving DecidableEq

/-- The labels that a load of accounts brings along. -/
def actorLabels (mode : LabelMode) (dids : List Did) : Fetch (Option LabelSet) :=
  match mode with
  | .withLabels => some <$> labelSet (dids.map (·.text))
  | .withoutLabels => pure none

/-- An account as it is shown; a display name is cut to some bytes. -/
def actorOf (nameBytes : Nat) (relationships : ExtTreeMap Did Relationship)
    (mutingLists : ExtTreeMap AtUri AccountList) (labels : Option LabelSet) (did : Did)
    (row : ActorRow) : Actor where
  did := did
  handle := row.handle.getD Actor.invalidHandle
  displayName := row.displayName.map (truncateText · nameBytes)
  description := row.description
  avatar := row.avatar
  indexedAt := row.indexedAt
  relationship := relationships[did]?
  mutedByList := do mutingLists[← (← relationships[did]?).mutedByList]?
  labels := labels.map (·.get did.text)

/-- Accounts with their relationship to the viewer, and the list through which they are muted. -/
def loadActors (nameBytes : Nat) (dids : List Did) (viewer : Option Did) (mode : LabelMode) :
    Fetch (ExtTreeMap Did Actor) := do
  let dids := distinct dids
  if dids.isEmpty then return ∅
  let rows ← actors dids
  let relationships ← relationships dids viewer
  let labels ← actorLabels mode dids
  let mutingLists ← loadLists (relationships.values.filterMap (·.mutedByList)) viewer
  return ExtTreeMap.ofList ((rows.filter (·.2.isVisible)).map fun (did, row) =>
    (did, actorOf nameBytes relationships mutingLists labels did row))

end FeedHydration.Fetch
