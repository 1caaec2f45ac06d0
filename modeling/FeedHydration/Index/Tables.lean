import FeedHydration.Index.Row
import FeedHydration.Label.Basic

/-!
The tables of the index and the questions they answer. A question names many ids at once; the answer
has the rows of those that exist, in the order of the ids. What depends on the viewer is worked out
from the graph when it is asked for.
-/

namespace FeedHydration

open Std (ExtTreeMap)

structure Tables where
  actors : ExtTreeMap Did ActorRow
  posts : ExtTreeMap AtUri PostRow
  reposts : ExtTreeMap AtUri RepostRow
  generators : ExtTreeMap AtUri GeneratorRow
  lists : ExtTreeMap AtUri ListRow
  labels : ExtTreeMap String (List Label)
  blocks : List GraphEdge
  follows : List GraphEdge
  mutes : List Mute
  subscriptions : List Subscription
  listItems : List ListItem
  likes : List Like

namespace Tables

def empty : Tables :=
  ⟨∅, ∅, ∅, ∅, ∅, ∅, [], [], [], [], [], []⟩

/-! ### Changes -/

def insertActor (t : Tables) (did : Did) (row : ActorRow) : Tables :=
  { t with actors := t.actors.insert did row }

def insertPost (t : Tables) (uri : AtUri) (row : PostRow) : Tables :=
  { t with posts := t.posts.insert uri row }

def removePost (t : Tables) (uri : AtUri) : Tables :=
  { t with posts := t.posts.erase uri }

def insertRepost (t : Tables) (uri : AtUri) (row : RepostRow) : Tables :=
  { t with reposts := t.reposts.insert uri row }

def insertGenerator (t : Tables) (uri : AtUri) (row : GeneratorRow) : Tables :=
  { t with generators := t.generators.insert uri row }

def insertList (t : Tables) (uri : AtUri) (row : ListRow) : Tables :=
  { t with lists := t.lists.insert uri row }

/-- A label stands behind the earlier ones of its subject. -/
def insertLabel (t : Tables) (label : Label) : Tables :=
  { t with labels := t.labels.insert label.uri (t.labels[label.uri]?.getD [] ++ [label]) }

def insertBlock (t : Tables) (edge : GraphEdge) : Tables :=
  { t with blocks := t.blocks ++ [edge] }

def insertFollow (t : Tables) (edge : GraphEdge) : Tables :=
  { t with follows := t.follows ++ [edge] }

def insertMute (t : Tables) (mute : Mute) : Tables :=
  { t with mutes := t.mutes ++ [mute] }

def insertSubscription (t : Tables) (subscription : Subscription) : Tables :=
  { t with subscriptions := t.subscriptions ++ [subscription] }

def insertListItem (t : Tables) (item : ListItem) : Tables :=
  { t with listItems := t.listItems ++ [item] }

def insertLike (t : Tables) (like : Like) : Tables :=
  { t with likes := t.likes ++ [like] }

/-! ### Questions -/

/-- The entries of a table under some ids, in the order of the ids. -/
def select [Ord κ] (table : ExtTreeMap κ ρ) (ids : List κ) [Std.TransOrd κ] : List (κ × ρ) :=
  ids.filterMap fun id => table[id]?.map (id, ·)

/-- The record by which the viewer likes a subject; of several, the first. -/
def viewerLike (t : Tables) (viewer : Option Did) (subject : AtUri) : Option AtUri :=
  viewer.bind fun viewer =>
    (t.likes.find? fun like => like.creator = viewer && like.subject = subject).map (·.uri)

/-- The record by which the viewer reposts a post; of several, the one with the least uri. -/
def viewerRepost (t : Tables) (viewer : Option Did) (subject : AtUri) : Option AtUri :=
  viewer.bind fun viewer =>
    (t.reposts.toList.find? fun entry =>
      entry.1.authority = viewer && entry.2.subject.uri = subject).map (·.1)

/-- Whether the viewer mutes everyone on a list. -/
def viewerMutes (t : Tables) (viewer : Option Did) (list : AtUri) : Bool :=
  viewer.any fun viewer =>
    t.subscriptions.any fun subscription =>
      subscription.subscriber = viewer && subscription.list = list

def selectActors (t : Tables) (dids : List Did) : List (Did × ActorRow) :=
  select t.actors dids

def selectPosts (t : Tables) (uris : List AtUri) (viewer : Option Did) : List (AtUri × PostRow) :=
  (select t.posts uris).map fun (uri, row) =>
    (uri, { row with
      viewerLike := t.viewerLike viewer uri
      viewerRepost := t.viewerRepost viewer uri })

def selectReposts (t : Tables) (uris : List AtUri) : List (AtUri × RepostRow) :=
  select t.reposts uris

def selectGenerators (t : Tables) (uris : List AtUri) (viewer : Option Did) :
    List (AtUri × GeneratorRow) :=
  (select t.generators uris).map fun (uri, row) =>
    (uri, { row with viewerLike := t.viewerLike viewer uri })

/-- Blocks by way of a list are not recorded. -/
def selectLists (t : Tables) (uris : List AtUri) (viewer : Option Did) : List (AtUri × ListRow) :=
  (select t.lists uris).map fun (uri, row) =>
    (uri, { row with viewerMuted := t.viewerMutes viewer uri, viewerBlocked := none })

def selectLabels (t : Tables) (subjects : List String) : ExtTreeMap String (List Label) :=
  ExtTreeMap.ofList (select t.labels subjects)

/-- Whether an edge joins the viewer and a subject, in either direction. -/
def joins (viewer : Did) (subjects : List Did) (edge : GraphEdge) : Bool :=
  (edge.creator = viewer && subjects.contains edge.subject) ||
    (edge.subject = viewer && subjects.contains edge.creator)

def blocksWith (t : Tables) (viewer : Did) (subjects : List Did) : List GraphEdge :=
  t.blocks.filter (joins viewer subjects)

def followsWith (t : Tables) (viewer : Did) (subjects : List Did) : List GraphEdge :=
  t.follows.filter (joins viewer subjects)

def mutedBy (t : Tables) (viewer : Did) (subjects : List Did) : List Did :=
  (t.mutes.filter fun mute =>
    mute.creator = viewer && subjects.contains mute.subject).map (·.subject)

/-- Subjects that stand on a list the viewer subscribes to, with the list. -/
def mutedByLists (t : Tables) (viewer : Did) (subjects : List Did) : List ListItem :=
  (t.subscriptions.filter (·.subscriber = viewer)).flatMap fun subscription =>
    t.listItems.filter fun item =>
      item.list = subscription.list && subjects.contains item.member

end Tables

end FeedHydration
