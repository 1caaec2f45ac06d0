import FeedHydration.Label.Basic

/-!
Views of accounts: how a profile is shown, and how the account relates to the one who looks at it.
Flags that are not set, values that are absent and empty lists of labels are left out.
-/

namespace FeedHydration

/-- A list in short. -/
structure ListSummary where
  uri : AtUri
  cid : Cid
  name : String
  purpose : String
  avatar : Option String
  indexedAt : Option Instant
deriving DecidableEq

namespace ListSummary

def ofNode? (node : JsonNode) : Option ListSummary := do
  let r ← node.record? ["uri", "cid", "name", "purpose", "avatar", "indexedAt"]
  let uri ← r.required? "uri" AtUri.ofNode?
  let cid ← r.required? "cid" Cid.ofNode?
  let name ← r.required? "name" JsonNode.str?
  let purpose ← r.required? "purpose" JsonNode.str?
  let avatar ← r.trailing? "avatar" JsonNode.str?
  let indexedAt ← r.trailing? "indexedAt" Instant.ofNode?
  some ⟨uri, cid, name, purpose, avatar, indexedAt⟩

def toJson (view : ListSummary) : Json :=
  Json.record [
    ("uri", some view.uri.toJson),
    ("cid", some view.cid.toJson),
    ("name", some (.str view.name)),
    ("purpose", some (.str view.purpose)),
    ("avatar", view.avatar.map .str),
    ("indexedAt", view.indexedAt.map Instant.toJson)]

end ListSummary

/-- What the viewer and an account are to each other. -/
structure ProfileViewer where
  muted : Bool
  mutedByList : Option ListSummary
  blockedBy : Bool
  blocking : Option AtUri
  following : Option AtUri
  followedBy : Option AtUri
deriving DecidableEq

namespace ProfileViewer

def ofNode? (node : JsonNode) : Option ProfileViewer := do
  let r ← node.record?
    ["muted", "mutedByList", "blockedBy", "blocking", "following", "followedBy"]
  let muted ← r.defaulted? "muted" JsonNode.bool? false
  let mutedByList ← r.trailing? "mutedByList" ListSummary.ofNode?
  let blockedBy ← r.defaulted? "blockedBy" JsonNode.bool? false
  let blocking ← r.trailing? "blocking" AtUri.ofNode?
  let following ← r.trailing? "following" AtUri.ofNode?
  let followedBy ← r.trailing? "followedBy" AtUri.ofNode?
  some ⟨muted, mutedByList, blockedBy, blocking, following, followedBy⟩

def toJson (view : ProfileViewer) : Json :=
  Json.record [
    ("muted", Json.flag? view.muted),
    ("mutedByList", view.mutedByList.map ListSummary.toJson),
    ("blockedBy", Json.flag? view.blockedBy),
    ("blocking", view.blocking.map AtUri.toJson),
    ("following", view.following.map AtUri.toJson),
    ("followedBy", view.followedBy.map AtUri.toJson)]

end ProfileViewer

structure ProfileView where
  did : Did
  handle : String
  displayName : Option String
  avatar : Option String
  viewer : Option ProfileViewer
  labels : List Label
deriving DecidableEq

namespace ProfileView

def ofNode? (node : JsonNode) : Option ProfileView := do
  let r ← node.record? ["did", "handle", "displayName", "avatar", "viewer", "labels"]
  let did ← r.required? "did" Did.ofNode?
  let handle ← r.required? "handle" JsonNode.str?
  let displayName ← r.trailing? "displayName" JsonNode.str?
  let avatar ← r.trailing? "avatar" JsonNode.str?
  let viewer ← r.trailing? "viewer" ProfileViewer.ofNode?
  let labels ← r.defaulted? "labels" (JsonNode.list? Label.ofNode?) []
  some ⟨did, handle, displayName, avatar, viewer, labels⟩

def toJson (view : ProfileView) : Json :=
  Json.record [
    ("did", some view.did.toJson),
    ("handle", some (.str view.handle)),
    ("displayName", view.displayName.map .str),
    ("avatar", view.avatar.map .str),
    ("viewer", view.viewer.map ProfileViewer.toJson),
    ("labels", Json.items? Label.toJson view.labels)]

end ProfileView

/-- The author of a record that is not shown because of a block. -/
structure BlockedAuthor where
  did : Did
  viewer : Option ProfileViewer
deriving DecidableEq

namespace BlockedAuthor

def ofNode? (node : JsonNode) : Option BlockedAuthor := do
  let r ← node.record? ["did", "viewer"]
  let did ← r.required? "did" Did.ofNode?
  let viewer ← r.trailing? "viewer" ProfileViewer.ofNode?
  some ⟨did, viewer⟩

def toJson (view : BlockedAuthor) : Json :=
  Json.record [
    ("did", some view.did.toJson),
    ("viewer", view.viewer.map ProfileViewer.toJson)]

end BlockedAuthor

end FeedHydration
