import FeedHydration.Hydration.Load

/-!
# What may be seen

What the index has to say about one account or one record, looked at by itself: whether it may be
shown, and what a viewer sees of it. No other id and no batch plays a part. The loads of a request
are measured against these definitions.
-/

namespace FeedHydration

open Std (ExtTreeMap)

namespace Tables

/-! ### Records -/

/-- Whether an account may be shown. -/
def isLive (t : Tables) (did : Did) : Bool :=
  t.actors[did]?.any (·.isVisible)

/-- The row of a record that may be shown: it is not taken down, and neither is its owner. -/
def visible? {ρ : Type} (t : Tables) (table : ExtTreeMap AtUri ρ) (takenDown : ρ → Bool)
    (uri : AtUri) : Option ρ :=
  table[uri]?.filter fun row => !takenDown row && t.isLive uri.authority

def post? (t : Tables) (viewer : Option Did) (uri : AtUri) : Option Post :=
  (t.visible? t.posts (·.takenDown) uri).map fun row =>
    Post.ofRow uri { row with
      viewerLike := t.viewerLike viewer uri
      viewerRepost := t.viewerRepost viewer uri }

def generator? (t : Tables) (viewer : Option Did) (uri : AtUri) : Option Generator :=
  (t.visible? t.generators (·.takenDown) uri).map fun row =>
    Generator.ofRow uri { row with viewerLike := t.viewerLike viewer uri }

def list? (t : Tables) (viewer : Option Did) (uri : AtUri) : Option AccountList :=
  (t.visible? t.lists (·.takenDown) uri).map fun row =>
    AccountList.ofRow uri { row with
      viewerMuted := t.viewerMutes viewer uri
      viewerBlocked := none }

/-- Reposts are not moderated. -/
def repost? (t : Tables) (uri : AtUri) : Option Repost :=
  t.reposts[uri]?.map (Repost.ofRow uri)

theorem visible?_eq_some_iff {ρ : Type} {t : Tables} {table : ExtTreeMap AtUri ρ}
    {takenDown : ρ → Bool} {uri : AtUri} {row : ρ} :
    t.visible? table takenDown uri = some row ↔
      table[uri]? = some row ∧ takenDown row = false ∧ t.isLive uri.authority = true := by
  simp [visible?, Option.filter_eq_some_iff]

/-- An account that is there: it has a row, which is neither taken down nor deleted. -/
def HasAccount (t : Tables) (did : Did) : Prop :=
  ∃ row, t.actors[did]? = some row ∧ row.takenDown = false ∧ row.softDeleted = false

/-- A record that stands: its row is not taken down, and its owner is there. -/
def HasRecord {ρ : Type} (t : Tables) (table : ExtTreeMap AtUri ρ) (takenDown : ρ → Bool)
    (uri : AtUri) : Prop :=
  ∃ row, table[uri]? = some row ∧ takenDown row = false ∧ t.HasAccount uri.authority

theorem isLive_iff {t : Tables} {did : Did} : t.isLive did = true ↔ t.HasAccount did := by
  simp [isLive, HasAccount, ActorRow.isVisible, Option.any_eq_true]

/-- Exactly the records that stand become entities. -/
theorem exists_map_visible?_iff {ρ ε : Type} {t : Tables} {table : ExtTreeMap AtUri ρ}
    {takenDown : ρ → Bool} {uri : AtUri} {entity : ρ → ε} :
    (∃ e, (t.visible? table takenDown uri).map entity = some e) ↔
      t.HasRecord table takenDown uri := by
  simp only [Option.map_eq_some_iff, visible?_eq_some_iff, isLive_iff]
  constructor
  · rintro ⟨_, row, hrow, -⟩
    exact ⟨row, hrow⟩
  · rintro ⟨row, hrow⟩
    exact ⟨entity row, row, hrow, rfl⟩

theorem HasRecord.owner {ρ : Type} {t : Tables} {table : ExtTreeMap AtUri ρ}
    {takenDown : ρ → Bool} {uri : AtUri} (h : t.HasRecord table takenDown uri) :
    t.HasAccount uri.authority := by
  obtain ⟨row, -, -, howner⟩ := h
  exact howner

section Absent

variable {t : Tables} {viewer : Option Did} {uri : AtUri}

theorem post?_of_none (h : t.posts[uri]? = none) : t.post? viewer uri = none := by
  rw [post?, visible?, h]
  rfl

theorem generator?_of_none (h : t.generators[uri]? = none) : t.generator? viewer uri = none := by
  rw [generator?, visible?, h]
  rfl

theorem list?_of_none (h : t.lists[uri]? = none) : t.list? viewer uri = none := by
  rw [list?, visible?, h]
  rfl

theorem repost?_of_none (h : t.reposts[uri]? = none) : t.repost? uri = none := by
  rw [repost?, h]
  rfl

end Absent

theorem uri_of_post? {t : Tables} {viewer : Option Did} {uri : AtUri} {post : Post}
    (h : t.post? viewer uri = some post) : post.uri = uri := by
  obtain ⟨row, -, rfl⟩ := Option.map_eq_some_iff.1 h
  rfl

theorem author_of_post? {t : Tables} {viewer : Option Did} {uri : AtUri} {post : Post}
    (h : t.post? viewer uri = some post) : post.author = uri.authority := by
  obtain ⟨row, -, rfl⟩ := Option.map_eq_some_iff.1 h
  rfl

theorem uri_of_generator? {t : Tables} {viewer : Option Did} {uri : AtUri} {generator : Generator}
    (h : t.generator? viewer uri = some generator) : generator.uri = uri := by
  obtain ⟨row, -, rfl⟩ := Option.map_eq_some_iff.1 h
  rfl

theorem creator_of_generator? {t : Tables} {viewer : Option Did} {uri : AtUri}
    {generator : Generator} (h : t.generator? viewer uri = some generator) :
    generator.creator = uri.authority := by
  obtain ⟨row, -, rfl⟩ := Option.map_eq_some_iff.1 h
  rfl

theorem uri_of_list? {t : Tables} {viewer : Option Did} {uri : AtUri} {list : AccountList}
    (h : t.list? viewer uri = some list) : list.uri = uri := by
  obtain ⟨row, -, rfl⟩ := Option.map_eq_some_iff.1 h
  rfl

theorem creator_of_list? {t : Tables} {viewer : Option Did} {uri : AtUri} {list : AccountList}
    (h : t.list? viewer uri = some list) : list.creator = uri.authority := by
  obtain ⟨row, -, rfl⟩ := Option.map_eq_some_iff.1 h
  rfl

/-! ### The graph -/

/-- The lists that the viewer subscribes to and on which an account stands. -/
def mutingLists (t : Tables) (viewer did : Did) : List AtUri :=
  (t.subscriptions.filter fun subscription =>
    subscription.subscriber = viewer && t.listItems.contains ⟨subscription.list, did⟩).map (·.list)

/-- What an account is to the viewer; to itself, nothing. -/
def relationship (t : Tables) (viewer did : Did) : Relationship :=
  if did = viewer then Relationship.none
  else {
    blocking := GraphRows.edge? t.blocks viewer did
    blockedBy := (GraphRows.edge? t.blocks did viewer).isSome
    following := GraphRows.edge? t.follows viewer did
    followedBy := GraphRows.edge? t.follows did viewer
    muted := t.mutes.contains ⟨viewer, did⟩
    mutedByList := (distinct (t.mutingLists viewer did)).head? }

def relationship? (t : Tables) (viewer : Option Did) (did : Did) : Option Relationship :=
  viewer.map (t.relationship · did)

/-- The list through which the viewer mutes an account, if that list may be shown. -/
def mutingList? (t : Tables) (viewer : Option Did) (did : Did) : Option AccountList := do
  t.list? viewer (← (← t.relationship? viewer did).mutedByList)

end Tables

namespace Index

/-- The labels of a subject that are in effect. -/
def labelsOf (index : Index) (subject : String) : List Label :=
  Label.settle (index.tables.labels[subject]?.getD []) index.clock

def actorLabels (index : Index) (mode : Fetch.LabelMode) (did : Did) : Option (List Label) :=
  match mode with
  | .withLabels => some (index.labelsOf did.text)
  | .withoutLabels => none

/-- An account as the viewer sees it, if it may be shown. -/
def actor? (index : Index) (nameBytes : Nat) (viewer : Option Did) (mode : Fetch.LabelMode)
    (did : Did) : Option Actor :=
  (index.tables.actors[did]?.filter (·.isVisible)).map fun row =>
    { Fetch.actorOf nameBytes ∅ ∅ none did row with
      relationship := index.tables.relationship? viewer did
      mutedByList := index.tables.mutingList? viewer did
      labels := index.actorLabels mode did }

section Actor

variable {index : Index} {nameBytes : Nat} {viewer : Option Did} {mode : Fetch.LabelMode}
  {did : Did} {actor : Actor}

theorem did_of_actor? (h : index.actor? nameBytes viewer mode did = some actor) :
    actor.did = did := by
  obtain ⟨row, -, rfl⟩ := Option.map_eq_some_iff.1 h
  rfl

theorem relationship_of_actor? (h : index.actor? nameBytes viewer mode did = some actor) :
    actor.relationship = index.tables.relationship? viewer did := by
  obtain ⟨row, -, rfl⟩ := Option.map_eq_some_iff.1 h
  rfl

theorem mutedByList_of_actor? (h : index.actor? nameBytes viewer mode did = some actor) :
    actor.mutedByList = index.tables.mutingList? viewer did := by
  obtain ⟨row, -, rfl⟩ := Option.map_eq_some_iff.1 h
  rfl

theorem actor?_of_none (h : index.tables.actors[did]? = none) :
    index.actor? nameBytes viewer mode did = none := by
  rw [actor?, h]
  rfl

/-- Exactly the accounts that are there have a view. -/
theorem exists_actor?_iff :
    (∃ actor, index.actor? nameBytes viewer mode did = some actor) ↔
      index.tables.HasAccount did := by
  rw [← Tables.isLive_iff, Tables.isLive, Option.any_eq_true]
  simp only [actor?, Option.map_eq_some_iff, Option.filter_eq_some_iff]
  constructor
  · rintro ⟨_, row, hrow, -⟩
    exact ⟨row, hrow⟩
  · rintro ⟨row, hrow⟩
    exact ⟨_, row, hrow, rfl⟩

end Actor

end Index

end FeedHydration
