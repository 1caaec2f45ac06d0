import FeedHydration.Proofs.Rules

/-!
# How a post stands to a viewer

Wherever a post may be shown, three things are asked: does it stand, does a block part its owner from
the viewer, and is its body JSON. The answers are read off the index. A block of the viewer against
themselves parts no one.
-/

namespace FeedHydration

open Std (ExtTreeMap)

namespace Tables

section Record

variable {ρ ε : Type} {t : Tables} {table : ExtTreeMap AtUri ρ} {takenDown : ρ → Bool} {uri : AtUri}

theorem visible?_of_row {row : ρ} (hrow : table[uri]? = some row) (hstands : takenDown row = false)
    (haccount : t.HasAccount uri.authority) : t.visible? table takenDown uri = some row :=
  visible?_eq_some_iff.2 ⟨hrow, hstands, isLive_iff.2 haccount⟩

theorem map_visible?_eq_none (h : ¬ t.HasRecord table takenDown uri) (entity : ρ → ε) :
    (t.visible? table takenDown uri).map entity = none := by
  rw [Option.eq_none_iff_forall_ne_some]
  exact fun e he => h (exists_map_visible?_iff.1 ⟨e, he⟩)

end Record

/-- A block between the viewer and another account. -/
def Parts (t : Tables) (viewer : Option Did) (did : Did) : Prop :=
  ∃ v, viewer = some v ∧ did ≠ v ∧ t.HasBlock v did

/-- A post that stands, and whose owner is parted from the viewer. -/
structure HidesPost (t : Tables) (viewer : Option Did) (uri : AtUri) : Prop where
  stands : t.HasRecord t.posts (·.takenDown) uri
  parts : t.Parts viewer uri.authority

/-- A post that stands, whose owner is not parted from the viewer, and whose body is JSON. -/
structure ShowsPost (t : Tables) (viewer : Option Did) (uri : AtUri) (row : PostRow)
    (body : Json) : Prop where
  stored : t.posts[uri]? = some row
  stands : row.takenDown = false
  account : t.HasAccount uri.authority
  parts : ¬ t.Parts viewer uri.authority
  body : Json.ofBytes? row.record = some body

/-- A post that can neither be shown nor be hidden. -/
structure LacksPost (t : Tables) (viewer : Option Did) (uri : AtUri) : Prop where
  hides : ¬ t.HidesPost viewer uri
  shows : ∀ row body, ¬ t.ShowsPost viewer uri row body

/-- A row with what the viewer has done to its post. -/
def seenRow (t : Tables) (viewer : Option Did) (uri : AtUri) (row : PostRow) : PostRow :=
  { row with
    viewerLike := t.viewerLike viewer uri
    viewerRepost := t.viewerRepost viewer uri }

/-- The ways in which a post can stand to the viewer, with what is loaded of it. -/
inductive Standing (t : Tables) (viewer : Option Did) (uri : AtUri) : Prop where
  | hidden (row : PostRow)
      (hpost : t.post? viewer uri = some (.ofRow uri (t.seenRow viewer uri row)))
      (h : t.HidesPost viewer uri)
  | shown (row : PostRow) (body : Json)
      (hpost : t.post? viewer uri = some (.ofRow uri (t.seenRow viewer uri row)))
      (h : t.ShowsPost viewer uri row body)
  | malformed (row : PostRow)
      (hpost : t.post? viewer uri = some (.ofRow uri (t.seenRow viewer uri row)))
      (haccount : t.HasAccount uri.authority) (hparts : ¬ t.Parts viewer uri.authority)
      (hbody : Json.ofBytes? row.record = none)
      (h : t.LacksPost viewer uri)
  | absent (hpost : t.post? viewer uri = none) (h : t.LacksPost viewer uri)

section Standing

variable {t : Tables} {viewer : Option Did} {uri : AtUri}

theorem ShowsPost.hasRecord {row : PostRow} {body : Json} (h : t.ShowsPost viewer uri row body) :
    t.HasRecord t.posts (·.takenDown) uri :=
  ⟨row, h.stored, h.stands, h.account⟩

theorem lacksPost_of_not_hasRecord (h : ¬ t.HasRecord t.posts (·.takenDown) uri) :
    t.LacksPost viewer uri where
  hides := fun hhides => h hhides.stands
  shows := fun _ _ hshows => h hshows.hasRecord

theorem lacksPost_of_malformed {row : PostRow} (hrow : t.posts[uri]? = some row)
    (hparts : ¬ t.Parts viewer uri.authority) (hbody : Json.ofBytes? row.record = none) :
    t.LacksPost viewer uri where
  hides := fun hhides => hparts hhides.parts
  shows := by
    intro row' body hshows
    have hsame := hshows.stored
    rw [hrow, Option.some.injEq] at hsame
    subst hsame
    rw [hshows.body] at hbody
    cases hbody

theorem post?_of_row {row : PostRow} (hrow : t.posts[uri]? = some row)
    (hstands : row.takenDown = false) (haccount : t.HasAccount uri.authority) :
    t.post? viewer uri = some (.ofRow uri (t.seenRow viewer uri row)) := by
  rw [post?, visible?_of_row hrow hstands haccount]
  rfl

/-- Every post stands to the viewer in one of these ways. -/
theorem standing (t : Tables) (viewer : Option Did) (uri : AtUri) : t.Standing viewer uri := by
  by_cases hrecord : t.HasRecord t.posts (·.takenDown) uri
  · obtain ⟨row, hrow, hstands, haccount⟩ := hrecord
    have hpost : t.post? viewer uri = some (.ofRow uri (t.seenRow viewer uri row)) :=
      post?_of_row hrow hstands haccount
    by_cases hparts : t.Parts viewer uri.authority
    · exact .hidden row hpost ⟨⟨row, hrow, hstands, haccount⟩, hparts⟩
    cases hbody : Json.ofBytes? row.record with
    | none =>
      exact .malformed row hpost haccount hparts hbody (lacksPost_of_malformed hrow hparts hbody)
    | some body => exact .shown row body hpost ⟨hrow, hstands, haccount, hparts, hbody⟩
  · exact .absent (map_visible?_eq_none hrecord _) (lacksPost_of_not_hasRecord hrecord)

end Standing

end Tables

/-! ### Accounts -/

/-- What is told of the owner of a hidden post: the block, and nothing else. -/
def BlockedAuthor.ofBlock (did : Did) (r : Relationship) : BlockedAuthor where
  did := did
  viewer := some {
    muted := false
    mutedByList := none
    blockedBy := r.blockedBy
    blocking := r.blocking
    following := none
    followedBy := none }

theorem Display.blockedAuthor_eq_ofBlock {actor : Actor} {r : Relationship}
    (h : actor.relationship = some r) (did : Did) :
    Display.blockedAuthor did (some actor) = .ofBlock did r := by
  rw [Display.blockedAuthor, Option.bind_some, h]
  rfl

theorem Tables.parts_iff {t : Tables} {viewer : Option Did} {did : Did} :
    t.Parts viewer did ↔ ∃ r, t.relationship? viewer did = some r ∧ r.hasBlock = true := by
  cases viewer with
  | none => simp [Parts, relationship?]
  | some viewer =>
    by_cases hviewer : did = viewer
    · simp [Parts, relationship?, relationship, hviewer, Relationship.hasBlock, Relationship.none]
    · simp [Parts, relationship?, hviewer, hasBlock_relationship_iff hviewer]

theorem Actor.hasBlock_iff_parts {t : Tables} {viewer : Option Did} {did : Did} {actor : Actor}
    (h : actor.relationship = t.relationship? viewer did) :
    actor.hasBlock = true ↔ t.Parts viewer did := by
  rw [hasBlock, h, Tables.parts_iff, Option.any_eq_true]

/-- The profile of an account as the viewer sees it, with its labels in effect. -/
def Index.profile? (index : Index) (images : ImageService) (nameBytes : Nat)
    (viewer : Option Did) (did : Did) : Option ProfileView :=
  (index.actor? nameBytes viewer .withLabels did).map (Display.profile ⟨images, LabelSet.empty⟩)

/-- An account that is shown on a display as the index has it. -/
structure IsSeenAs (index : Index) (images : ImageService) (nameBytes : Nat) (viewer : Option Did)
    (d : Display) (did : Did) (actor : Actor) : Prop where
  relationship : actor.relationship = index.tables.relationship? viewer did
  profile : index.profile? images nameBytes viewer did = some (d.profile actor)

section Seen

variable {index : Index} {images : ImageService} {nameBytes : Nat} {viewer : Option Did}
  {mode : Fetch.LabelMode} {d : Display} {did : Did} {actor : Actor}

/-- Labels that come with an account and labels that are kept apart make the same profile. -/
theorem isSeenAs_of_actor? (h : index.actor? nameBytes viewer mode did = some actor)
    (himages : d.images = images) (hlabels : d.labels.get did.text = index.labelsOf did.text) :
    IsSeenAs index images nameBytes viewer d did actor := by
  refine ⟨Index.relationship_of_actor? h, ?_⟩
  obtain ⟨row, hrow, rfl⟩ := Option.map_eq_some_iff.1 h
  subst himages
  rw [Index.profile?, Index.actor?, hrow, Option.map_some, Option.map_some, Option.some.injEq]
  cases mode with
  | withLabels => rfl
  | withoutLabels =>
    rw [Display.profile, Display.profile, ProfileView.mk.injEq]
    exact ⟨rfl, rfl, rfl, rfl, rfl, hlabels.symm⟩

theorem IsSeenAs.hasBlock_iff (h : IsSeenAs index images nameBytes viewer d did actor) :
    actor.hasBlock = true ↔ index.tables.Parts viewer did :=
  Actor.hasBlock_iff_parts h.relationship

end Seen

end FeedHydration
