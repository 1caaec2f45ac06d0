import FeedHydration.Proofs.Graph
import FeedHydration.Proofs.Settlement

/-!
# Exact loads

A load of a batch joins the rows of the batch with rows of their owners, of the viewer and of lists.
What it finds is said here in the words of the rows alone, for one id at a time. Neither how often
an id is asked for nor what else is asked for plays a part, and batches may be loaded one by one and
put together.
-/

namespace FeedHydration

open Std (ExtTreeMap)

/-! ### What the viewer sees -/

namespace Tables

/-- The first of the records by which an account likes a subject, as they were inserted. -/
def IsFirstLike (t : Tables) (did : Did) (subject like : AtUri) : Prop :=
  ∃ before after, t.likes = before ++ ⟨did, subject, like⟩ :: after ∧
    ∀ other ∈ before, ¬(other.creator = did ∧ other.subject = subject)

/-- A record by which an account reposts a post. -/
def Reposts (t : Tables) (did : Did) (subject repost : AtUri) : Prop :=
  repost.authority = did ∧ ∃ row, t.reposts[repost]? = some row ∧ row.subject.uri = subject

/-- The repost with the least uri. -/
def IsLeastRepost (t : Tables) (did : Did) (subject repost : AtUri) : Prop :=
  t.Reposts did subject repost ∧
    ∀ other, t.Reposts did subject other → (compare repost other).isLE = true

/-- The row of a record that stands, and whose owner is there. -/
structure Stands {ρ : Type} (t : Tables) (table : ExtTreeMap AtUri ρ) (takenDown : ρ → Bool)
    (uri : AtUri) (row : ρ) : Prop where
  stored : table[uri]? = some row
  stands : takenDown row = false
  owner : t.HasAccount uri.authority

variable (t : Tables) (viewer : Option Did)

/-- A post that stands, with the first like and the least repost of the viewer. -/
def SeesPost (uri : AtUri) (post : Post) : Prop :=
  ∃ row like repost, t.Stands t.posts (·.takenDown) uri row ∧
    post = Post.ofRow uri { row with viewerLike := like, viewerRepost := repost } ∧
    (∀ record, like = some record ↔ ∃ v, viewer = some v ∧ t.IsFirstLike v uri record) ∧
    ∀ record, repost = some record ↔ ∃ v, viewer = some v ∧ t.IsLeastRepost v uri record

/-- A generator that stands, with the first like of the viewer. -/
def SeesGenerator (uri : AtUri) (generator : Generator) : Prop :=
  ∃ row like, t.Stands t.generators (·.takenDown) uri row ∧
    generator = Generator.ofRow uri { row with viewerLike := like } ∧
    ∀ record, like = some record ↔ ∃ v, viewer = some v ∧ t.IsFirstLike v uri record

/-- A list that stands, and whether the viewer subscribes to it. -/
def SeesList (uri : AtUri) (list : AccountList) : Prop :=
  ∃ row muted, t.Stands t.lists (·.takenDown) uri row ∧
    list = AccountList.ofRow uri { row with viewerMuted := muted, viewerBlocked := none } ∧
    (muted = true ↔ ∃ v, viewer = some v ∧ ⟨v, uri⟩ ∈ t.subscriptions)

/-- What an account is to the viewer, if there is one; to itself, nothing. -/
def Relates (did : Did) (relationship : Option Relationship) : Prop :=
  match viewer with
  | none => relationship = none
  | some v => ∃ r, relationship = some r ∧
      (did = v → r = Relationship.none) ∧ (did ≠ v → t.Says v did r)

end Tables

/-- An account that is there. It is muted by a list if its relationship names one and that list can
be seen, and it has its labels in effect if they are loaded with it. -/
structure Index.SeesActor (index : Index) (nameBytes : Nat) (viewer : Option Did)
    (mode : Fetch.LabelMode) (did : Did) (actor : Actor) : Prop where
  row : ∃ row, index.tables.actors[did]? = some row ∧ row.takenDown = false ∧
    row.softDeleted = false ∧ actor =
      { did := did
        handle := row.handle.getD Actor.invalidHandle
        displayName := row.displayName.map (truncateText · nameBytes)
        description := row.description
        avatar := row.avatar
        indexedAt := row.indexedAt
        relationship := actor.relationship
        mutedByList := actor.mutedByList
        labels := actor.labels }
  relates : index.tables.Relates viewer did actor.relationship
  mutedByList : ∀ list, actor.mutedByList = some list ↔ ∃ r uri, actor.relationship = some r ∧
    r.mutedByList = some uri ∧ index.tables.SeesList viewer uri list
  labels : ∀ labels, actor.labels = some labels ↔ mode = .withLabels ∧
    Label.IsSettled (index.tables.labels[did.text]?.getD []) index.clock labels

/-! ### Rows that are chosen -/

section Least

variable {κ ρ : Type} [Ord κ] [Std.TransOrd κ] [Std.LawfulEqOrd κ]

/-- The first entry of a table that passes a test has the least id of all that pass. -/
theorem find?_toList_eq_some_iff {table : ExtTreeMap κ ρ} {p : κ × ρ → Bool} {entry : κ × ρ} :
    table.toList.find? p = some entry ↔ table[entry.1]? = some entry.2 ∧ p entry = true ∧
      ∀ other : κ × ρ, table[other.1]? = some other.2 → p other = true →
        (compare entry.1 other.1).isLE = true := by
  have hmem (entry : κ × ρ) : entry ∈ table.toList ↔ table[entry.1]? = some entry.2 :=
    ExtTreeMap.mem_toList_iff_getElem?_eq_some
  have hfirst : ∀ entry, table.toList.find? p = some entry → table[entry.1]? = some entry.2 ∧
      p entry = true ∧ ∀ other : κ × ρ, table[other.1]? = some other.2 → p other = true →
        (compare entry.1 other.1).isLE = true := by
    intro entry hfind
    obtain ⟨hp, before, after, hsplit, hbefore⟩ := List.find?_eq_some_iff_append.1 hfind
    have hsorted : table.toList.Pairwise fun a b => compare a.1 b.1 = .lt :=
      ExtTreeMap.ordered_keys_toList
    rw [hsplit, List.pairwise_append, List.pairwise_cons] at hsorted
    refine ⟨(hmem entry).1 (List.mem_of_find?_eq_some hfind), hp, fun other hother hpass => ?_⟩
    rw [← hmem, hsplit, List.mem_append, List.mem_cons] at hother
    obtain hother | rfl | hother := hother
    · have hfails := hbefore other hother
      rw [hpass] at hfails
      cases hfails
    · exact Std.ReflOrd.isLE_rfl
    · exact Ordering.isLE_of_eq_lt (hsorted.2.1.1 other hother)
  constructor
  · exact hfirst entry
  · rintro ⟨hentry, hp, hleast⟩
    obtain ⟨found, hfound⟩ : ∃ found, table.toList.find? p = some found := by
      rw [← Option.isSome_iff_exists, List.find?_isSome]
      exact ⟨entry, (hmem entry).2 hentry, hp⟩
    obtain ⟨hrow, hpass, hle⟩ := hfirst found hfound
    have hid : found.1 = entry.1 := Std.LawfulEqOrd.eq_of_compare
      (Std.OrientedCmp.isLE_antisymm (hle entry hentry hp) (hleast found hrow hpass))
    rw [hid, hentry, Option.some.injEq] at hrow
    rw [hfound, Prod.ext hid hrow.symm]

end Least

namespace Tables

variable {t : Tables} {viewer : Option Did} {uri : AtUri}

theorem viewerLike_eq_some_iff {record : AtUri} : t.viewerLike viewer uri = some record ↔
    ∃ v, viewer = some v ∧ t.IsFirstLike v uri record := by
  simp only [viewerLike, Option.bind_eq_some_iff]
  refine exists_congr fun v => and_congr_right fun _ => ?_
  simp only [IsFirstLike, Option.map_eq_some_iff, List.find?_eq_some_iff_append,
    Bool.not_eq_true', ← Bool.not_eq_true, Bool.and_eq_true, decide_eq_true_eq]
  constructor
  · rintro ⟨⟨_, _, _⟩, ⟨⟨rfl, rfl⟩, before, after, hlikes, hbefore⟩, rfl⟩
    exact ⟨before, after, hlikes, hbefore⟩
  · rintro ⟨before, after, hlikes, hbefore⟩
    exact ⟨_, ⟨⟨rfl, rfl⟩, before, after, hlikes, hbefore⟩, rfl⟩

theorem viewerRepost_eq_some_iff {record : AtUri} : t.viewerRepost viewer uri = some record ↔
    ∃ v, viewer = some v ∧ t.IsLeastRepost v uri record := by
  simp only [viewerRepost, Option.bind_eq_some_iff]
  refine exists_congr fun v => and_congr_right fun _ => ?_
  simp only [Option.map_eq_some_iff, find?_toList_eq_some_iff, Bool.and_eq_true, decide_eq_true_eq,
    IsLeastRepost, Reposts]
  constructor
  · rintro ⟨⟨repost, row⟩, ⟨hrow, ⟨howner, hsubject⟩, hleast⟩, rfl⟩
    refine ⟨⟨howner, row, hrow, hsubject⟩, fun other hother => ?_⟩
    obtain ⟨howner', row', hrow', hsubject'⟩ := hother
    exact hleast (other, row') hrow' ⟨howner', hsubject'⟩
  · rintro ⟨⟨howner, row, hrow, hsubject⟩, hleast⟩
    refine ⟨(record, row), ⟨hrow, ⟨howner, hsubject⟩, fun other hother hpass => ?_⟩, rfl⟩
    exact hleast other.1 ⟨hpass.1, other.2, hother, hpass.2⟩

theorem viewerMutes_iff : t.viewerMutes viewer uri = true ↔
    ∃ v, viewer = some v ∧ ⟨v, uri⟩ ∈ t.subscriptions := by
  simp only [viewerMutes, Option.any_eq_true, List.any_eq_true, Bool.and_eq_true, decide_eq_true_eq]
  refine exists_congr fun v => and_congr_right fun _ => ?_
  constructor
  · rintro ⟨_, hmem, rfl, rfl⟩
    exact hmem
  · intro hmem
    exact ⟨_, hmem, rfl, rfl⟩

theorem visible?_eq_some_iff_stands {ρ : Type} {table : ExtTreeMap AtUri ρ} {takenDown : ρ → Bool}
    {row : ρ} : t.visible? table takenDown uri = some row ↔ t.Stands table takenDown uri row := by
  rw [visible?_eq_some_iff, isLive_iff]
  exact ⟨fun ⟨hrow, hdown, howner⟩ => ⟨hrow, hdown, howner⟩, fun h => ⟨h.stored, h.stands, h.owner⟩⟩

/-! ### Entities -/

theorem post?_eq_some_iff {post : Post} :
    t.post? viewer uri = some post ↔ t.SeesPost viewer uri post := by
  simp only [post?, Option.map_eq_some_iff, visible?_eq_some_iff_stands, SeesPost,
    ← viewerLike_eq_some_iff, ← viewerRepost_eq_some_iff, ← Option.ext_iff]
  constructor
  · rintro ⟨row, hrow, rfl⟩
    exact ⟨row, _, _, hrow, rfl, rfl, rfl⟩
  · rintro ⟨row, _, _, hrow, rfl, rfl, rfl⟩
    exact ⟨row, hrow, rfl⟩

theorem generator?_eq_some_iff {generator : Generator} :
    t.generator? viewer uri = some generator ↔ t.SeesGenerator viewer uri generator := by
  simp only [generator?, Option.map_eq_some_iff, visible?_eq_some_iff_stands, SeesGenerator,
    ← viewerLike_eq_some_iff, ← Option.ext_iff]
  constructor
  · rintro ⟨row, hrow, rfl⟩
    exact ⟨row, _, hrow, rfl, rfl⟩
  · rintro ⟨row, _, hrow, rfl, rfl⟩
    exact ⟨row, hrow, rfl⟩

theorem list?_eq_some_iff {list : AccountList} :
    t.list? viewer uri = some list ↔ t.SeesList viewer uri list := by
  simp only [list?, Option.map_eq_some_iff, visible?_eq_some_iff_stands, SeesList,
    ← viewerMutes_iff, ← Bool.eq_iff_iff]
  constructor
  · rintro ⟨row, hrow, rfl⟩
    exact ⟨row, _, hrow, rfl, rfl⟩
  · rintro ⟨row, _, hrow, rfl, rfl⟩
    exact ⟨row, hrow, rfl⟩

variable {did : Did}

/-- The rows say one thing only. -/
theorem Says.eq_relationship {v : Did} {r : Relationship} (h : t.Says v did r) (hne : did ≠ v) :
    r = t.relationship v did := by
  have h' := t.says_relationship hne
  rw [Relationship.mk.injEq]
  exact ⟨Option.ext fun uri => (h.blocking uri).trans (h'.blocking uri).symm,
    Bool.eq_iff_iff.2 (h.blockedBy.trans h'.blockedBy.symm),
    Option.ext fun uri => (h.following uri).trans (h'.following uri).symm,
    Option.ext fun uri => (h.followedBy uri).trans (h'.followedBy uri).symm,
    Bool.eq_iff_iff.2 (h.muted.trans h'.muted.symm),
    Option.ext fun list => (h.mutedByList list).trans (h'.mutedByList list).symm⟩

theorem relates_iff {relationship : Option Relationship} :
    t.Relates viewer did relationship ↔ relationship = t.relationship? viewer did := by
  cases viewer with
  | none => rfl
  | some v =>
    constructor
    · rintro ⟨r, rfl, hself, hother⟩
      by_cases hne : did = v
      · rw [hself hne, relationship?, Option.map_some, Tables.relationship, if_pos hne]
      · rw [(hother hne).eq_relationship hne]
        rfl
    · rintro rfl
      exact ⟨t.relationship v did, rfl, fun hself => if_pos hself, t.says_relationship⟩

theorem mutingList?_eq_some_iff {list : AccountList} :
    t.mutingList? viewer did = some list ↔ ∃ r uri, t.relationship? viewer did = some r ∧
      r.mutedByList = some uri ∧ t.SeesList viewer uri list := by
  simp only [mutingList?, Option.bind_eq_bind, Option.bind_eq_some_iff, list?_eq_some_iff]
  constructor
  · rintro ⟨r, hr, uri, huri, hlist⟩
    exact ⟨r, uri, hr, huri, hlist⟩
  · rintro ⟨r, uri, hr, huri, hlist⟩
    exact ⟨r, hr, uri, huri, hlist⟩

end Tables

namespace Index

variable {index : Index} {nameBytes : Nat} {viewer : Option Did} {mode : Fetch.LabelMode}
  {did : Did}

theorem actorLabels_eq_some_iff {labels : List Label} :
    index.actorLabels mode did = some labels ↔ mode = .withLabels ∧
      Label.IsSettled (index.tables.labels[did.text]?.getD []) index.clock labels := by
  cases mode with
  | withLabels => simp [actorLabels, labelsOf, Label.settle_eq_iff]
  | withoutLabels => simp [actorLabels]

theorem actor?_eq_some_iff {actor : Actor} : index.actor? nameBytes viewer mode did = some actor ↔
    index.SeesActor nameBytes viewer mode did actor := by
  simp only [actor?, Option.map_eq_some_iff, Option.filter_eq_some_iff, ActorRow.isVisible,
    Bool.and_eq_true, Bool.not_eq_true']
  constructor
  · rintro ⟨row, ⟨hrow, hdown, hdeleted⟩, rfl⟩
    exact {
      row := ⟨row, hrow, hdown, hdeleted, rfl⟩
      relates := Tables.relates_iff.2 rfl
      mutedByList := fun _ => Tables.mutingList?_eq_some_iff
      labels := fun _ => actorLabels_eq_some_iff }
  · rintro ⟨⟨row, hrow, hdown, hdeleted, hactor⟩, hrelates, hmuted, hlabels⟩
    have hrelationship := Tables.relates_iff.1 hrelates
    have hlist : actor.mutedByList = index.tables.mutingList? viewer did := by
      apply Option.ext
      intro list
      rw [hmuted, Tables.mutingList?_eq_some_iff, hrelationship]
    have hsettled : actor.labels = index.actorLabels mode did :=
      Option.ext fun labels => (hlabels labels).trans actorLabels_eq_some_iff.symm
    refine ⟨row, ⟨hrow, hdown, hdeleted⟩, ?_⟩
    rw [hactor, ← hrelationship, ← hlist, ← hsettled]
    rfl

end Index

/-! ### Loads of batches -/

namespace Fetch

/-- A load that gives to each id asked for just what is seen of it, and no entry to any other id;
that asks for the ids as a set; and that gives of two batches at once what it gives of each. -/
structure IsExactLoad {κ ε : Type} [Ord κ] [Std.TransOrd κ] (load : List κ → Fetch (ExtTreeMap κ ε))
    (index : Index) (Sees : κ → ε → Prop) : Prop where
  exact : ∀ ids, ∃ found, (load ids).Gives index found ∧
    ∀ id e, found[id]? = some e ↔ id ∈ ids ∧ Sees id e
  congr : ∀ ids ids', (∀ id, id ∈ ids ↔ id ∈ ids') → load ids = load ids'
  append : ∀ ids ids' found found', (load ids).Gives index found → (load ids').Gives index found' →
    (load (ids ++ ids')).Gives index (found ∪ found')

theorem IsExactLoad.of_isLookup {κ ε : Type} [Ord κ] [Std.TransOrd κ] [Std.LawfulEqOrd κ]
    {load : List κ → Fetch (ExtTreeMap κ ε)} {index : Index} {value : κ → Option ε}
    {Sees : κ → ε → Prop} (hsees : ∀ id e, value id = some e ↔ Sees id e)
    (hanswers : ∀ ids, (load ids).Answers index)
    (hlookup : ∀ ids found, (load ids).Gives index found → IsLookup found ids value)
    (hcongr : ∀ ids ids', (∀ id, id ∈ ids ↔ id ∈ ids') → load ids = load ids') :
    IsExactLoad load index Sees where
  exact ids := by
    obtain ⟨found, hfound⟩ := hanswers ids
    refine ⟨found, hfound, fun id e => ?_⟩
    rw [hlookup ids found hfound id e, hsees]
  congr := hcongr
  append ids ids' found found' hfound hfound' := by
    obtain ⟨both, hboth⟩ := hanswers (ids ++ ids')
    have hunion := (hlookup ids found hfound).union (hlookup ids' found' hfound')
    have hsame : both = found ∪ found' :=
      ((hlookup _ both hboth).eq_iff hunion).2 fun _ _ => rfl
    rwa [← hsame]

/-- **Loads are exact.** Without an outage, posts, generators, lists and accounts are each loaded
exactly: what is found is what the viewer sees of the ids asked for, whatever stands beside them in
the batch and however often they are named. -/
theorem loads_are_exact {index : Index} (hout : index.outage = none) (nameBytes : Nat)
    (viewer : Option Did) (mode : LabelMode) :
    IsExactLoad (loadPosts · viewer) index (index.tables.SeesPost viewer) ∧
    IsExactLoad (loadGenerators · viewer) index (index.tables.SeesGenerator viewer) ∧
    IsExactLoad (loadLists · viewer) index (index.tables.SeesList viewer) ∧
    IsExactLoad (loadActors nameBytes · viewer mode) index
      (index.SeesActor nameBytes viewer mode) := by
  refine ⟨?_, ?_, ?_, ?_⟩
  · refine .of_isLookup (fun _ _ => Tables.post?_eq_some_iff) (fun _ => answers_loadPosts hout)
      (fun _ _ => loadPosts_isLookup) fun _ _ h => ?_
    simp only [loadPosts, distinct_congr h]
  · refine .of_isLookup (fun _ _ => Tables.generator?_eq_some_iff)
      (fun _ => answers_loadGenerators hout) (fun _ _ => loadGenerators_isLookup) fun _ _ h => ?_
    simp only [loadGenerators, distinct_congr h]
  · refine .of_isLookup (fun _ _ => Tables.list?_eq_some_iff) (fun _ => answers_loadLists hout)
      (fun _ _ => loadLists_isLookup) fun _ _ h => ?_
    simp only [loadLists, distinct_congr h]
  · refine .of_isLookup (fun _ _ => Index.actor?_eq_some_iff) (fun _ => answers_loadActors hout)
      (fun _ _ => loadActors_isLookup) fun _ _ h => ?_
    simp only [loadActors, distinct_congr h]

end Fetch

namespace Sample

def firstLike : AtUri := ⟨viewer, "app.bsky.feed.like", "older", by decide, by decide, by decide⟩

def laterLike : AtUri :=
  ⟨viewer, "app.bsky.feed.like", "newer", firstLike.collection_grammatical, by decide, by decide⟩

/-- The viewer likes the post of the foe twice, and the later record has the lesser uri. -/
def liked : Index :=
  { index with
    tables := { tables with
      likes := [⟨viewer, foePost, firstLike⟩, ⟨viewer, foePost, laterLike⟩] } }

/-- Of two likes the first counts, although the post is asked for twice; a list that is not there is
not found. -/
theorem loads_are_exact_liked :
    liked.outage = none ∧
    (∃ found post,
      (Fetch.loadPosts [foePost, friendPost, foePost] (some viewer)).Gives liked found ∧
      found[foePost]? = some post ∧ post.viewerLike = some firstLike) ∧
    ∃ found, (Fetch.loadLists [muteList] (some viewer)).Gives liked found ∧
      found[muteList]? = none := by
  have hout : liked.outage = none := rfl
  obtain ⟨hposts, -, hlists, -⟩ := Fetch.loads_are_exact hout 64 (some viewer) .withLabels
  obtain ⟨found, hfound, hexact⟩ := hposts.exact [foePost, friendPost, foePost]
  obtain ⟨lists, hgives, hnone⟩ := hlists.exact [muteList]
  have hsees : liked.tables.SeesPost (some viewer) foePost
      (.ofRow foePost { postRow "\x7b\x7d" with viewerLike := some firstLike }) :=
    Tables.post?_eq_some_iff.1 (by decide +kernel)
  refine ⟨hout, ⟨found, _, hfound, (hexact foePost _).2 ⟨by simp, hsees⟩, rfl⟩, lists, hgives, ?_⟩
  rw [Option.eq_none_iff_forall_ne_some]
  intro list hlist
  obtain ⟨row, -, hrow, -⟩ := ((hnone muteList list).1 hlist).2
  have habsent : liked.tables.lists[muteList]? = none := by decide +kernel
  rw [hrow.stored] at habsent
  cases habsent

end Sample

end FeedHydration
