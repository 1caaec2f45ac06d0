import FeedHydration.Index.Tables

/-!
Reading from the index. A program of reads gives a value or the error of the first read that failed,
and in either case the reads it made, in their order. Reads change nothing.
-/

namespace FeedHydration

open Std (ExtTreeMap)

/-- What a read asks for. -/
inductive ReadKind where
  | actors
  | posts
  | reposts
  | generators
  | lists
  | labels
  | blocks
  | follows
  | mutes
  | listMutes
deriving DecidableEq

namespace ReadKind

def all : List ReadKind :=
  [actors, posts, reposts, generators, lists, labels, blocks, follows, mutes, listMutes]

def name : ReadKind → String
  | actors => "actors"
  | posts => "posts"
  | reposts => "reposts"
  | generators => "feed_generators"
  | lists => "lists"
  | labels => "labels"
  | blocks => "blocks"
  | follows => "follows"
  | mutes => "mutes"
  | listMutes => "list_mutes"

end ReadKind

/-- One read, with all the ids it asks for. -/
structure Read where
  kind : ReadKind
  ids : List String
deriving DecidableEq

inductive DataError where
  | unavailable (reason : String)
  | backend (reason : String)
deriving DecidableEq

namespace DataError

def message : DataError → String
  | unavailable reason => "data plane unavailable: " ++ reason
  | backend reason => "data plane error: " ++ reason

def code : DataError → String
  | unavailable _ => "weft::data::unavailable"
  | backend _ => "weft::data::backend"

/-- Whether the read might succeed when it is made again. -/
def isRetryable : DataError → Bool
  | unavailable _ => true
  | backend _ => false

end DataError

/-- The index as a request finds it: its tables, a kind of read that fails, and the time at which
labels are settled. -/
structure Index where
  tables : Tables
  outage : Option ReadKind
  clock : Instant

structure Fetched (α : Type) where
  reads : List Read
  result : Except DataError α

structure Fetch (α : Type) where
  run : Index → Fetched α

namespace Fetch

def pure (a : α) : Fetch α :=
  ⟨fun _ => ⟨[], .ok a⟩⟩

/-- What comes after a failed read is not started. -/
def bind (m : Fetch α) (next : α → Fetch β) : Fetch β :=
  ⟨fun index =>
    match (m.run index).result with
    | .ok a =>
      ⟨(m.run index).reads ++ ((next a).run index).reads, ((next a).run index).result⟩
    | .error e => ⟨(m.run index).reads, .error e⟩⟩

instance : Monad Fetch where
  pure := pure
  bind := bind

/-- The error that stands for an outage. -/
def outageError : DataError :=
  .unavailable "memory data plane configured to fail"

/-- One read. It is on record even if it fails. -/
def read (kind : ReadKind) (ids : List String) (answer : Tables → α) : Fetch α :=
  ⟨fun index =>
    ⟨[⟨kind, ids⟩],
      if index.outage = some kind then .error outageError else .ok (answer index.tables)⟩⟩

/-- The time of the request. -/
def clock : Fetch Instant :=
  ⟨fun index => ⟨[], .ok index.clock⟩⟩

/-- Goes on with another value when a read fails. -/
def orElse (m : Fetch α) (fallback : α) : Fetch α :=
  ⟨fun index => ⟨(m.run index).reads, .ok ((m.run index).result.toOption.getD fallback)⟩⟩

@[simp]
theorem run_pure (a : α) (index : Index) : (Pure.pure a : Fetch α).run index = ⟨[], .ok a⟩ := rfl

theorem run_bind (m : Fetch α) (next : α → Fetch β) (index : Index) :
    (m >>= next).run index =
      match (m.run index).result with
      | .ok a =>
        ⟨(m.run index).reads ++ ((next a).run index).reads, ((next a).run index).result⟩
      | .error e => ⟨(m.run index).reads, .error e⟩ := rfl

theorem run_bind_of_ok {m : Fetch α} {next : α → Fetch β} {index : Index} {a : α}
    (h : (m.run index).result = .ok a) :
    (m >>= next).run index =
      ⟨(m.run index).reads ++ ((next a).run index).reads, ((next a).run index).result⟩ := by
  rw [run_bind, h]

theorem run_bind_of_error {m : Fetch α} {next : α → Fetch β} {index : Index} {e : DataError}
    (h : (m.run index).result = .error e) :
    (m >>= next).run index = ⟨(m.run index).reads, .error e⟩ := by
  rw [run_bind, h]

theorem ext {m m' : Fetch α} (h : ∀ index, m.run index = m'.run index) : m = m' := by
  cases m; cases m'
  exact congrArg Fetch.mk (funext h)

theorem bind_pure (m : Fetch α) : m >>= Pure.pure = m := by
  apply ext
  intro index
  rw [run_bind]
  cases hm : m.run index with
  | mk reads result => cases result <;> simp

theorem bind_assoc (m : Fetch α) (next : α → Fetch β) (last : β → Fetch γ) :
    (m >>= next) >>= last = m >>= fun a => next a >>= last := by
  apply ext
  intro index
  cases hm : (m.run index).result with
  | error e =>
    have hnext : (m >>= next).run index = ⟨(m.run index).reads, .error e⟩ :=
      run_bind_of_error hm
    rw [@run_bind_of_error _ _ (m >>= next) last index e (by rw [hnext]), hnext]
    exact (run_bind_of_error hm).symm
  | ok a =>
    have hnext : (m >>= next).run index =
        ⟨(m.run index).reads ++ ((next a).run index).reads, ((next a).run index).result⟩ :=
      run_bind_of_ok hm
    rw [@run_bind_of_ok _ _ m (fun a => next a >>= last) index a hm]
    cases ha : ((next a).run index).result with
    | error e =>
      rw [@run_bind_of_error _ _ (m >>= next) last index e (by rw [hnext, ha]), hnext,
        run_bind_of_error ha]
    | ok b =>
      rw [@run_bind_of_ok _ _ (m >>= next) last index b (by rw [hnext, ha]), hnext,
        run_bind_of_ok ha]
      simp

instance : LawfulMonad Fetch := LawfulMonad.mk' Fetch bind_pure (fun _ _ => rfl) bind_assoc

/-! ### Reads of the tables -/

def actors (dids : List Did) : Fetch (List (Did × ActorRow)) :=
  read .actors (dids.map (·.text)) (·.selectActors dids)

def posts (uris : List AtUri) (viewer : Option Did) : Fetch (List (AtUri × PostRow)) :=
  read .posts (uris.map (·.text)) (·.selectPosts uris viewer)

def reposts (uris : List AtUri) : Fetch (List (AtUri × RepostRow)) :=
  read .reposts (uris.map (·.text)) (·.selectReposts uris)

def generators (uris : List AtUri) (viewer : Option Did) : Fetch (List (AtUri × GeneratorRow)) :=
  read .generators (uris.map (·.text)) (·.selectGenerators uris viewer)

def lists (uris : List AtUri) (viewer : Option Did) : Fetch (List (AtUri × ListRow)) :=
  read .lists (uris.map (·.text)) (·.selectLists uris viewer)

def labels (subjects : List String) : Fetch (ExtTreeMap String (List Label)) :=
  read .labels subjects (·.selectLabels subjects)

def blocks (viewer : Did) (subjects : List Did) : Fetch (List GraphEdge) :=
  read .blocks (subjects.map (·.text)) (·.blocksWith viewer subjects)

def follows (viewer : Did) (subjects : List Did) : Fetch (List GraphEdge) :=
  read .follows (subjects.map (·.text)) (·.followsWith viewer subjects)

def mutes (viewer : Did) (subjects : List Did) : Fetch (List Did) :=
  read .mutes (subjects.map (·.text)) (·.mutedBy viewer subjects)

def listMutes (viewer : Did) (subjects : List Did) : Fetch (List ListItem) :=
  read .listMutes (subjects.map (·.text)) (·.mutedByLists viewer subjects)

end Fetch

end FeedHydration
