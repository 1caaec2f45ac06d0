import FeedHydration.Hydration.Load
import FeedHydration.View.Display

/-!
Resolving what posts embed, one level deep. The embedded records of all hosts are loaded in one
batch per collection, then the accounts behind them that are not known yet, and the labels of all
that was not looked at before. A load that fails takes only its own records away: they are shown as
missing.
-/

namespace FeedHydration

open Std (ExtTreeMap)

namespace Collection

def post : String := "app.bsky.feed.post"

def generator : String := "app.bsky.feed.generator"

def list : String := "app.bsky.graph.list"

end Collection

/-- A post that embeds something. -/
structure EmbedHost where
  post : Post
  embed : PostEmbed

namespace EmbedHost

def ofPost? (post : Post) : Option EmbedHost :=
  (PostEmbed.ofBody? post.body).map (⟨post, ·⟩)

/-- The records of a collection that some hosts embed. -/
def targets (hosts : List EmbedHost) (collection : String) : List AtUri :=
  (hosts.filterMap fun host => host.embed.target?.map (·.uri)).filter (·.collection = collection)

end EmbedHost

/-- The records that embeds lead to, as far as they could be loaded. -/
structure EmbedTargets where
  posts : ExtTreeMap AtUri Post
  generators : ExtTreeMap AtUri Generator
  lists : ExtTreeMap AtUri AccountList

namespace EmbedTargets

/-- The accounts that own the records. -/
def owners (targets : EmbedTargets) : List Did :=
  targets.posts.values.map (·.author) ++ targets.generators.values.map (·.creator) ++
    targets.lists.values.map (·.creator)

def uris (targets : EmbedTargets) : List AtUri :=
  targets.posts.keys ++ targets.generators.keys ++ targets.lists.keys

end EmbedTargets

/-- All that is needed to show embeds. -/
structure EmbedContext where
  display : Display
  targets : EmbedTargets
  actors : ExtTreeMap Did Actor

namespace EmbedContext

def postSlot (c : EmbedContext) (uri : AtUri) : RecordSlot :=
  match c.targets.posts[uri]? with
  | none => .missing { uri := uri }
  | some post =>
    match c.actors[post.author]? with
    | none => .missing { uri := uri }
    | some author =>
      if author.hasBlock then
        .blocked { uri := uri, author := Display.blockedAuthor post.author (some author) }
      else
        match c.display.quoteView? post author with
        | some view => .quote view
        | none => .missing { uri := uri }

def generatorSlot (c : EmbedContext) (uri : AtUri) : RecordSlot :=
  match c.targets.generators[uri]? with
  | none => .missing { uri := uri }
  | some generator =>
    match c.actors[generator.creator]? with
    | none => .missing { uri := uri }
    | some creator => .generator (c.display.generatorView generator creator)

def listSlot (c : EmbedContext) (uri : AtUri) : RecordSlot :=
  match c.targets.lists[uri]? with
  | none => .missing { uri := uri }
  | some list =>
    match c.actors[list.creator]? with
    | none => .missing { uri := uri }
    | some creator => .list (c.display.listView list creator)

/-- What is shown in the place of a record; records of other collections are not shown. -/
def slot (c : EmbedContext) (uri : AtUri) : RecordSlot :=
  if uri.collection = Collection.post then c.postSlot uri
  else if uri.collection = Collection.generator then c.generatorSlot uri
  else if uri.collection = Collection.list then c.listSlot uri
  else .missing { uri := uri }

/-- A record beside media that cannot be shown is not shown either. -/
def embedView? (c : EmbedContext) (host : EmbedHost) : Option EmbedView :=
  match host.embed with
  | .media media => some (.media (c.display.media host.post.author media))
  | .record target => some (.record (c.slot target.uri))
  | .recordWithMedia target media =>
    media.map fun media =>
      .recordWithMedia (c.slot target.uri) (c.display.media host.post.author media)

end EmbedContext

namespace Fetch

def embedTargets (hosts : List EmbedHost) (viewer : Option Did) : Fetch EmbedTargets := do
  let posts ← (loadPosts (EmbedHost.targets hosts Collection.post) viewer).orElse ∅
  let generators ← (loadGenerators (EmbedHost.targets hosts Collection.generator) viewer).orElse ∅
  let lists ← (loadLists (EmbedHost.targets hosts Collection.list) viewer).orElse ∅
  return ⟨posts, generators, lists⟩

/-- What the embeds of some posts are shown as, by the uri of the post. Accounts and labels that the
request has already are used as they are. -/
def embeds (images : ImageService) (nameBytes : Nat) (posts : List Post) (viewer : Option Did)
    (known : ExtTreeMap Did Actor) (labels : LabelSet) : Fetch (ExtTreeMap AtUri EmbedView) := do
  let hosts := posts.filterMap EmbedHost.ofPost?
  if hosts.isEmpty then return ∅
  let targets ← embedTargets hosts viewer
  let owners := targets.owners.filter (!known.contains ·)
  let subjects := labels.missing (targets.uris.map (·.text) ++ owners.map (·.text))
  let loaded ← (loadActors nameBytes owners viewer .withoutLabels).orElse ∅
  let extra ← (labelSet subjects).orElse LabelSet.empty
  let context : EmbedContext := ⟨⟨images, labels.merged extra⟩, targets, loaded ∪ known⟩
  return ExtTreeMap.ofList (hosts.filterMap fun host =>
    (context.embedView? host).map (host.post.uri, ·))

end Fetch

end FeedHydration
