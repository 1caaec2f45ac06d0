import FeedHydration.Post.Embed
import FeedHydration.View.Record

/-!
Views of embeds: media with the addresses of its renditions, records, or both.
-/

namespace FeedHydration

structure ImageView where
  thumb : String
  fullsize : String
  alt : String
  aspectRatio : Option AspectRatio
deriving DecidableEq

namespace ImageView

def ofNode? (node : JsonNode) : Option ImageView := do
  let r ← node.record? ["thumb", "fullsize", "alt", "aspectRatio"]
  let thumb ← r.required? "thumb" JsonNode.str?
  let fullsize ← r.required? "fullsize" JsonNode.str?
  let alt ← r.required? "alt" JsonNode.str?
  let aspectRatio ← r.trailing? "aspectRatio" AspectRatio.ofNode?
  some ⟨thumb, fullsize, alt, aspectRatio⟩

def toJson (view : ImageView) : Json :=
  Json.record [
    ("thumb", some (.str view.thumb)),
    ("fullsize", some (.str view.fullsize)),
    ("alt", some (.str view.alt)),
    ("aspectRatio", view.aspectRatio.map AspectRatio.toJson)]

end ImageView

structure LinkView where
  uri : String
  title : String
  description : String
  thumb : Option String
deriving DecidableEq

namespace LinkView

def ofNode? (node : JsonNode) : Option LinkView := do
  let r ← node.record? ["uri", "title", "description", "thumb"]
  let uri ← r.required? "uri" JsonNode.str?
  let title ← r.required? "title" JsonNode.str?
  let description ← r.required? "description" JsonNode.str?
  let thumb ← r.trailing? "thumb" JsonNode.str?
  some ⟨uri, title, description, thumb⟩

def toJson (view : LinkView) : Json :=
  Json.record [
    ("uri", some (.str view.uri)),
    ("title", some (.str view.title)),
    ("description", some (.str view.description)),
    ("thumb", view.thumb.map .str)]

end LinkView

inductive MediaView where
  | images (images : List ImageView)
  | external (link : LinkView)
deriving DecidableEq

namespace MediaView

def variants : List String :=
  ["app.bsky.embed.images#view", "app.bsky.embed.external#view"]

def ofTagged? (node : JsonNode.Tagged) : Option MediaView := do
  match node.tag with
  | "app.bsky.embed.images#view" =>
    let r ← node.content.record? ["images"]
    images <$> r.required? "images" (JsonNode.list? ImageView.ofNode?)
  | "app.bsky.embed.external#view" =>
    let r ← node.content.record? ["external"]
    external <$> r.required? "external" LinkView.ofNode?
  | _ => none

def ofNode? (form : JsonNode.TagForm) (node : JsonNode) : Option MediaView := do
  ofTagged? (← node.tagged? form variants)

def toJson : MediaView → Json
  | images views =>
    (Json.object [("images", .arr (views.map ImageView.toJson))]).tagged
      "app.bsky.embed.images#view"
  | external view =>
    (Json.object [("external", view.toJson)]).tagged "app.bsky.embed.external#view"

end MediaView

inductive EmbedView where
  | media (view : MediaView)
  | record (slot : RecordSlot)
  | recordWithMedia (slot : RecordSlot) (media : MediaView)
deriving DecidableEq

namespace EmbedView

def variants : List String :=
  MediaView.variants ++ ["app.bsky.embed.record#view", "app.bsky.embed.recordWithMedia#view"]

/-- The record of a record embed, one level down. -/
def inner? (node : JsonNode) : Option RecordSlot := do
  (← node.record? ["record"]).required? "record" (RecordSlot.ofNode? .nameOrIndex)

def innerJson (slot : RecordSlot) : Json :=
  Json.object [("record", slot.toJson)]

def ofNode? (form : JsonNode.TagForm) (node : JsonNode) : Option EmbedView := do
  let tagged ← node.tagged? form variants
  match tagged.tag with
  | "app.bsky.embed.record#view" => record <$> inner? tagged.content
  | "app.bsky.embed.recordWithMedia#view" =>
    let r ← tagged.content.record? ["record", "media"]
    let slot ← r.required? "record" inner?
    let beside ← r.required? "media" (MediaView.ofNode? .nameOrIndex)
    some (recordWithMedia slot beside)
  | _ => media <$> MediaView.ofTagged? tagged

def toJson : EmbedView → Json
  | media view => view.toJson
  | record slot => (innerJson slot).tagged "app.bsky.embed.record#view"
  | recordWithMedia slot beside =>
    (Json.object [("record", innerJson slot), ("media", beside.toJson)]).tagged
      "app.bsky.embed.recordWithMedia#view"

/-- The place of the embedded record, if the embed has one. -/
def slot? : EmbedView → Option RecordSlot
  | media _ => none
  | record slot | recordWithMedia slot _ => some slot

end EmbedView

end FeedHydration
