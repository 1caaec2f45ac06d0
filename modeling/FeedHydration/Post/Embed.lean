import FeedHydration.Identifier.Wire

/-!
What a stored post embeds: media of its own, another record, or both. Only what is needed to show an
embed is read; a body whose embed has no such form counts as having none.
-/

namespace FeedHydration

structure AspectRatio where
  width : Nat
  height : Nat
deriving DecidableEq

namespace AspectRatio

def ofNode? (node : JsonNode) : Option AspectRatio := do
  let r ← node.record? ["width", "height"]
  let width ← r.required? "width" JsonNode.count?
  let height ← r.required? "height" JsonNode.count?
  some ⟨width, height⟩

def toJson (ratio : AspectRatio) : Json :=
  Json.object [("width", Json.nat ratio.width), ("height", Json.nat ratio.height)]

end AspectRatio

/-- An uploaded file, named in one of two forms: an object with a link in `ref`, or an older one
with the cid itself. The forms are told apart by their members, so neither may be an array. -/
inductive Blob where
  | typed (cid : Cid)
  | legacy (cid : Cid)
deriving DecidableEq

namespace Blob

def cid : Blob → Cid
  | typed cid | legacy cid => cid

def link? (node : JsonNode) : Option Cid := do
  (← node.record? ["$link"]).required? "$link" Cid.ofNode?

def typed? (node : JsonNode) : Option Blob := do
  typed <$> (← node.named? ["ref"]).required? "ref" link?

def legacy? (node : JsonNode) : Option Blob := do
  legacy <$> (← node.named? ["cid"]).required? "cid" Cid.ofNode?

def ofNode? (node : JsonNode) : Option Blob :=
  if node.isReadable then typed? node <|> legacy? node else none

end Blob

structure PostedImage where
  image : Blob
  alt : String
  aspectRatio : Option AspectRatio
deriving DecidableEq

namespace PostedImage

def ofNode? (node : JsonNode) : Option PostedImage := do
  let r ← node.record? ["image", "alt", "aspectRatio"]
  let image ← r.required? "image" Blob.ofNode?
  let alt ← r.defaulted? "alt" JsonNode.str? ""
  let aspectRatio ← r.trailing? "aspectRatio" AspectRatio.ofNode?
  some ⟨image, alt, aspectRatio⟩

end PostedImage

/-- A card for a page of the web. -/
structure PostedLink where
  uri : String
  title : String
  description : String
  thumb : Option Blob
deriving DecidableEq

namespace PostedLink

def ofNode? (node : JsonNode) : Option PostedLink := do
  let r ← node.record? ["uri", "title", "description", "thumb"]
  let uri ← r.required? "uri" JsonNode.str?
  let title ← r.defaulted? "title" JsonNode.str? ""
  let description ← r.defaulted? "description" JsonNode.str? ""
  let thumb ← r.trailing? "thumb" Blob.ofNode?
  some ⟨uri, title, description, thumb⟩

end PostedLink

inductive PostedMedia where
  | images (images : List PostedImage)
  | external (link : PostedLink)
deriving DecidableEq

/-- A record may stand beside media; `none` is media of a kind that is not shown. -/
inductive PostEmbed where
  | media (media : PostedMedia)
  | record (target : StrongRef)
  | recordWithMedia (target : StrongRef) (media : Option PostedMedia)
deriving DecidableEq

namespace PostedMedia

def variants : List String := ["app.bsky.embed.images", "app.bsky.embed.external"]

/-- The media of a variant, `none` if the variant is not media. -/
def ofTagged? (node : JsonNode.Tagged) : Option (Option PostedMedia) :=
  match node.tag with
  | "app.bsky.embed.images" => do
    let r ← node.content.record? ["images"]
    let list ← r.required? "images" (JsonNode.list? PostedImage.ofNode?)
    some (some (images list))
  | "app.bsky.embed.external" => do
    let r ← node.content.record? ["external"]
    let link ← r.required? "external" PostedLink.ofNode?
    some (some (external link))
  | _ => some none

/-- The media beside a record. Any other variant is media that is not shown. -/
def ofNode? (node : JsonNode) : Option (Option PostedMedia) := do
  let tagged ← node.tagged? .nameOrIndex variants
  match ← ofTagged? tagged with
  | some media => some (some media)
  | none => if tagged.content.isBareContent then some none else none

end PostedMedia

namespace PostEmbed

def variants : List String :=
  PostedMedia.variants ++ ["app.bsky.embed.record", "app.bsky.embed.recordWithMedia"]

/-- The pinned record of a record embed, one level down. -/
def inner? (node : JsonNode) : Option StrongRef := do
  (← node.record? ["record"]).required? "record" StrongRef.ofNode?

def ofNode? (node : JsonNode) : Option PostEmbed := do
  let tagged ← node.tagged? .name variants
  match tagged.tag with
  | "app.bsky.embed.record" => record <$> inner? tagged.content
  | "app.bsky.embed.recordWithMedia" => do
    let r ← tagged.content.record? ["record", "media"]
    let target ← r.required? "record" inner?
    let media ← r.required? "media" PostedMedia.ofNode?
    some (recordWithMedia target media)
  | _ => do
    let media ← (← PostedMedia.ofTagged? tagged)
    some (PostEmbed.media media)

/-- The record that is embedded. -/
def target? : PostEmbed → Option StrongRef
  | media _ => none
  | record target | recordWithMedia target _ => some target

/-- The embed of a stored body. Beside `embed`, only the syntax of the body counts. -/
def ofBody? (body : Bytes) : Option PostEmbed := do
  let r ← (← JsonNode.ofBytes? body).record? ["embed"]
  let value ← (← r.trailing? "embed" JsonNode.toJson?)
  ofNode? (JsonNode.ofJson value)

end PostEmbed

end FeedHydration
