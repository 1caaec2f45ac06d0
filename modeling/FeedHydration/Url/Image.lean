import FeedHydration.Identifier.AtUri
import FeedHydration.Url.Basic

/-!
Addresses of images at an image service: `<base>/img/<preset>/plain/<did>/<cid>@jpeg`.
-/

namespace FeedHydration

/-- The rendition of an image. -/
inductive ImagePreset where
  | avatar
  | banner
  | feedThumbnail
  | feedFullsize
deriving DecidableEq

namespace ImagePreset

def all : List ImagePreset := [avatar, banner, feedThumbnail, feedFullsize]

def name : ImagePreset → String
  | avatar => "avatar"
  | banner => "banner"
  | feedThumbnail => "feed_thumbnail"
  | feedFullsize => "feed_fullsize"

end ImagePreset

/-- An image service; its base does not end in a slash. -/
structure ImageService where
  base : String
deriving DecidableEq

namespace ImageService

def ofUrl (url : Url) : ImageService :=
  ⟨String.ofList (Text.trimEnd '/' url.render)⟩

/-- The address of an image that an account has uploaded. -/
def address (service : ImageService) (preset : ImagePreset) (did : Did) (cid : Cid) : String :=
  service.base ++ "/img/" ++ preset.name ++ "/plain/" ++ did.text ++ "/" ++ cid.text ++ "@jpeg"

end ImageService

end FeedHydration
