import Newsfeed.Annotated
import Newsfeed.Post.Shape

/-!
# The JSON shape of annotated texts

An entity is written as an object with its ends and addresses, and with an object
that tells its kind by name.
-/

namespace Newsfeed

def EntityKind.toJson : EntityKind → Json
  | url => .object [("kind", .string "url")]
  | media id kind image =>
    .object [("kind", .string "media"), ("id", .ofInt64 id),
      ("media_type", .ofOption .string kind), ("media_url_https", .ofOption .string image)]

def Entity.toJson {s : Space} (e : Entity s) : Json :=
  .object [("start", e.span.start.toJson), ("end", e.span.stop.toJson), ("url", .string e.url),
    ("display_url", .ofOption .string e.shown), ("expanded_url", .ofOption .string e.expanded),
    ("kind", e.kind.toJson)]

def Annotated.toJson {s : Space} (a : Annotated s) : Json :=
  .object [("text", .string a.text), ("url_entities", .ofList Entity.toJson a.links),
    ("media_entities", .ofList Entity.toJson a.media)]

end Newsfeed
