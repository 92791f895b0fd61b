import Newsfeed.Json.Record
import Newsfeed.Post

/-!
# The JSON shape of posts

Each type of a post is written as an object with all its fields, null where a value is absent, and
read by the rules of `Record`: required fields are ids, addresses, stretches, tags and handles, and
every other field may be left out.
-/

namespace Newsfeed

/-! ## Offsets and stretches -/

/-- An offset is written as its count. -/
def Offset.toJson {s : Space} (a : Offset s) : Json := .int a.toInt

def Offset.ofJson? {s : Space} (v : Json) : Option (Offset s) := v.int64?.map Offset.mk

/-- A stretch is written as its two ends. -/
def Span.toJson {s : Space} (span : Span s) : Json :=
  .array [span.start.toJson, span.stop.toJson]

def Span.ofJson? {s : Space} : Json → Option (Span s)
  | .array [start, stop] => do
    let start ← Offset.ofJson? start
    let stop ← Offset.ofJson? stop
    some ⟨start, stop⟩
  | _ => none

/-- A word is written as a number. -/
def Json.ofInt64 (n : Int64) : Json := .int n.toInt

/-! ## Authors and entities -/

namespace Author

def fieldNames : List String := ["id", "name", "screen_name"]

def toJson (a : Author) : Json :=
  .object [("id", .ofInt64 a.id), ("name", .ofOption .string a.name),
    ("screen_name", .ofOption .string a.handle)]

def ofJson? (v : Json) : Option Author := do
  let r ← Record.ofJson? fieldNames v
  let id ← r.required "id" Json.int64?
  let name ← r.optional "name" Json.string?
  let handle ← r.optional "screen_name" Json.string?
  some { id, name, handle }

end Author

namespace Link

def fieldNames : List String := ["url", "expanded_url", "display_url", "indices"]

def toJson (l : Link) : Json :=
  .object [("url", .string l.url), ("expanded_url", .ofOption .string l.expanded),
    ("display_url", .ofOption .string l.shown), ("indices", l.span.toJson)]

def ofJson? (v : Json) : Option Link := do
  let r ← Record.ofJson? fieldNames v
  let url ← r.required "url" Json.string?
  let expanded ← r.optional "expanded_url" Json.string?
  let shown ← r.optional "display_url" Json.string?
  let span ← r.required "indices" Span.ofJson?
  some { url, expanded, shown, span }

end Link

namespace Media

def fieldNames : List String :=
  ["url", "expanded_url", "display_url", "indices", "id", "media_url_https", "type"]

def toJson (m : Media) : Json :=
  .object [("url", .string m.url), ("expanded_url", .ofOption .string m.expanded),
    ("display_url", .ofOption .string m.shown), ("indices", m.span.toJson),
    ("id", .ofInt64 m.id), ("media_url_https", .ofOption .string m.image),
    ("type", .ofOption .string m.kind)]

/-- Reads a medium. Without an id it has id 0. -/
def ofJson? (v : Json) : Option Media := do
  let r ← Record.ofJson? fieldNames v
  let url ← r.required "url" Json.string?
  let expanded ← r.optional "expanded_url" Json.string?
  let shown ← r.optional "display_url" Json.string?
  let span ← r.required "indices" Span.ofJson?
  let id ← r.defaulted "id" Json.int64? 0
  let image ← r.optional "media_url_https" Json.string?
  let kind ← r.optional "type" Json.string?
  some { url, expanded, shown, span, id, image, kind }

end Media

namespace Hashtag

def fieldNames : List String := ["text", "indices"]

def toJson (h : Hashtag) : Json := .object [("text", .string h.text), ("indices", h.span.toJson)]

def ofJson? (v : Json) : Option Hashtag := do
  let r ← Record.ofJson? fieldNames v
  let text ← r.required "text" Json.string?
  let span ← r.required "indices" Span.ofJson?
  some { text, span }

end Hashtag

namespace Mention

def fieldNames : List String := ["screen_name", "name", "id", "indices"]

def toJson (m : Mention) : Json :=
  .object [("screen_name", .string m.handle), ("name", .ofOption .string m.name),
    ("id", .ofInt64 m.id), ("indices", m.span.toJson)]

/-- Reads a mention. Without an id it has id 0. -/
def ofJson? (v : Json) : Option Mention := do
  let r ← Record.ofJson? fieldNames v
  let handle ← r.required "screen_name" Json.string?
  let name ← r.optional "name" Json.string?
  let id ← r.defaulted "id" Json.int64? 0
  let span ← r.required "indices" Span.ofJson?
  some { handle, name, id, span }

end Mention

namespace Entities

def fieldNames : List String := ["urls", "media", "hashtags", "user_mentions"]

def toJson (e : Entities) : Json :=
  .object [("urls", .ofOption (.ofList Link.toJson) e.links),
    ("media", .ofOption (.ofList Media.toJson) e.media),
    ("hashtags", .ofOption (.ofList Hashtag.toJson) e.hashtags),
    ("user_mentions", .ofOption (.ofList Mention.toJson) e.mentions)]

def ofJson? (v : Json) : Option Entities := do
  let r ← Record.ofJson? fieldNames v
  let links ← r.optional "urls" (Json.list? Link.ofJson?)
  let media ← r.optional "media" (Json.list? Media.ofJson?)
  let hashtags ← r.optional "hashtags" (Json.list? Hashtag.ofJson?)
  let mentions ← r.optional "user_mentions" (Json.list? Mention.ofJson?)
  some { links, media, hashtags, mentions }

end Entities

/-! ## Posts -/

namespace Post

def fieldNames : List String := ["id", "text", "entities", "user", "created_at"]

def toJson (p : Post) : Json :=
  .object [("id", .ofInt64 p.id), ("text", .ofOption .string p.text),
    ("entities", .ofOption Entities.toJson p.entities),
    ("user", .ofOption Author.toJson p.author), ("created_at", .ofOption .string p.createdAt)]

def ofJson? (v : Json) : Option Post := do
  let r ← Record.ofJson? fieldNames v
  let id ← r.required "id" Json.int64?
  let text ← r.optional "text" Json.string?
  let entities ← r.optional "entities" Entities.ofJson?
  let author ← r.optional "user" Author.ofJson?
  let createdAt ← r.optional "created_at" Json.string?
  some { id, text, entities, author, createdAt }

end Post

end Newsfeed
