import Newsfeed.Offset

/-!
# Posts

A post is an item of a feed as the server delivers it: an id, a text in escaped form, its
author, and the entities of the text, each with the stretch of raw text that it covers.
Lists of entities may be absent, which means the same as empty.  `lastPhoto?` picks the photo
that is shown beside the text.
-/

namespace Newsfeed

/-- Things with a numeric identity. Feeds order their items by it, newest first. -/
class Identified (α : Type) where
  /-- The identity, greater for newer items. -/
  id : α → Int64

/-- The kinds of media that are told apart. -/
inductive MediaKind
  | photo
  | video
  | animatedGif
deriving DecidableEq

namespace MediaKind

def name : MediaKind → String
  | photo => "photo"
  | video => "video"
  | animatedGif => "animated_gif"

def ofName? (text : String) : Option MediaKind :=
  [photo, video, animatedGif].find? (·.name = text)

end MediaKind

/-- The one who wrote a post. -/
structure Author where
  id : Int64
  name : Option String
  /-- The name without blanks that mentions use. -/
  handle : Option String
deriving DecidableEq

/-- A link in a text. -/
structure Link where
  /-- The shortened address, as it stands in the text. -/
  url : String
  /-- The address it leads to. -/
  expanded : Option String
  /-- What is shown in place of `url`. -/
  shown : Option String
  span : Span .raw
deriving DecidableEq

/-- A picture or film attached to a text, with the link that stands for it. -/
structure Media where
  url : String
  expanded : Option String
  shown : Option String
  span : Span .raw
  id : Int64
  /-- Where the picture is found. -/
  image : Option String
  /-- The name of the kind, which need not be a known one. -/
  kind : Option String
deriving DecidableEq

/-- A tag in a text. -/
structure Hashtag where
  text : String
  span : Span .raw
deriving DecidableEq

/-- A mention of an author in a text. -/
structure Mention where
  handle : String
  name : Option String
  id : Int64
  span : Span .raw
deriving DecidableEq

structure Entities where
  links : Option (List Link)
  media : Option (List Media)
  hashtags : Option (List Hashtag)
  mentions : Option (List Mention)
deriving DecidableEq

/-- An item of a feed as the server delivers it. -/
structure Post where
  id : Int64
  /-- The text in escaped form. -/
  text : Option String
  entities : Option Entities
  author : Option Author
  createdAt : Option String
deriving DecidableEq

instance : Identified Post := ⟨Post.id⟩

/-- The text in escaped form, empty if there is none. -/
def Post.rawText (p : Post) : String := p.text.getD ""

namespace Media

def isPhoto (m : Media) : Bool := m.kind = some MediaKind.photo.name

def kind? (m : Media) : Option MediaKind := m.kind.bind MediaKind.ofName?

end Media

namespace Entities

def linkList (e : Entities) : List Link := e.links.getD []

def mediaList (e : Entities) : List Media := e.media.getD []

def lastPhoto? (e : Entities) : Option Media := e.mediaList.reverse.find? Media.isPhoto

def hasPhoto (e : Entities) : Bool := e.lastPhoto?.isSome

end Entities

end Newsfeed
