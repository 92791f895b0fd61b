import Newsfeed.Post
import Newsfeed.Text.Units

/-!
# Annotated texts

A text with the links and media that lie in it, all in one offset space.  In raw space it is the
staging form that `Annotated.addEntities` fills from a post; in display space it is what a reader is
shown, and `Annotated.slice` cuts the text at display offsets.
-/

namespace Newsfeed

/-- What an entity points at. -/
inductive EntityKind
  | url
  | media (id : Int64) (kind : Option String) (image : Option String)
deriving DecidableEq

/-- A stretch of text that links to something. -/
structure Entity (s : Space) where
  span : Span s
  /-- What a click on the entity opens. -/
  url : String
  /-- What is shown in place of the stretch. -/
  shown : Option String
  expanded : Option String
  kind : EntityKind
deriving DecidableEq

namespace Entity

variable {s t : Space}

def ofLink (l : Link) : Entity .raw := ⟨l.span, l.url, l.shown, l.expanded, .url⟩

def ofMedia (m : Media) : Entity .raw :=
  ⟨m.span, m.url, m.shown, m.expanded, .media m.id m.kind m.image⟩

def isPhoto (e : Entity s) : Bool :=
  match e.kind with
  | .url => false
  | .media _ kind _ => kind = some MediaKind.photo.name

/-- The same entity over another stretch, perhaps in another space. -/
def place (e : Entity s) (span : Span t) : Entity t := ⟨span, e.url, e.shown, e.expanded, e.kind⟩

end Entity

/-- A text with the links and media in it. -/
structure Annotated (s : Space) where
  text : String
  links : List (Entity s)
  media : List (Entity s)
deriving DecidableEq

namespace Annotated

def empty {s : Space} : Annotated s := ⟨"", [], []⟩

/-- Appends the links and media of a post, in their order. -/
def addEntities (a : Annotated .raw) (p : Post) : Annotated .raw :=
  match p.entities with
  | none => a
  | some e =>
    { a with
      links := a.links ++ e.linkList.map Entity.ofLink
      media := a.media ++ e.mediaList.map Entity.ofMedia }

/-- The last of the photos, which is shown beside the text. -/
def lastPhoto? {s : Space} (a : Annotated s) : Option (Entity s) :=
  a.media.reverse.find? Entity.isPhoto

def hasPhoto {s : Space} (a : Annotated s) : Bool := a.lastPhoto?.isSome

def slice (a : Annotated .display) (span : Span .display) : Option String :=
  (Text.slice a.text.toList span.start span.stop).map String.ofList

end Annotated

end Newsfeed
