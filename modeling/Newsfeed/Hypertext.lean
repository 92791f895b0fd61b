import Newsfeed.Annotated
import Newsfeed.Text.Blank

/-!
# Hypertexts

A hypertext is a shown text with the anchors that lie over it.  `Annotated.hypertext` makes one: it
walks the merged entities from left to right over the units of the text, puts the display form of
each in its place and lays an anchor over it.  Every replacement changes the length of what is being
edited, and `Splice.offset` is the running difference between places in the text as it came and
places in the edited one.
-/

namespace Newsfeed

/-- A stretch of shown text that can be clicked. -/
structure Anchor where
  span : Span .display
  url : String
  color : UInt32
  /-- Whether somebody listens for clicks. -/
  clickable : Bool
deriving DecidableEq

/-- The address that a click hands to the listener, if there is one. -/
def Anchor.click (a : Anchor) : Option String := if a.clickable then some a.url else none

/-- A shown text with its anchors. -/
structure Hypertext where
  text : String
  anchors : List Anchor
deriving DecidableEq

namespace Hypertext

def empty : Hypertext := ⟨"", []⟩

def slice (h : Hypertext) (span : Span .display) : Option String :=
  (Text.slice h.text.toList span.start span.stop).map String.ofList

/-- The anchors that overlap a stretch. -/
def anchorsIn (h : Hypertext) (span : Span .display) : List Anchor :=
  h.anchors.filter fun a => a.span.start < span.stop ∧ span.start < a.span.stop

end Hypertext

/-- Media and links in one list, in ascending order of their start. Among equal starts media come
first, and entities of one list keep their order. -/
def mergeEntities (links media : List (Entity .display)) : List (Entity .display) :=
  (media ++ links).mergeSort fun a b => a.span.start ≤ b.span.start

/-- The links merged with the media, or alone and in their own order where
there is no list of media. -/
def mergeEntitiesIfAny (links : List (Entity .display)) :
    Option (List (Entity .display)) → List (Entity .display)
  | none => links
  | some media => mergeEntities links media

/-- How a text is turned into hypertext. -/
structure LinkStyle where
  /-- Whether the last photo is cut out of the text. -/
  stripPhoto : Bool
  color : UInt32
  /-- Whether somebody listens for clicks. -/
  clickable : Bool

/-- A text that is being edited. -/
structure Splice where
  units : List UInt16
  /-- By how many units the text became shorter. -/
  offset : Int
  anchors : List Anchor
deriving DecidableEq

namespace Splice

/-- The units of a text, with nothing replaced. -/
def ofText (text : List Char) : Splice := ⟨Text.encode text, 0, []⟩

/-- Where a stretch of the unedited text lies in the edited one, if it lies in it. -/
def locate (w : Splice) (span : Span .display) : Option (Nat × Nat) := do
  let i ← (span.start.shift (-w.offset)).index?
  let j ← (span.stop.shift (-w.offset)).index?
  if i ≤ j ∧ j ≤ w.units.length then some (i, j) else none

/-- Puts new units in the place of those from `i` to `j`. -/
def replace (w : Splice) (i j : Nat) (units : List UInt16) : Splice :=
  { w with
    units := w.units.take i ++ units ++ w.units.drop j
    offset := w.offset + ((j - i : Nat) - (units.length : Nat) : Int) }

/-- The units an entity is shown as: its display form or, without one, the units it covers. -/
def shownUnits (w : Splice) (e : Entity .display) (i j : Nat) : List UInt16 :=
  match e.shown with
  | some shown => if shown.isEmpty then (w.units.drop i).take (j - i) else Text.encode shown.toList
  | none => (w.units.drop i).take (j - i)

/-- Shows an entity in the edited text and lays an anchor over it. One that lies outside is left
alone, and a photo that starts where the stripped one does is cut out. -/
def add (style : LinkStyle) (stripped : Option (Offset .display)) (w : Splice)
    (e : Entity .display) : Splice :=
  match w.locate e.span with
  | none => w
  | some (i, j) =>
    if e.isPhoto ∧ stripped = some e.span.start then w.replace i j []
    else
      let units := w.shownUnits e i j
      let w := w.replace i j units
      let span := ⟨.ofInt i, .ofInt (i + units.length)⟩
      { w with anchors := w.anchors ++ [⟨span, e.url, style.color, style.clickable⟩] }

/-- The edited text without the blanks at its end, and what is left of the anchors in it. -/
def finish (w : Splice) : Hypertext :=
  let text := Text.trimEnd (Text.decode w.units)
  let stop : Offset .display := .ofInt (Text.length text)
  let clip (a : Anchor) : Anchor :=
    { a with span.stop := if a.span.stop ≤ stop then a.span.stop else stop }
  ⟨String.ofList text, (w.anchors.map clip).filter fun a => a.span.start < a.span.stop⟩

end Splice

namespace Annotated

/-- The start of the photo that is cut out, if one is. -/
def strippedStart? (a : Annotated .display) (style : LinkStyle) : Option (Offset .display) :=
  if style.stripPhoto then a.lastPhoto?.map (·.span.start) else none

/-- The text with its entities in their display form and an anchor over each. -/
def hypertext (a : Annotated .display) (style : LinkStyle) : Hypertext :=
  if a.text.isEmpty then .empty
  else
    ((mergeEntities a.links a.media).foldl (Splice.add style (a.strippedStart? style))
      (.ofText a.text.toList)).finish

end Annotated

end Newsfeed
