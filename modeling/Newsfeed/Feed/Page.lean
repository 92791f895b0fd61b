import Newsfeed.Json.Record
import Newsfeed.Post

/-!
# Pages

A source answers a request with a page of items, newest first, and a cursor that says
which ids the page spans.  The cursor of a page in this order goes from the id of its
last item to that of its first.
-/

namespace Newsfeed

/-- The ids that a page spans. -/
structure Cursor where
  /-- The id of the oldest item, behind which the older page begins. -/
  oldest : Option Int64
  /-- The id of the newest item, before which the newer page ends. -/
  newest : Option Int64
deriving DecidableEq

namespace Cursor

def empty : Cursor := ⟨none, none⟩

/-- The cursor of a page of items, newest first. -/
def ofItems {α : Type} [Identified α] (items : List α) : Cursor :=
  ⟨items.getLast?.map Identified.id, items.head?.map Identified.id⟩

def fieldNames : List String := ["min_position", "max_position"]

def toJson (c : Cursor) : Json :=
  .object [("min_position", .ofOption (fun n : Int64 => .int n.toInt) c.oldest),
    ("max_position", .ofOption (fun n : Int64 => .int n.toInt) c.newest)]

def ofJson? (v : Json) : Option Cursor := do
  let r ← Record.ofJson? fieldNames v
  let oldest ← r.optionalByName "min_position" Json.int64?
  let newest ← r.optionalByName "max_position" Json.int64?
  some { oldest, newest }

end Cursor

/-- A page of items with its cursor. -/
structure Page (α : Type) where
  cursor : Cursor
  items : List α
deriving DecidableEq

namespace Page

variable {α : Type}

/-- A page whose cursor spans its items. -/
def ofItems [Identified α] (items : List α) : Page α := ⟨.ofItems items, items⟩

def isEmpty (p : Page α) : Bool := p.items.isEmpty

end Page

/-- The greatest id below an exclusive bound, as far as words go. -/
def inclusiveBound (bound : Option Int64) : Option Int64 :=
  bound.map fun n => Word.clamp (n.toInt - 1)

end Newsfeed
