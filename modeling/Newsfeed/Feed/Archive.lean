import Newsfeed.Feed.Page

/-!
# Archives

An archive is a source that holds its items in memory, newest first.  It answers with the newest
items between two bounds, as many as a page has.
-/

namespace Newsfeed

/-- A source that holds its items, newest first. -/
structure Archive (α : Type) where
  items : List α
  /-- The number of items of a full page. -/
  pageSize : Nat
deriving DecidableEq

namespace Archive

variable {α : Type} [Identified α]

/-- The number of items of a full page where nothing else is said. -/
def standardPageSize : Nat := 30

/-- The archive of some items in any order. Items with equal ids keep their order. -/
def ofList (items : List α) : Archive α :=
  ⟨items.mergeSort fun a b => Identified.id b ≤ Identified.id a, standardPageSize⟩

/-- The same archive with pages of another size, at least one item. -/
def withPageSize (a : Archive α) (n : Nat) : Archive α := { a with pageSize := max n 1 }

/-- Adds an item, before those of the same id. -/
def push (a : Archive α) (item : α) : Archive α :=
  let newer := a.items.takeWhile fun other => Identified.id item < Identified.id other
  { a with items := newer ++ item :: a.items.drop newer.length }

/-- The newest items with an id above `since` and at most `upTo`, one page of them. -/
def query (a : Archive α) (since upTo : Option Int64) : Page α :=
  .ofItems ((a.items.filter fun item =>
    upTo.all (Identified.id item ≤ ·) && since.all (· < Identified.id item)).take a.pageSize)

def newer (a : Archive α) (since : Option Int64) : Page α := a.query since none

def older (a : Archive α) (bound : Option Int64) : Page α := a.query none (inclusiveBound bound)

end Archive

end Newsfeed
