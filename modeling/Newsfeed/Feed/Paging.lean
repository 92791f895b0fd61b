import Newsfeed.Feed.Page

/-!
# The state of paging

Where the next request in each direction starts, what is known about both ends of the list, and
whether a request is out.  A request is begun by `Paging.begin?`, which fails while another one is
out, and ended by `Paging.finish`.
-/

namespace Newsfeed

/-- What is known about one end of a list. -/
inductive Edge
  /-- Nothing was requested there since the last reset. -/
  | unknown
  /-- The last page there had items. -/
  | hasMore
  /-- The last page there was empty. -/
  | exhausted
deriving DecidableEq

namespace Edge

def name : Edge → String
  | unknown => "unknown"
  | hasMore => "has_more"
  | exhausted => "exhausted"

def ofName? (text : String) : Option Edge := [unknown, hasMore, exhausted].find? (·.name = text)

end Edge

/-- How far paging has come. -/
structure Paging where
  /-- The cursor from which newer items are requested. -/
  newer : Option Cursor
  /-- The cursor from which older items are requested. -/
  older : Option Cursor
  newerEdge : Edge
  olderEdge : Edge
  /-- Whether a request is out. -/
  inFlight : Bool
deriving DecidableEq

namespace Paging

/-- Nothing is known and no request is out. -/
def initial : Paging := ⟨none, none, .unknown, .unknown, false⟩

/-- Goes on from known cursors. -/
def ofCursors (newer older : Option Cursor) : Paging := { initial with newer, older }

def newerThan (p : Paging) : Option Int64 := p.newer.bind Cursor.newest

def olderThan (p : Paging) : Option Int64 := p.older.bind Cursor.oldest

/-- Sets the cursors that are not set. -/
def fill (p : Paging) (c : Option Cursor) : Paging :=
  { p with newer := p.newer <|> c, older := p.older <|> c }

/-- Sets the newer cursor, and the older one if it is not set. -/
def setNewer (p : Paging) (c : Option Cursor) : Paging := { p with newer := c }.fill c

/-- Sets the older cursor, and the newer one if it is not set. -/
def setOlder (p : Paging) (c : Option Cursor) : Paging := { p with older := c }.fill c

def reset (p : Paging) : Paging :=
  { p with newer := none, older := none, newerEdge := .unknown, olderEdge := .unknown }

def depart (p : Paging) : Paging := { p with inFlight := true }

/-- Begins a request, unless one is out. -/
def begin? (p : Paging) : Option Paging := if p.inFlight then none else some p.depart

def finish (p : Paging) : Paging := { p with inFlight := false }

theorem begin?_eq_some_iff {p q : Paging} :
    p.begin? = some q ↔ p.inFlight = false ∧ p.depart = q := by
  cases h : p.inFlight <;> simp [begin?, h]

theorem begin?_eq_none_iff {p : Paging} : p.begin? = none ↔ p.inFlight = true := by
  cases h : p.inFlight <;> simp [begin?, h]

@[simp]
theorem inFlight_depart (p : Paging) : p.depart.inFlight = true := rfl

@[simp]
theorem inFlight_finish (p : Paging) : p.finish.inFlight = false := rfl

@[simp]
theorem inFlight_reset (p : Paging) : p.reset.inFlight = p.inFlight := rfl

@[simp]
theorem inFlight_setNewer (p : Paging) (c : Option Cursor) :
    (p.setNewer c).inFlight = p.inFlight := rfl

@[simp]
theorem inFlight_setOlder (p : Paging) (c : Option Cursor) :
    (p.setOlder c).inFlight = p.inFlight := rfl

end Paging

end Newsfeed
