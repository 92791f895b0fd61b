import Newsfeed.Feed.Archive
import Newsfeed.Feed.Failure
import Newsfeed.Feed.Paging
import Newsfeed.Settings

/-!
# Feeds

A feed owns a list of items that grows by pages.  A request is either refused or issued, and an
issued one is pending until its result comes back; results may come in any order, and the list
changes only when `Feed.complete` applies one.

* A refresh asks for the newest page and replaces the list.
* A request for newer items puts its page in front.
* A request for older items puts its page behind.

An empty page changes nothing but the edge it was requested at.  `α` is the type of the items and
`κ` that of the callbacks, which a feed keeps and gives back.
-/

namespace Newsfeed

/-- What a request is for. -/
inductive RequestKind
  | refresh
  | newer
  | older
deriving DecidableEq

/-- A request whose result has not come back. -/
structure Pending (κ : Type) where
  id : Nat
  kind : RequestKind
  callback : Option κ
deriving DecidableEq

/-- What an issued request asks the source for. -/
structure Fetch where
  id : Nat
  kind : RequestKind
  /-- The id beyond which items are wanted. -/
  position : Option Int64
deriving DecidableEq

/-- What becomes of a request when it is made. -/
inductive Response (κ : Type)
  /-- It is refused, and its callback is told. -/
  | refused (why : Failure) (callback : Option κ)
  /-- The source is asked. -/
  | issued (fetch : Fetch)
deriving DecidableEq

/-- The result of a request. -/
abbrev Result (α : Type) := Except Failure (Page α)

/-- What follows from a result. -/
structure Outcome (κ : Type) where
  /-- Whether the list changed, which observers are told first. -/
  changed : Bool
  /-- The callback to give the result to. -/
  callback : Option κ
deriving DecidableEq

/-- A list of items that grows by pages. -/
structure Feed (α κ : Type) where
  items : List α
  paging : Paging
  settings : Settings
  pending : List (Pending κ)
  /-- The number of the next request. -/
  nextRequest : Nat
deriving DecidableEq

namespace Feed

variable {α κ : Type}

/-- A feed with given items, in a given state, with nothing pending. -/
def create (settings : Settings) (items : List α) (paging : Paging) : Feed α κ :=
  ⟨items, paging, settings, [], 0⟩

/-! ## Queries -/

/-- Whether the list is short enough to grow. -/
def hasRoom (f : Feed α κ) : Bool := f.items.length < f.settings.capacity

def isLast (f : Feed α κ) (position : Nat) : Bool := position + 1 = f.items.length

/-! ## Requests -/

def issue (f : Feed α κ) (kind : RequestKind) (position : Option Int64) (callback : Option κ) :
    Feed α κ × Response κ :=
  ({ f with
      pending := f.pending ++ [⟨f.nextRequest, kind, callback⟩]
      nextRequest := f.nextRequest + 1 }, .issued ⟨f.nextRequest, kind, position⟩)

/-- Forgets the cursors and asks for the newest page. Room does not matter; under the gated policy
no other request may be out. -/
def refresh (f : Feed α κ) (callback : Option κ) : Feed α κ × Response κ :=
  if f.paging.inFlight ∧ f.settings.refresh = .gated then (f, .refused .inFlight callback)
  else { f with paging := f.paging.depart.reset }.issue .refresh none callback

/-- Asks for a page to add at one end, if there is room and no other request is out. -/
def extend (f : Feed α κ) (kind : RequestKind) (position : Option Int64) (callback : Option κ) :
    Feed α κ × Response κ :=
  if f.hasRoom then
    match f.paging.begin? with
    | some paging => { f with paging }.issue kind position callback
    | none => (f, .refused .inFlight callback)
  else (f, .refused .noRoom callback)

def requestNewer (f : Feed α κ) (callback : Option κ) : Feed α κ × Response κ :=
  f.extend .newer f.paging.newerThan callback

def requestOlder (f : Feed α κ) (callback : Option κ) : Feed α κ × Response κ :=
  f.extend .older f.paging.olderThan callback

/-- Whether older items are wanted once the item at a position is shown. -/
def wantsMore (f : Feed α κ) (position : Nat) : Bool :=
  f.isLast position && f.hasRoom && !f.paging.inFlight && f.paging.olderEdge ≠ .exhausted

/-- Asks for older items if they are wanted once the item at a position is shown. -/
def requestMore (f : Feed α κ) (position : Nat) : Feed α κ × Option (Response κ) :=
  if f.wantsMore position then
    let (f, response) := f.requestOlder none
    (f, some response)
  else (f, none)

/-! ## Results -/

/-- Adds a page where its request wants it. -/
def merge (f : Feed α κ) (kind : RequestKind) (page : Page α) : Feed α κ :=
  if page.isEmpty then
    match kind with
    | .refresh | .newer => { f with paging.newerEdge := .exhausted }
    | .older => { f with paging.olderEdge := .exhausted }
  else
    match kind with
    | .refresh =>
      { f with
        items := page.items
        paging := { f.paging.setNewer (some page.cursor) with newerEdge := .hasMore } }
    | .newer =>
      { f with
        items := page.items ++ f.items
        paging := { f.paging.setNewer (some page.cursor) with newerEdge := .hasMore } }
    | .older =>
      { f with
        items := f.items ++ page.items
        paging := { f.paging.setOlder (some page.cursor) with olderEdge := .hasMore } }

/-- Applies the result of a request: its page is added, and no request is out any more. The result
of a request that is not pending changes nothing. -/
def complete (f : Feed α κ) (id : Nat) (result : Result α) : Feed α κ × Outcome κ :=
  match f.pending.find? (·.id = id) with
  | none => (f, ⟨false, none⟩)
  | some request =>
    let f := { f with pending := f.pending.filter (·.id ≠ id) }
    match result with
    | .ok page =>
      let f := f.merge request.kind page
      ({ f with paging := f.paging.finish }, ⟨!page.isEmpty, request.callback⟩)
    | .error _ => ({ f with paging := f.paging.finish }, ⟨false, request.callback⟩)

end Feed

end Newsfeed
