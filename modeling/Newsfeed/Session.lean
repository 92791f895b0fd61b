import Newsfeed.Feed.Source
import Newsfeed.Notice.Board

/-!
# Sessions

A session is a feed at work: its source, the calls that have not ended, the results that wait in the
order in which they arrived, and the board that is told of changes.  A request that is issued
dispatches a call; the call is answered when it reaches the source, and once it is released its
result waits until `process` or `settle` applies it.  `Session.attend` lets calls reach the source
at once.  `trace` lists what happens in order.
-/

namespace Newsfeed

/-- Something that happens in a session. -/
inductive Event (α κ : Type)
  /-- The source was called, after so many other calls. -/
  | called (number : Nat) (kind : RequestKind) (position : Option Int64)
  /-- A callback was told a result. -/
  | answered (callback : κ) (result : Result α)
  /-- Something happened on the board. -/
  | board (h : Happening)

/-- A call of the source that has not ended. It has the number of its request. -/
structure Call (α : Type) where
  /-- What the source is asked for. -/
  fetch : Fetch
  /-- What came of it, once it has reached the source. -/
  result : Option (Result α)

def Call.answer {α : Type} (c : Call α) (request : Nat) (result : Result α) : Call α :=
  if c.fetch.id = request then { c with result := some result } else c

/-- A feed at work. -/
structure Session (α κ : Type) where
  feed : Feed α κ
  source : Source α
  board : Board
  /-- The calls that have not ended, in the order in which they were made. -/
  running : List (Call α)
  /-- The results that wait, with their requests, first come first. -/
  waiting : List (Nat × Result α)
  trace : List (Event α κ)

namespace Session

variable {α κ : Type}

def create (settings : Settings) (items : List α) (paging : Paging) (source : Source α) :
    Session α κ :=
  ⟨.create settings items paging, source, .empty, [], [], []⟩

/-- A session over a source, if there is one. -/
def build (settings : Settings) (items : List α) (paging : Paging) :
    Option (Source α) → Except Failure (Session α κ)
  | none => .error .noSource
  | some source => .ok (.create settings items paging source)

def record (s : Session α κ) (e : Event α κ) : Session α κ := { s with trace := s.trace ++ [e] }

def forget (s : Session α κ) : Session α κ := { s with trace := [] }

/-! ## The board -/

/-- Does something to the board, and records what happens there. -/
def onBoard {β : Type} (s : Session α κ) (act : Board → Board × β) : Session α κ × β :=
  let (board, b) := act { s.board with trace := [] }
  ({ s with board, trace := s.trace ++ board.trace.map .board }, b)

/-- Carries out a command on the board. -/
def perform (s : Session α κ) (command : Command) : Session α κ × Reply :=
  s.onBoard (·.perform command)

/-- Tells the observers of the list of a notice. -/
def notify (s : Session α κ) (e : Notice) : Session α κ := (s.perform (.notify e)).1

/-! ## Calls -/

def call? (s : Session α κ) (request : Nat) : Option (Call α) :=
  s.running.find? (·.fetch.id = request)

def dispatch (s : Session α κ) (fetch : Fetch) : Session α κ :=
  { s with running := s.running ++ [⟨fetch, none⟩] }

/-- The running call for a request is answered as given, if it has no result yet. -/
def answer (s : Session α κ) (request : Nat) (result : Fetch → Result α) : Session α κ :=
  match s.call? request with
  | some ⟨fetch, none⟩ => { s with running := s.running.map (·.answer request (result fetch)) }
  | _ => s

/-- The result of the running call for a request arrives, if the call has one. -/
def release (s : Session α κ) (request : Nat) : Session α κ × Bool :=
  match s.call? request with
  | some ⟨_, some result⟩ =>
    ({ s with
        running := s.running.filter (·.fetch.id ≠ request)
        waiting := s.waiting ++ [(request, result)] }, true)
  | _ => (s, false)

/-- Tells a callback its result. -/
def tell (s : Session α κ) (callback : Option κ) (result : Result α) : Session α κ :=
  match callback with
  | some callback => s.record (.answered callback result)
  | none => s

/-- Goes on with the response to a request: tells its callback, or makes the call. -/
def follow (s : Session α κ) : Feed α κ × Response κ → Session α κ
  | (feed, .refused why callback) => { s with feed }.tell callback (.error why)
  | (feed, .issued fetch) => { s with feed }.dispatch fetch

/-- Goes on with the response to a request that need not be made. -/
def followIfAny (s : Session α κ) : Feed α κ × Option (Response κ) → Session α κ
  | (feed, some response) => s.follow (feed, response)
  | (feed, none) => { s with feed }

variable [Identified α]

/-- The running call for a request reaches the source, if it has not done so. -/
def reach (s : Session α κ) (request : Nat) : Session α κ :=
  match s.call? request with
  | some ⟨fetch, none⟩ =>
    let s := if s.source.reported then s.record (.called request fetch.kind fetch.position) else s
    s.answer request s.source.answer
  | _ => s

/-- The call for a request reaches the source at once, and is released unless it is held. -/
def attendTo (s : Session α κ) (request : Nat) : Session α κ :=
  let s := s.reach request
  if s.source.held then s else (s.release request).1

/-- Attends to all running calls, in the order in which they were made. -/
def attend (s : Session α κ) : Session α κ := (s.running.map (·.fetch.id)).foldl attendTo s

/-! ## Requests -/

def refresh (s : Session α κ) (callback : Option κ) : Session α κ :=
  (s.follow (s.feed.refresh callback)).attend

def requestNewer (s : Session α κ) (callback : Option κ) : Session α κ :=
  (s.follow (s.feed.requestNewer callback)).attend

def requestOlder (s : Session α κ) (callback : Option κ) : Session α κ :=
  (s.follow (s.feed.requestOlder callback)).attend

/-- Requests older items if they are wanted once the item at a position is shown, and tells whether
they are. -/
def requestMore (s : Session α κ) (position : Nat) : Session α κ × Bool :=
  let requested := s.feed.requestMore position
  ((s.followIfAny requested).attend, requested.2.isSome)

/-- Adds an item to the archive behind the source. -/
def push (s : Session α κ) (item : α) : Session α κ := { s with source := s.source.push item }

/-! ## Results -/

/-- Applies a result: the list changes, observers are told, and then the callback is. -/
def apply (s : Session α κ) (request : Nat) (result : Result α) : Session α κ :=
  let (feed, outcome) := s.feed.complete request result
  let s := { s with feed }
  let s := if outcome.changed then s.notify .changed else s
  s.tell outcome.callback result

/-- Applies the result that waits longest, if one waits. -/
def applyNext (s : Session α κ) : Session α κ :=
  match s.waiting with
  | [] => s
  | (request, result) :: waiting => { s with waiting }.apply request result

def applyFirst : Nat → Session α κ → Session α κ
  | 0, s => s
  | n + 1, s => applyFirst n s.applyNext

/-- Applies all results that wait, and counts them. -/
def process (s : Session α κ) : Session α κ × Nat :=
  (s.applyFirst s.waiting.length, s.waiting.length)

/-- Ends the running call for a request. -/
def conclude (s : Session α κ) (request : Nat) : Session α κ :=
  ((s.reach request).release request).1

/-- Ends all running calls, in the order in which they were made. -/
def concludeAll (s : Session α κ) : Session α κ := (s.running.map (·.fetch.id)).foldl conclude s

/-- Ends all running calls and applies all results, after which nothing is pending. -/
def settle (s : Session α κ) : Session α κ := s.concludeAll.process.1

end Session

end Newsfeed
