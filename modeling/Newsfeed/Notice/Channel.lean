import Newsfeed.Notice

/-!
# Broadcast channels

A channel keeps the last notices that were sent, and each subscriber reads them at its own pace from
the moment it subscribed.  One that falls behind by more than the channel keeps is told how many it
missed and goes on with the oldest that is kept.
-/

namespace Newsfeed

/-- A broadcast of notices. -/
structure Channel where
  /-- How many notices were sent. -/
  sent : Nat
  /-- The last ones sent, newest first. -/
  kept : List Notice
  /-- Each subscriber with the number of the notice that it reads next. -/
  readers : List (Nat × Nat)
  /-- The number of the next subscriber. -/
  nextReader : Nat
deriving DecidableEq

/-- What a subscriber finds when it reads. -/
inductive Reception
  | notice (e : Notice)
  /-- Nothing is left to read. -/
  | nothing
  /-- So many notices were dropped unread. -/
  | lagged (missed : Nat)
deriving DecidableEq

namespace Channel

/-- The number of notices that are kept. -/
def capacity : Nat := 64

def empty : Channel := ⟨0, [], [], 0⟩

def send (c : Channel) (e : Notice) : Channel :=
  { c with sent := c.sent + 1, kept := (e :: c.kept).take capacity }

/-- A new subscriber, who reads what is sent from now on. -/
def subscribe (c : Channel) : Channel × Nat :=
  ({ c with readers := c.readers ++ [(c.nextReader, c.sent)], nextReader := c.nextReader + 1 },
    c.nextReader)

/-- Drops a subscriber, and tells whether it existed. -/
def unsubscribe (c : Channel) (n : Nat) : Channel × Bool :=
  ({ c with readers := c.readers.filter (·.1 ≠ n) }, (c.readers.lookup n).isSome)

/-- Sets the number of the notice that a subscriber reads next. -/
def moveTo (c : Channel) (n place : Nat) : Channel :=
  { c with readers := c.readers.map fun r => if r.1 = n then (n, place) else r }

/-- What a subscriber reads next, if it exists. -/
def receive (c : Channel) (n : Nat) : Channel × Option Reception :=
  match c.readers.lookup n with
  | none => (c, none)
  | some place =>
    let oldest := c.sent - capacity
    if c.sent ≤ place then (c, some .nothing)
    else if place < oldest then (c.moveTo n oldest, some (.lagged (oldest - place)))
    else (c.moveTo n (place + 1), (c.kept[c.sent - 1 - place]?).map .notice)

end Channel

end Newsfeed
