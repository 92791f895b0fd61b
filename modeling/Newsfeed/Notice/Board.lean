import Newsfeed.Notice.Channel
import Newsfeed.Text.Diagnostic

/-!
# Notice boards

A board tells its observers of changes and broadcasts them to subscribers.  Observers are told in
the order of their registration, from a snapshot taken when the notification starts, and the
broadcast comes after them.  An observer may act on the board from inside: its reactions are carried
out when it hears the notice they wait for, each once.  `trace` lists what happens in order; it
tells notifications inside each other apart by their numbers.

`Board.notifyBy` is one notification for any way of carrying out the commands of a reaction;
`Board.perform` ties the knot.  Every nested command stems from a reaction that is spent, so their
number bounds the nesting.
-/

namespace Newsfeed

/-- Something done to a board. -/
inductive Command
  /-- Registers an observer, which may care for changes alone, and its reactions: commands to
  carry out when a notice is first heard. -/
  | register (changesOnly : Bool) (reactions : List (Notice × List Command))
  | unregister (observer : Nat)
  | notify (e : Notice)
  /-- So many notices in a row, every third one an invalidation. -/
  | notifyMany (count : Nat)
  | subscribe
  | unsubscribe (reader : Nat)
  | receive (reader : Nat)
  /-- Asks for the diagnostic form. -/
  | describe

inductive Reply
  | done
  | flag (b : Bool)
  | observer (n : Nat)
  | reader (n : Nat)
  /-- What was read, unless there is no such subscriber. -/
  | received (r : Option Reception)
  | text (s : String)
deriving DecidableEq

/-- Something that happened on a board. -/
inductive Happening
  /-- In a notification, an observer was told, and listened or not. -/
  | told (notification : Nat) (e : Notice) (observer : Nat) (listened : Bool)
  /-- A reaction of an observer carried out a command. -/
  | reacted (observer : Nat) (reply : Reply)
  /-- At the end of a notification, its notice was broadcast. -/
  | sent (notification : Nat) (e : Notice)
deriving DecidableEq

/-- Whether an observer reports a happening: it heard something or reacted. -/
def Happening.isReported : Happening → Bool
  | told _ _ _ listened => listened
  | reacted _ _ => true
  | sent _ _ => false

structure Observer where
  id : Nat
  /-- Whether invalidations pass it by. -/
  changesOnly : Bool
  /-- The reactions that are not yet spent. -/
  reactions : List (Notice × List Command)

/-- A notice board. -/
structure Board where
  /-- Every observer that was ever registered. -/
  observers : List Observer
  /-- The observers that are registered, in the order of their registration. -/
  registered : List Nat
  /-- The id of the next observer. -/
  nextId : Nat
  /-- The number of the next notification. -/
  nextNotification : Nat
  channel : Channel
  trace : List Happening

/-! ## The number of reactions -/

namespace Command

mutual

/-- The number of reactions in a command. -/
def reactionCount : Command → Nat
  | register _ reactions => countReactions reactions
  | _ => 0

/-- The number of reactions among some and in their commands. -/
def countReactions : List (Notice × List Command) → Nat
  | [] => 0
  | (_, commands) :: reactions => 1 + countAll commands + countReactions reactions

/-- The number of reactions in some commands. -/
def countAll : List Command → Nat
  | [] => 0
  | c :: cs => c.reactionCount + countAll cs

end

end Command

namespace Board

def empty : Board := ⟨[], [], 0, 0, .empty, []⟩

def count (b : Board) : Nat := b.registered.length

/-- The number of reactions that are not yet spent. -/
def reactionCount (b : Board) : Nat :=
  b.observers.foldr (fun o n => Command.countReactions o.reactions + n) 0

def record (b : Board) (h : Happening) : Board := { b with trace := b.trace ++ [h] }

/-- Registers an observer under the next id. -/
def register (b : Board) (changesOnly : Bool) (reactions : List (Notice × List Command)) :
    Board × Nat :=
  ({ b with
      observers := b.observers ++ [⟨b.nextId, changesOnly, reactions⟩]
      registered := b.registered ++ [b.nextId]
      nextId := b.nextId + 1 }, b.nextId)

/-- Removes an observer, and tells whether it was registered. -/
def unregister (b : Board) (n : Nat) : Board × Bool :=
  ({ b with registered := b.registered.filter (· ≠ n) }, b.registered.contains n)

/-- The commands of the first reaction that waits for a notice, and the other reactions. -/
def takeReaction (e : Notice) :
    List (Notice × List Command) → List Command × List (Notice × List Command)
  | [] => ([], [])
  | (trigger, commands) :: reactions =>
    if trigger = e then (commands, reactions)
    else
      let (found, others) := takeReaction e reactions
      (found, (trigger, commands) :: others)

/-- In notification `k`, tells an observer of a notice, and gives the commands of the reaction that
this spends. -/
def tell (b : Board) (k : Nat) (e : Notice) (n : Nat) : Board × List Command :=
  match b.observers.find? (·.id = n) with
  | none => (b, [])
  | some o =>
    if o.changesOnly && e = .invalidated then (b.record (.told k e n false), [])
    else
      let (commands, reactions) := takeReaction e o.reactions
      let spend (p : Observer) : Observer := if p.id = n then { p with reactions } else p
      (({ b with observers := b.observers.map spend }).record (.told k e n true), commands)

/-- Tells an observer of a notice and carries out its reaction with `run`. -/
def tellBy (run : Board → Command → Board × Reply) (k : Nat) (e : Notice) (b : Board) (n : Nat) :
    Board :=
  let (b, commands) := b.tell k e n
  commands.foldl (fun b c =>
    let (b, reply) := run b c
    b.record (.reacted n reply)) b

/-- Broadcasts the notice of notification `k`. -/
def broadcast (b : Board) (k : Nat) (e : Notice) : Board :=
  ({ b with channel := b.channel.send e }).record (.sent k e)

/-- One notification: the observers registered now are told in order, then subscribers are. -/
def notifyBy (run : Board → Command → Board × Reply) (b : Board) (e : Notice) : Board :=
  let k := b.nextNotification
  (b.registered.foldl (tellBy run k e) { b with nextNotification := k + 1 }).broadcast k e

/-- The notice with a given number in a row of which every third is an invalidation. -/
def numbered (i : Nat) : Notice := if i % 3 = 2 then .invalidated else .changed

def describe (b : Board) : String :=
  Diagnostic.record "DataSetObservable"
    [("observers", Diagnostic.nat b.count),
      ("subscribers", Diagnostic.nat b.channel.readers.length)]

/-- Carries out a command, with at most `fuel` commands inside each other. -/
def performWithin : (fuel : Nat) → Board → Command → Board × Reply
  | 0, b, _ => (b, .done)
  | fuel + 1, b, command =>
    match command with
    | .register changesOnly reactions =>
      let (b, n) := b.register changesOnly reactions
      (b, .observer n)
    | .unregister n =>
      let (b, existed) := b.unregister n
      (b, .flag existed)
    | .notify e => (b.notifyBy (performWithin fuel) e, .done)
    | .notifyMany count =>
      ((List.range count).foldl (fun b i => b.notifyBy (performWithin fuel) (numbered i)) b, .done)
    | .subscribe =>
      let (channel, n) := b.channel.subscribe
      ({ b with channel }, .reader n)
    | .unsubscribe n =>
      let (channel, existed) := b.channel.unsubscribe n
      ({ b with channel }, .flag existed)
    | .receive n =>
      let (channel, r) := b.channel.receive n
      ({ b with channel }, .received r)
    | .describe => (b, .text b.describe)

/-- Carries out a command and all that observers do in reaction to it. -/
def perform (b : Board) (command : Command) : Board × Reply :=
  b.performWithin (b.reactionCount + command.reactionCount + 1) command

end Board

end Newsfeed
