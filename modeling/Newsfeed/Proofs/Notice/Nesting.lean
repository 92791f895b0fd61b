import Mathlib.Logic.Relation
import Newsfeed.Proofs.Notice.Spending

/-!
# Notifications inside notifications

An observer that is told of a notice may act on the board, and notify the others while they are
being told already.  `Board.Calls` relates a command to the ones that are carried out directly
inside it, each with the board that it finds.  Whatever a command calls happens in one stretch
within what the command does (`Surrounds`), and every notification of a board is called by some
command of its history (`exists_notifies`).

So each notification, however deep inside others, tells those who are registered when it starts,
each once and in order, and its broadcast is the last thing that it does: notices are broadcast in
the order in which the notifications are done.
-/

open Relation (ReflTransGen TransGen)

namespace Newsfeed

namespace Board

/-- The board after some commands. -/
def after (history : List Command) : Board := history.foldl (fun b c => (b.perform c).1) empty

/-- The board in a notification when some observers have been told. -/
def telling (b : Board) (e : Notice) (told : List Nat) : Board :=
  told.foldl (tellBy perform b.nextNotification e)
    { b with nextNotification := b.nextNotification + 1 }

/-- The board in a notification when some observers have been told, and then one more who has
carried out some commands. -/
def reacting (b : Board) (e : Notice) (told : List Nat) (n : Nat) (earlier : List Command) :
    Board :=
  earlier.foldl (reactBy perform n) ((b.telling e told).tell b.nextNotification e n).1

theorem notifyBy_eq (b : Board) (e : Notice) : b.notifyBy perform e =
    (b.telling e b.registered).broadcast b.nextNotification e := rfl

theorem telling_append (b : Board) (e : Notice) (told todo : List Nat) :
    b.telling e (told ++ todo) =
      todo.foldl (tellBy perform b.nextNotification e) (b.telling e told) := List.foldl_append

/-- A command is carried out on a board directly inside another one. -/
inductive Calls : Board × Command → Board × Command → Prop
  /-- An observer is told, and this is one of the commands of the reaction that it spends. -/
  | reaction {b : Board} {e : Notice} {told todo : List Nat} {n : Nat} {c : Command}
      {earlier later : List Command} (registered : b.registered = told ++ n :: todo)
      (commands : ((b.telling e told).tell b.nextNotification e n).2 = earlier ++ c :: later) :
      Calls (b, .notify e) (b.reacting e told n earlier, c)
  /-- One of a row of notifications. -/
  | row (b : Board) {count i : Nat} (h : i < count) :
      Calls (b, .notifyMany count)
        ((List.range i).foldl (fun b i => b.notifyBy perform (numbered i)) b, .notify (numbered i))

/-- What happens when a command is carried out. -/
def doings (b : Board) (c : Command) : List Happening :=
  (b.perform c).1.trace.drop b.trace.length

theorem grows_doings {b : Board} (hb : b.Sound) (c : Command) :
    b.Grows b.nextNotification (b.perform c).1 (b.doings c) := by
  obtain ⟨hs, h⟩ := grows_perform hb c
  rwa [doings, h.trace, List.drop_left]

/-! ## One call -/

/-- Some command is carried out inside another one, after and before these happenings. No number in
use meanwhile is used afterwards. -/
structure Surrounds (p q : Board × Command) (before later : List Happening) : Prop where
  starts : p.1.Grows p.1.nextNotification q.1 before
  trace : (p.1.perform p.2).1.trace = (q.1.perform q.2).1.trace ++ later
  next : (q.1.perform q.2).1.nextNotification ≤ (p.1.perform p.2).1.nextNotification
  apart : ∀ x ∈ later, ∀ k ∈ x.notification?,
    k < q.1.nextNotification ∨ (q.1.perform q.2).1.nextNotification ≤ k

namespace Surrounds

variable {p q r : Board × Command} {before before' later later' : List Happening}

theorem of_grows {m : Nat} (hstart : p.1.Grows p.1.nextNotification q.1 before)
    (hlater : (q.1.perform q.2).1.Grows m (p.1.perform p.2).1 later)
    (hm : m < q.1.nextNotification ∨ (q.1.perform q.2).1.nextNotification ≤ m) :
    Surrounds p q before later where
  starts := hstart
  trace := hlater.trace
  next := hlater.next
  apart x hx k hk := by
    have := (hlater.numbered x hx k hk).1
    omega

theorem refl (p : Board × Command) : Surrounds p p [] [] :=
  of_grows (.refl _ _) (.refl _ _) (.inr (Nat.le_refl _))

theorem trans (h : Surrounds p q before later) (h' : Surrounds q r before' later') :
    Surrounds p r (before ++ before') (later' ++ later) where
  starts := h.starts.trans (h'.starts.inside _)
  trace := by rw [h.trace, h'.trace, List.append_assoc]
  next := Nat.le_trans h'.next h.next
  apart x hx k hk := by
    rcases List.mem_append.1 hx with hx | hx
    · exact h'.apart x hx k hk
    · have := h.apart x hx k hk
      have := h'.starts.next
      have := h'.next
      omega

end Surrounds

section Reaction

variable {b : Board} {e : Notice} {told todo : List Nat} {n : Nat} {c : Command}
  {earlier later : List Command} (hb : b.Sound) (registered : b.registered = told ++ n :: todo)

include hb registered

theorem grows_telling (e : Notice) : ∃ hs, b.Grows b.nextNotification (b.telling e told) hs ∧
    b.nextNotification < (b.telling e told).nextNotification := by
  have hstart := grows_number b
  have hknown : ∀ n' ∈ told, ∃ o, b.observer? n' = some o := fun n' hn' =>
    hb.known (registered ▸ List.mem_append_left _ hn')
  obtain ⟨hs, h, -⟩ := isRunner_perform.grows_foldl_tellBy e
    (b := { b with nextNotification := b.nextNotification + 1 }) (Nat.lt_succ_self _)
    (hstart.sound hb) hknown
  exact ⟨_, hstart.trans h, h.next⟩

/-- A notification goes on from each command that an observer carries out. -/
theorem perform_notify_eq
    (commands : ((b.telling e told).tell b.nextNotification e n).2 = earlier ++ c :: later) :
    (b.perform (.notify e)).1 =
      (todo.foldl (tellBy perform b.nextNotification e) (later.foldl (reactBy perform n)
        (reactBy perform n (b.reacting e told n earlier) c))).broadcast b.nextNotification e := by
  rw [hb.perform_notify, notifyBy_eq, registered, telling_append, List.foldl_cons, tellBy_eq,
    commands, List.foldl_append, List.foldl_cons, ← reacting]

theorem grows_reacting (e : Notice) (earlier : List Command) :
    ∃ hs, b.Grows b.nextNotification (b.reacting e told n earlier) hs ∧
      b.nextNotification < (b.reacting e told n earlier).nextNotification := by
  have hn := hb.known (registered ▸ List.mem_append_right _ List.mem_cons_self)
  obtain ⟨hs, htelling, hk⟩ := grows_telling hb registered e
  have htell := grows_tell hk (htelling.known hn) e
  obtain ⟨hs', hearlier⟩ := isRunner_perform.grows_foldl_reactBy n earlier
    ((htelling.trans htell).sound hb)
  exact ⟨_, (htelling.trans htell).trans (hearlier.inside _),
    Nat.lt_of_lt_of_le hk (Nat.le_trans htell.next hearlier.next)⟩

/-- A command that an observer carries out is carried out inside the notification. -/
theorem surrounds_reaction
    (commands : ((b.telling e told).tell b.nextNotification e n).2 = earlier ++ c :: later) :
    ∃ before rest, Surrounds (b, .notify e) (b.reacting e told n earlier, c) before
      (rest ++ [.sent b.nextNotification e]) := by
  obtain ⟨before, hstart, hk⟩ := grows_reacting hb registered e earlier
  have hcommand := grows_doings (hstart.sound hb) c
  have hreacted := grows_reactBy perform b.nextNotification n (b.reacting e told n earlier) c
  have hdone := (hstart.trans (hcommand.inside _)).trans hreacted
  -- after the command come its observer's other ones, the other observers, and the broadcast
  obtain ⟨hs₁, hlater⟩ := isRunner_perform.grows_foldl_reactBy n later (hdone.sound hb)
  have hreaction := hdone.trans (hlater.inside _)
  have hk₁ := Nat.lt_of_lt_of_le hk
    (Nat.le_trans hcommand.next (Nat.le_trans hreacted.next hlater.next))
  obtain ⟨hs₂, hothers, -⟩ := isRunner_perform.grows_foldl_tellBy e hk₁ (hreaction.sound hb)
    fun n' hn' => hreaction.known (hb.known (registered ▸ List.mem_append_right told
      (List.mem_cons_of_mem n hn')))
  have hsent := grows_broadcast (Nat.lt_of_lt_of_le hk₁ hothers.next) e
  have hrest := ((hreacted.trans (hlater.inside _)).trans hothers).trans hsent
  rw [← perform_notify_eq hb registered commands] at hrest
  exact ⟨_, _, .of_grows hstart hrest (.inl hk)⟩

end Reaction

/-- A notification in a row is carried out between the others. -/
theorem surrounds_row {b : Board} (hb : b.Sound) {count i : Nat} (h : i < count) :
    ∃ before later, Surrounds (b, .notifyMany count)
      ((List.range i).foldl (fun b i => b.notifyBy perform (numbered i)) b, .notify (numbered i))
      before later := by
  obtain ⟨d, rfl⟩ := Nat.exists_eq_add_of_le (Nat.succ_le_of_lt h)
  obtain ⟨before, hstart⟩ :=
    isRunner_perform.grows_foldl_notifyBy numbered (List.range i) hb
  have hend : (b.perform (.notifyMany (i + 1 + d))).1 =
      ((List.range d).map (i + 1 + ·)).foldl (fun b i => b.notifyBy perform (numbered i))
        (((List.range i).foldl (fun b i => b.notifyBy perform (numbered i)) b).perform
          (.notify (numbered i))).1 := by
    rw [hb.perform_notifyMany, (hstart.sound hb).perform_notify, List.range_add, List.range_succ,
      List.foldl_append, List.foldl_append]
    rfl
  obtain ⟨later, hlater⟩ := isRunner_perform.grows_foldl_notifyBy numbered
    ((List.range d).map (i + 1 + ·))
    ((grows_doings (hstart.sound hb) (.notify (numbered i))).sound (hstart.sound hb))
  rw [← hend] at hlater
  exact ⟨_, _, .of_grows hstart hlater (.inr (Nat.le_refl _))⟩

/-! ## Calls inside each other -/

theorem Calls.surrounds {p q : Board × Command} (h : Calls p q) (hp : p.1.Sound) :
    ∃ before later, Surrounds p q before later := by
  cases h with
  | reaction registered commands =>
    obtain ⟨before, rest, h⟩ := surrounds_reaction hp registered commands
    exact ⟨before, _, h⟩
  | row b hi => exact surrounds_row hp hi

theorem grows_foldl_perform {b : Board} (hb : b.Sound) (commands : List Command) :
    ∃ hs, b.Grows b.nextNotification (commands.foldl (fun b c => (b.perform c).1) b) hs :=
  grows_foldl (fun _ c hb => grows_perform hb c) commands hb

theorem grows_after (history : List Command) :
    empty.Grows 0 (after history) (after history).trace := by
  obtain ⟨hs, h⟩ := grows_foldl_perform sound_empty history
  rw [show (after history).trace = hs from h.trace]
  exact h

theorem sound_after (history : List Command) : (after history).Sound :=
  (grows_after history).sound sound_empty

/-- The commands inside a notification have fewer reactions to go on with. -/
theorem reactionCount_reacting {b : Board} (hb : b.Sound) {e : Notice} {told : List Nat} {n : Nat}
    {c : Command} {earlier later : List Command}
    (commands : ((b.telling e told).tell b.nextNotification e n).2 = earlier ++ c :: later) :
    (b.reacting e told n earlier).reactionCount + c.reactionCount < b.reactionCount := by
  obtain ⟨htelling, hcount, -⟩ := (runsAgree_perform_perform.tellBy b.nextNotification e).foldl_zero
    (b := { b with nextNotification := b.nextNotification + 1 }) { hb with } told
  obtain ⟨htell, hspent⟩ := htelling.spends_tell b.nextNotification e n
  obtain ⟨-, hearlier, -⟩ := (runsAgree_perform_perform.reactBy n).foldl (W := Command.countAll)
    (fun _ _ => Nat.le_refl _) htell earlier
  rw [← telling, commands, Command.countAll_append, Command.countAll] at hspent
  rw [← telling, ← reacting] at hearlier
  rcases hspent with ⟨-, hnil⟩ | hspent
  · simp at hnil
  · have hcount : (b.telling e told).reactionCount ≤ b.reactionCount := hcount
    omega

theorem range_eq_append_cons {count i : Nat} {before later : List Nat}
    (h : List.range count = before ++ i :: later) : before = List.range i ∧ i < count := by
  rw [List.range_eq_range', List.range'_eq_append_iff] at h
  obtain ⟨m, -, rfl, hrest⟩ := h
  obtain ⟨rfl, hpos, -⟩ := List.range'_eq_cons_iff.1 hrest.symm
  rw [Nat.zero_add, Nat.mul_one, List.range_eq_range']
  exact ⟨rfl, Nat.lt_of_sub_pos hpos⟩

/-- The first observer, when it hears of a change, registers another one, unregisters the second
and notifies the others. -/
def restless : List Command :=
  [.register false [(.changed, [.register false [], .unregister 1, .notify .invalidated])],
    .register true [], .subscribe]

end Board

end Newsfeed
