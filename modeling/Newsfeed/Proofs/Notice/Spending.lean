import Newsfeed.Proofs.Notice.Telling

/-!
# Reactions are spent

A command from inside a notification stems from a reaction that the notification spent.  So a board
has fewer reactions left whenever an observer acts on it, and the bound that `Board.perform` sets to
the nesting is never reached: `perform_notify` and `perform_notifyMany` say what these commands do
without any bound.

`Board.Agrees` carries the argument through the folds of a notification: from a sound board a step
brings in a limited number of reactions, and another step does the same as long as few are left.
-/

namespace Newsfeed

theorem Command.countAll_append (commands commands' : List Command) :
    countAll (commands ++ commands') = countAll commands + countAll commands' := by
  induction commands with
  | nil => exact (Nat.zero_add _).symm
  | cons c commands ih => rw [List.cons_append, countAll, countAll, ih, Nat.add_assoc]

namespace Board

open Command

/-- A reaction that is taken is spent with its commands. -/
theorem takeReaction_spends (e : Notice) (reactions : List (Notice × List Command)) :
    takeReaction e reactions = ([], reactions) ∨
      countReactions (takeReaction e reactions).2 + countAll (takeReaction e reactions).1 <
        countReactions reactions := by
  induction reactions with
  | nil => exact .inl rfl
  | cons r reactions ih =>
    obtain ⟨trigger, commands⟩ := r
    rw [takeReaction]
    split
    next =>
      right
      simp only [countReactions]
      omega
    next =>
      rcases ih with ih | ih
      · exact .inl (by rw [ih])
      · right
        simp only [countReactions]
        omega

/-! ## One observer -/

/-- The number of reactions that some observers have left. -/
def countLeft (observers : List Observer) : Nat :=
  observers.foldr (fun o n => countReactions o.reactions + n) 0

theorem reactionCount_eq (b : Board) : b.reactionCount = countLeft b.observers := rfl

@[simp]
theorem countLeft_nil : countLeft [] = 0 := rfl

@[simp]
theorem countLeft_cons (o : Observer) (observers : List Observer) :
    countLeft (o :: observers) = countReactions o.reactions + countLeft observers := rfl

@[simp]
theorem countLeft_append (l r : List Observer) :
    countLeft (l ++ r) = countLeft l + countLeft r := by
  induction l with
  | nil => simp
  | cons o l ih => rw [List.cons_append, countLeft_cons, countLeft_cons, ih, Nat.add_assoc]

theorem reactionCount_register (b : Board) (changesOnly : Bool)
    (reactions : List (Notice × List Command)) :
    (b.register changesOnly reactions).1.reactionCount =
      b.reactionCount + countReactions reactions := by
  simp [reactionCount_eq, register]

/-- Only the observer with a given id is changed, as there is no other one. -/
theorem map_update_eq {l r : List Observer} {o : Observer}
    (hnodup : ((l ++ o :: r).map Observer.id).Nodup) (f : Observer → Observer) :
    ((l ++ o :: r).map fun p => if p.id = o.id then f p else p) = l ++ f o :: r := by
  simp only [List.map_append, List.map_cons, List.nodup_append, List.nodup_cons,
    List.mem_map, List.mem_cons] at hnodup
  obtain ⟨-, ⟨hr, -⟩, hl⟩ := hnodup
  have hsame : ∀ ps : List Observer, (∀ p ∈ ps, p.id ≠ o.id) →
      (ps.map fun p => if p.id = o.id then f p else p) = ps := fun ps hps =>
    (List.map_congr_left fun p hp => if_neg (hps p hp)).trans (List.map_id ps)
  rw [List.map_append, List.map_cons, if_pos rfl,
    hsame l fun p hp heq => hl _ ⟨p, hp, rfl⟩ _ (.inl rfl) heq,
    hsame r fun p hp heq => hr ⟨p, hp, heq⟩]

theorem Sound.count_leave {b : Board} (hb : b.Sound) {n : Nat} {o : Observer}
    (hfind : b.observer? n = some o) (reactions : List (Notice × List Command)) :
    (b.leave n reactions).reactionCount + countReactions o.reactions =
      b.reactionCount + countReactions reactions := by
  obtain ⟨hid, l, r, hsplit, -⟩ := List.find?_eq_some_iff_append.1 hfind
  obtain rfl : o.id = n := by simpa using hid
  have hmap : (b.leave o.id reactions).observers = l ++ { o with reactions } :: r := by
    rw [leave, hsplit]
    exact map_update_eq (hsplit ▸ hb.nodup) _
  rw [reactionCount_eq, reactionCount_eq, hmap, hsplit, countLeft_append, countLeft_append,
    countLeft_cons, countLeft_cons]
  dsimp only
  omega

/-- An observer that is told does nothing, or spends a reaction with its commands. -/
theorem Sound.spends_tell {b : Board} (hb : b.Sound) (k : Nat) (e : Notice) (n : Nat) :
    (b.tell k e n).1.Sound ∧
      ((b.tell k e n).1.reactionCount = b.reactionCount ∧ (b.tell k e n).2 = [] ∨
        (b.tell k e n).1.reactionCount + countAll (b.tell k e n).2 < b.reactionCount) := by
  obtain ⟨-, htell⟩ | ⟨o, ho, ⟨-, htell⟩ | ⟨-, htell⟩⟩ := b.tell_cases k e n
  · rw [htell]
    exact ⟨hb, .inl ⟨rfl, rfl⟩⟩
  · rw [htell]
    exact ⟨{ hb with }, .inl ⟨rfl, rfl⟩⟩
  · have hsound := (grows_leave 0 b n (takeReaction e o.reactions).2).sound hb
    have hcount := hb.count_leave ho (takeReaction e o.reactions).2
    rw [htell]
    refine ⟨{ hsound with }, ?_⟩
    show (b.leave n (takeReaction e o.reactions).2).reactionCount = b.reactionCount ∧
        (takeReaction e o.reactions).1 = [] ∨
      (b.leave n (takeReaction e o.reactions).2).reactionCount +
        countAll (takeReaction e o.reactions).1 < b.reactionCount
    rcases takeReaction_spends e o.reactions with h | h
    · rw [h] at hcount ⊢
      exact .inl ⟨Nat.add_right_cancel hcount, rfl⟩
    · exact .inr (by omega)

/-! ## Steps that agree -/

section Agrees

variable {α : Type} {m : Nat} {w : α → Nat} {f g : Board → α → Board}

/-- From a sound board, `f` goes to a sound one and brings in at most `w` reactions, and so does `g`
when fewer than `m` are there then. -/
def Agrees (m : Nat) (w : α → Nat) (f g : Board → α → Board) : Prop :=
  ∀ ⦃b : Board⦄, b.Sound → ∀ a, (f b a).Sound ∧ (f b a).reactionCount ≤ b.reactionCount + w a ∧
    (b.reactionCount + w a < m → f b a = g b a)

theorem Agrees.foldl {W : List α → Nat} (hW : ∀ a as, w a + W as ≤ W (a :: as))
    (h : Agrees m w f g) : Agrees m W (List.foldl f) (List.foldl g) := by
  intro b hb as
  induction as generalizing b with
  | nil => exact ⟨hb, Nat.le_add_right _ _, fun _ => rfl⟩
  | cons a as ih =>
    obtain ⟨hsound, hcount, hsame⟩ := h hb a
    obtain ⟨hsound', hcount', hsame'⟩ := ih hsound
    have hW := hW a as
    simp only [List.foldl_cons]
    refine ⟨hsound', by omega, fun hlt => ?_⟩
    rw [← hsame (by omega)]
    exact hsame' (by omega)

/-- Steps that bring in nothing may be taken any number of times. -/
theorem Agrees.foldl_zero (h : Agrees m (fun _ => 0) f g) :
    Agrees m (fun _ => 0) (List.foldl f) (List.foldl g) :=
  h.foldl fun _ _ => Nat.le_refl 0

end Agrees

/-! ## Runs that agree -/

section Runs

variable {m : Nat} {run run' : Board → Command → Board × Reply}

/-- Two ways of carrying out commands agree below a number of reactions. -/
def RunsAgree (m : Nat) (run run' : Board → Command → Board × Reply) : Prop :=
  ∀ ⦃b : Board⦄, b.Sound → ∀ c, (run b c).1.Sound ∧
    (run b c).1.reactionCount ≤ b.reactionCount + c.reactionCount ∧
    (b.reactionCount + c.reactionCount < m → run b c = run' b c)

variable (h : RunsAgree m run run')

include h

theorem RunsAgree.reactBy (n : Nat) :
    Agrees m Command.reactionCount (reactBy run n) (reactBy run' n) := by
  intro b hb c
  obtain ⟨hsound, hcount, hsame⟩ := h hb c
  refine ⟨{ hsound with }, hcount, fun hlt => ?_⟩
  rw [Board.reactBy, Board.reactBy, hsame hlt]

/-- The reaction of an observer has one reaction less to go on with. -/
theorem RunsAgree.tellBy (k : Nat) (e : Notice) :
    Agrees (m + 1) (fun _ => 0) (tellBy run k e) (tellBy run' k e) := by
  intro b hb n
  obtain ⟨hsound, hspent⟩ := hb.spends_tell k e n
  obtain ⟨hsound', hcount, hsame⟩ := (h.reactBy n).foldl (W := countAll) (fun _ _ => Nat.le_refl _)
    hsound (b.tell k e n).2
  rw [tellBy_eq, tellBy_eq]
  refine ⟨hsound', ?_, fun hlt => ?_⟩
  · rcases hspent with ⟨heq, hnil⟩ | hlt
    · rw [hnil, heq] at hcount
      rw [hnil]
      exact hcount
    · exact Nat.le_of_lt (Nat.lt_of_le_of_lt hcount hlt)
  · rcases hspent with ⟨-, hnil⟩ | hspent
    · rw [hnil]
      rfl
    · exact hsame (Nat.lt_of_lt_of_le hspent (Nat.le_of_lt_succ hlt))

theorem RunsAgree.notifyBy : Agrees (m + 1) (fun _ => 0) (notifyBy run) (notifyBy run') := by
  intro b hb e
  obtain ⟨hsound, hcount, hsame⟩ := (h.tellBy b.nextNotification e).foldl_zero
    (b := { b with nextNotification := b.nextNotification + 1 }) { hb with } b.registered
  refine ⟨{ hsound with }, hcount, fun hlt => ?_⟩
  rw [Board.notifyBy, Board.notifyBy, hsame hlt]

theorem RunsAgree.foldl_notifyBy :
    Agrees (m + 1) (fun _ => 0)
      (List.foldl fun b i => b.notifyBy run (numbered i))
      (List.foldl fun b i => b.notifyBy run' (numbered i)) :=
  Agrees.foldl_zero fun _ hb i => h.notifyBy hb (numbered i)

end Runs

/-- How deep commands may be nested does not matter as long as it is more than there are
reactions. -/
theorem runsAgree_performWithin (fuel extra : Nat) :
    RunsAgree fuel (performWithin fuel) (performWithin (fuel + extra)) := by
  induction fuel with
  | zero =>
    exact fun b hb c => ⟨hb, Nat.le_add_right _ _, fun hlt => absurd hlt (Nat.not_lt_zero _)⟩
  | succ fuel ih =>
    rw [Nat.add_right_comm]
    intro b hb c
    cases c with
    | register changesOnly reactions =>
      exact ⟨(grows_register 0 b changesOnly reactions).sound hb,
        Nat.le_of_eq (reactionCount_register b changesOnly reactions), fun _ => rfl⟩
    | unregister n => exact ⟨(grows_unregister 0 b n).sound hb, Nat.le_refl _, fun _ => rfl⟩
    | notify e =>
      obtain ⟨hsound, hcount, hsame⟩ := ih.notifyBy hb e
      exact ⟨hsound, hcount, fun hlt => congrArg (·, Reply.done) (hsame hlt)⟩
    | notifyMany count =>
      obtain ⟨hsound, hcount, hsame⟩ := ih.foldl_notifyBy hb (List.range count)
      exact ⟨hsound, hcount, fun hlt => congrArg (·, Reply.done) (hsame hlt)⟩
    | subscribe | unsubscribe n | receive n => exact ⟨{ hb with }, Nat.le_refl _, fun _ => rfl⟩
    | describe => exact ⟨hb, Nat.le_refl _, fun _ => rfl⟩

theorem runsAgree_perform (fuel : Nat) : RunsAgree fuel (performWithin fuel) perform := by
  intro b hb c
  obtain ⟨hsound, hcount, -⟩ := runsAgree_performWithin fuel 0 hb c
  refine ⟨hsound, hcount, fun hlt => ?_⟩
  obtain ⟨extra, rfl⟩ := Nat.exists_eq_add_of_le (Nat.succ_le_of_lt hlt)
  exact ((runsAgree_performWithin _ extra hb c).2.2 (Nat.lt_succ_self _)).symm

/-- A command makes a sound board sound again, and brings in no reactions but its own. -/
theorem runsAgree_perform_perform : RunsAgree 0 perform perform := by
  intro b hb c
  obtain ⟨hsound, hcount, -⟩ := runsAgree_performWithin _ 0 hb c
  exact ⟨hsound, hcount, fun _ => rfl⟩

/-! ## Without a bound -/

theorem Sound.perform_notify {b : Board} (hb : b.Sound) (e : Notice) :
    b.perform (.notify e) = (b.notifyBy perform e, .done) :=
  congrArg (·, Reply.done)
    (((runsAgree_perform b.reactionCount).notifyBy hb e).2.2 (Nat.lt_succ_self _))

theorem Sound.perform_notifyMany {b : Board} (hb : b.Sound) (count : Nat) :
    b.perform (.notifyMany count) =
      ((List.range count).foldl (fun b i => b.notifyBy perform (numbered i)) b, .done) :=
  congrArg (·, Reply.done) (((runsAgree_perform b.reactionCount).foldl_notifyBy hb
    (List.range count)).2.2 (Nat.lt_succ_self _))

end Board

end Newsfeed
