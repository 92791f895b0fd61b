import Newsfeed.Proofs.Notice.Nesting

/-!
# The course of a history

`Board.course` lists the commands that are carried out in the course of a command, the command
itself first, each with the board that it finds.  They stand in the order in which they begin, so
that what an observer does in reaction to a notice stands behind the notification and before what
the next observer does.  It is computed along with `Board.perform`, and `mem_course_iff` says that
the commands called inside are all on the list.
-/

open Relation (ReflTransGen)

namespace Newsfeed

namespace Board

section Row

variable {α β : Type}

/-- What is listed in a row of steps, where `list` says what is listed in one. -/
def listRow (f : Board → α → Board) (list : Board → α → List β) : Board → List α → List β
  | _, [] => []
  | b, a :: as => list b a ++ listRow f list (f b a) as

/-- What is listed in a row is listed in one of its steps. -/
theorem mem_listRow_iff {f : Board → α → Board} {list : Board → α → List β} {b : Board}
    {as : List α} {x : β} : x ∈ listRow f list b as ↔
      ∃ before a later, as = before ++ a :: later ∧ x ∈ list (before.foldl f b) a := by
  induction as generalizing b with
  | nil => simp [listRow]
  | cons a as ih =>
    rw [listRow, List.mem_append, ih]
    constructor
    · rintro (hx | ⟨before, a', later, rfl, hx⟩)
      · exact ⟨[], a, as, rfl, hx⟩
      · exact ⟨a :: before, a', later, rfl, hx⟩
    · rintro ⟨before, a', later, has, hx⟩
      cases before with
      | nil =>
        obtain ⟨rfl, rfl⟩ := List.cons.inj has
        exact .inl hx
      | cons a'' before =>
        obtain ⟨rfl, rfl⟩ := List.cons.inj has
        exact .inr ⟨before, a', later, rfl, hx⟩

end Row

/-! ## Listing what is carried out -/

section List

variable (run : Board → Command → Board × Reply) (list : Board → Command → List (Board × Command))

/-- What is carried out when an observer is told of a notice. -/
def listTell (k : Nat) (e : Notice) (b : Board) (n : Nat) : List (Board × Command) :=
  listRow (reactBy run n) list (b.tell k e n).1 (b.tell k e n).2

/-- What is carried out inside a notification. -/
def listNotify (b : Board) (e : Notice) : List (Board × Command) :=
  listRow (tellBy run b.nextNotification e) (listTell run list b.nextNotification e)
    { b with nextNotification := b.nextNotification + 1 } b.registered

end List

/-- What is carried out in the course of a command, with at most `fuel`
commands inside each other. -/
def courseWithin : (fuel : Nat) → Board → Command → List (Board × Command)
  | 0, _, _ => []
  | fuel + 1, b, c => (b, c) ::
    match c with
    | .notify e => listNotify (performWithin fuel) (courseWithin fuel) b e
    | .notifyMany count =>
      listRow (fun b i => b.notifyBy (performWithin fuel) (numbered i))
        (fun b i => (b, .notify (numbered i)) ::
          listNotify (performWithin fuel) (courseWithin fuel) b (numbered i)) b (List.range count)
    | _ => []

/-- What is carried out in the course of a command, itself first. -/
def course (b : Board) (c : Command) : List (Board × Command) :=
  b.courseWithin (b.reactionCount + c.reactionCount + 1) c

/-- What is carried out in the course of some commands. -/
def courseOf (history : List Command) : List (Board × Command) :=
  listRow (fun b c => (b.perform c).1) course empty history

/-! ## Without a bound -/

section Same

variable {α β : Type} {m : Nat} {w : α → Nat}

/-- Two ways to list agree on sound boards with fewer than `m` reactions. -/
def ListsAgree (m : Nat) (w : α → Nat) (list list' : Board → α → List β) : Prop :=
  ∀ ⦃b : Board⦄, b.Sound → ∀ a, b.reactionCount + w a < m → list b a = list' b a

theorem Agrees.listRow {f g : Board → α → Board} {list list' : Board → α → List β}
    {W : List α → Nat} (hW : ∀ a as, w a + W as ≤ W (a :: as)) (h : Agrees m w f g)
    (hlist : ListsAgree m w list list') : ListsAgree m W (listRow f list) (listRow g list') := by
  intro b hb as hlt
  induction as generalizing b with
  | nil => rfl
  | cons a as ih =>
    obtain ⟨hsound, hcount, hsame⟩ := h hb a
    have hW := hW a as
    rw [Board.listRow, Board.listRow, hlist hb a (by omega), ← hsame (by omega),
      ih hsound (by omega)]

end Same

section Runs

variable {m : Nat} {run run' : Board → Command → Board × Reply}
  {list list' : Board → Command → List (Board × Command)} (h : RunsAgree m run run')
  (hlist : ListsAgree m Command.reactionCount list list')

include h hlist

theorem RunsAgree.listTell (k : Nat) (e : Notice) :
    ListsAgree (m + 1) (fun _ => 0) (listTell run list k e) (listTell run' list' k e) := by
  intro b hb n hlt
  obtain ⟨hsound, ⟨-, hnil⟩ | hspent⟩ := hb.spends_tell k e n
  · rw [Board.listTell, Board.listTell, hnil]
    rfl
  · exact (h.reactBy n).listRow (W := Command.countAll) (fun _ _ => Nat.le_refl _) hlist hsound _
      (Nat.lt_of_lt_of_le hspent (Nat.le_of_lt_succ hlt))

theorem RunsAgree.listNotify :
    ListsAgree (m + 1) (fun _ => 0) (listNotify run list) (listNotify run' list') := by
  intro b hb e hlt
  exact (h.tellBy b.nextNotification e).listRow (W := fun _ => 0) (fun _ _ => Nat.le_refl 0)
    (h.listTell hlist b.nextNotification e)
    (b := { b with nextNotification := b.nextNotification + 1 }) { hb with } b.registered hlt

end Runs

theorem lists_courseWithin (fuel extra : Nat) :
    ListsAgree fuel Command.reactionCount (courseWithin fuel) (courseWithin (fuel + extra)) := by
  induction fuel with
  | zero => exact fun b hb c hlt => absurd hlt (Nat.not_lt_zero _)
  | succ fuel ih =>
    have hruns := runsAgree_performWithin fuel extra
    rw [Nat.add_right_comm]
    intro b hb c hlt
    cases c with
    | notify e => exact congrArg (_ :: ·) (hruns.listNotify ih hb e hlt)
    | notifyMany count =>
      refine congrArg (_ :: ·) (Agrees.listRow (W := fun _ => 0) (fun _ _ => Nat.le_refl 0)
        (w := fun _ => 0) (m := fuel + 1) (fun b hb i => hruns.notifyBy hb (numbered i))
        (fun b hb i hlt => ?_) hb _ hlt)
      exact congrArg (_ :: ·) (hruns.listNotify ih hb (numbered i) hlt)
    | _ => rfl

theorem lists_course (fuel : Nat) :
    ListsAgree fuel Command.reactionCount (courseWithin fuel) course := by
  intro b hb c hlt
  obtain ⟨extra, rfl⟩ := Nat.exists_eq_add_of_le (Nat.succ_le_of_lt hlt)
  exact (lists_courseWithin _ extra hb c (Nat.lt_succ_self _)).symm

theorem Sound.course_notify {b : Board} (hb : b.Sound) (e : Notice) :
    b.course (.notify e) = (b, .notify e) :: listNotify perform course b e :=
  congrArg (_ :: ·) ((runsAgree_perform b.reactionCount).listNotify (lists_course _) hb e
    (Nat.lt_succ_self _))

theorem Sound.course_notifyMany {b : Board} (hb : b.Sound) (count : Nat) :
    b.course (.notifyMany count) = (b, .notifyMany count) ::
      listRow (fun b i => b.notifyBy perform (numbered i))
        (fun b i => b.course (.notify (numbered i))) b (List.range count) := by
  have hruns := runsAgree_perform b.reactionCount
  refine congrArg (_ :: ·) (Agrees.listRow (W := fun _ => 0) (fun _ _ => Nat.le_refl 0)
    (w := fun _ => 0) (fun b' hb' i => hruns.notifyBy hb' (numbered i)) (fun b' hb' i hlt => ?_)
    hb _ (Nat.lt_succ_self _))
  rw [hb'.course_notify]
  exact congrArg (_ :: ·) (hruns.listNotify (lists_course _) hb' (numbered i) hlt)

/-! ## All that is called -/

theorem mem_listNotify_iff {b : Board} {e : Notice} {q : Board × Command} :
    q ∈ listNotify perform course b e ↔ ∃ r, Calls (b, .notify e) r ∧ q ∈ r.1.course r.2 := by
  constructor
  · intro hq
    obtain ⟨told, n, todo, registered, hq⟩ := mem_listRow_iff.1 hq
    obtain ⟨earlier, c, later, commands, hq⟩ := mem_listRow_iff.1 hq
    exact ⟨_, .reaction registered commands, hq⟩
  · rintro ⟨r, hcall, hq⟩
    cases hcall with
    | @reaction _ _ told todo n c earlier later registered commands =>
      refine mem_listRow_iff.2 ⟨told, n, todo, registered, ?_⟩
      exact mem_listRow_iff.2 ⟨earlier, c, later, commands, hq⟩

/-- On the list are the command itself and what is on the lists of those that it calls. -/
theorem Sound.mem_course_iff_calls {b : Board} (hb : b.Sound) {c : Command} {q : Board × Command} :
    q ∈ b.course c ↔ q = (b, c) ∨ ∃ r, Calls (b, c) r ∧ q ∈ r.1.course r.2 := by
  cases c with
  | notify e => rw [hb.course_notify, List.mem_cons, mem_listNotify_iff]
  | notifyMany count =>
    rw [hb.course_notifyMany, List.mem_cons, mem_listRow_iff]
    refine or_congr_right ⟨?_, ?_⟩
    · rintro ⟨before, i, later, hrange, hq⟩
      obtain ⟨rfl, hi⟩ := range_eq_append_cons hrange
      exact ⟨_, .row b hi, hq⟩
    · rintro ⟨r, hcall, hq⟩
      cases hcall with
      | @row _ _ i hi =>
        obtain ⟨d, rfl⟩ := Nat.exists_eq_add_of_le (Nat.succ_le_of_lt hi)
        refine ⟨List.range i, i, (List.range d).map (i + 1 + ·), ?_, hq⟩
        rw [List.range_add, List.range_succ, List.append_assoc]
        rfl
  | _ => exact ⟨fun hq => .inl (List.mem_singleton.1 hq), fun hq => by
      rcases hq with rfl | ⟨r, hcall, -⟩
      · exact List.mem_cons_self
      · cases hcall⟩

/-- A measure that each call lowers: the reactions that are left, and a row before its members. -/
def effort (p : Board × Command) : Nat :=
  2 * (p.1.reactionCount + p.2.reactionCount) +
    match p.2 with
    | .notifyMany _ => 1
    | _ => 0

theorem effort_le (p : Board × Command) :
    effort p ≤ 2 * (p.1.reactionCount + p.2.reactionCount) + 1 := by
  refine Nat.add_le_add_left ?_ _
  split
  · exact Nat.le_refl 1
  · exact Nat.zero_le 1

theorem Calls.effort_lt {p q : Board × Command} (h : Calls p q) (hp : p.1.Sound) :
    effort q < effort p := by
  cases h with
  | @reaction b e told todo n c earlier later registered commands =>
    have hle := effort_le (b.reacting e told n earlier, c)
    have hlt : (b.reacting e told n earlier).reactionCount + c.reactionCount < b.reactionCount :=
      reactionCount_reacting hp commands
    show effort (b.reacting e told n earlier, c) < 2 * b.reactionCount
    dsimp only at hle
    omega
  | @row b count i hi =>
    obtain ⟨-, hcount, -⟩ := runsAgree_perform_perform.foldl_notifyBy hp (List.range i)
    exact Nat.lt_succ_of_le (Nat.mul_le_mul_left 2 hcount)

/-- The list has every command that is called, and nothing else. -/
theorem mem_course_iff {p q : Board × Command} (hp : p.1.Sound) :
    q ∈ p.1.course p.2 ↔ ReflTransGen Calls p q := by
  constructor
  · induction hm : effort p using Nat.strongRecOn generalizing p with
    | ind m ih =>
      intro hq
      rcases hp.mem_course_iff_calls.1 hq with rfl | ⟨r, hcall, hq⟩
      · exact .refl
      · obtain ⟨_, _, hsurrounds⟩ := hcall.surrounds hp
        exact .head hcall (ih _ (hm ▸ hcall.effort_lt hp) (hsurrounds.starts.sound hp) rfl hq)
  · intro h
    induction h using ReflTransGen.head_induction_on with
    | refl => exact hp.mem_course_iff_calls.2 (.inl rfl)
    | head hcall _ ih =>
      obtain ⟨_, _, hsurrounds⟩ := hcall.surrounds hp
      exact hp.mem_course_iff_calls.2 (.inr ⟨_, hcall, ih (hsurrounds.starts.sound hp)⟩)

theorem mem_courseOf_iff {history : List Command} {q : Board × Command} :
    q ∈ courseOf history ↔ ∃ earlier c later, history = earlier ++ c :: later ∧
      ReflTransGen Calls (after earlier, c) q := by
  rw [courseOf, mem_listRow_iff]
  refine exists_congr fun earlier => exists_congr fun c => exists_congr fun later =>
    and_congr_right fun _ => ?_
  exact mem_course_iff (p := (after earlier, c)) (sound_after earlier)

end Board

end Newsfeed
