import Newsfeed.Proofs.Notice.Course

/-!
# Who is registered

The observers that a board lists are told by the calls to it alone, whoever makes them: those who
were registered and not unregistered since, in the order of their ids.  `Board.issued` reads off a
course which ids were given out and `Board.withdrawn` for which ones unregistering was answered with
true.  `Board.LeftBy` compares a board with the calls before, and `Board.Records` says it of every
board that is found in a course, which steps may be taken one after the other (`Tracks.listRow`) and
inside each other (`tracks_performWithin`).  For the owner of a board it is summed up in terms of
handles (`registered_and_answered`).
-/

open Relation (ReflTransGen)

namespace Newsfeed

namespace Board

/-- The ids that were given out. -/
def issued (calls : List (Board × Command)) : List Nat :=
  calls.filterMap fun (b, c) =>
    match c, (b.perform c).2 with
    | .register _ _, .observer n => some n
    | _, _ => none

/-- The ids that were unregistered with success. -/
def withdrawn (calls : List (Board × Command)) : List Nat :=
  calls.filterMap fun (b, c) =>
    match c, (b.perform c).2 with
    | .unregister n, .flag true => some n
    | _, _ => none

theorem issued_append (calls calls' : List (Board × Command)) :
    issued (calls ++ calls') = issued calls ++ issued calls' := List.filterMap_append

theorem withdrawn_append (calls calls' : List (Board × Command)) :
    withdrawn (calls ++ calls') = withdrawn calls ++ withdrawn calls' := List.filterMap_append

/-- The registry is as some calls left it. -/
structure LeftBy (b : Board) (calls : List (Board × Command)) : Prop where
  issued : issued calls = List.range b.nextId
  registered : b.registered = (Board.issued calls).filter (· ∉ withdrawn calls)
  withdrawn : ∀ n ∈ withdrawn calls, n < b.nextId
  count : b.count + (Board.withdrawn calls).length = b.nextId

namespace LeftBy

variable {b b' : Board} {calls : List (Board × Command)}

theorem empty : Board.empty.LeftBy [] := ⟨rfl, rfl, nofun, rfl⟩

theorem congr (h : b.LeftBy calls) (hregistered : b'.registered = b.registered)
    (hnext : b'.nextId = b.nextId) : b'.LeftBy calls where
  issued := hnext ▸ h.issued
  registered := hregistered ▸ h.registered
  withdrawn := hnext ▸ h.withdrawn
  count := by rw [Board.count, hregistered, hnext]; exact h.count

theorem nodup (h : b.LeftBy calls) : b.registered.Nodup := by
  rw [h.registered, h.issued]
  exact List.nodup_range.filter _

theorem filter_ne (h : b.LeftBy calls) (n : Nat) :
    b.registered.filter (· ≠ n) = b.registered.erase n := by
  rw [h.nodup.erase_eq_filter]
  exact List.filter_congr fun k _ => decide_not

theorem mem_iff (h : b.LeftBy calls) {n : Nat} :
    n ∈ b.registered ↔ n ∈ Board.issued calls ∧ n ∉ Board.withdrawn calls := by
  rw [h.registered, List.mem_filter, decide_eq_true_eq]

theorem register (h : b.LeftBy calls) (changesOnly : Bool)
    (reactions : List (Notice × List Command)) :
    (b.register changesOnly reactions).1.LeftBy
      (calls ++ [(b, .register changesOnly reactions)]) := by
  have hissued : Board.issued (calls ++ [(b, .register changesOnly reactions)]) =
      List.range (b.nextId + 1) := by
    rw [issued_append, h.issued, List.range_succ]
    rfl
  have hwithdrawn : Board.withdrawn (calls ++ [(b, .register changesOnly reactions)]) =
      Board.withdrawn calls := by
    rw [withdrawn_append]
    exact List.append_nil _
  refine ⟨hissued, ?_, ?_, ?_⟩
  · have hnew : b.nextId ∉ Board.withdrawn calls := fun hn => Nat.lt_irrefl _ (h.withdrawn _ hn)
    rw [hissued, hwithdrawn, List.range_succ, List.filter_append, ← h.issued, ← h.registered]
    simp [Board.register, hnew]
  · rw [hwithdrawn]
    exact fun n hn => Nat.lt_succ_of_lt (h.withdrawn n hn)
  · have hcount := h.count
    rw [hwithdrawn]
    simp only [Board.count, Board.register, List.length_append, List.length_singleton] at hcount ⊢
    omega

/-- Other calls leave the registry to what is done in their course. -/
theorem concat {c : Command} (h : b.LeftBy calls) (hissued : Board.issued [(b, c)] = [])
    (hwithdrawn : Board.withdrawn [(b, c)] = []) : b.LeftBy (calls ++ [(b, c)]) := by
  have hissued : Board.issued (calls ++ [(b, c)]) = Board.issued calls := by
    rw [issued_append, hissued, List.append_nil]
  have hwithdrawn : Board.withdrawn (calls ++ [(b, c)]) = Board.withdrawn calls := by
    rw [withdrawn_append, hwithdrawn, List.append_nil]
  exact ⟨hissued ▸ h.issued, by rw [hissued, hwithdrawn]; exact h.registered,
    hwithdrawn ▸ h.withdrawn, hwithdrawn ▸ h.count⟩

theorem unregister_of_mem (h : b.LeftBy calls) {n : Nat} (hn : n ∈ b.registered) :
    (b.unregister n).1.LeftBy (calls ++ [(b, .unregister n)]) := by
  have hissued : Board.issued (calls ++ [(b, .unregister n)]) = Board.issued calls := by
    rw [issued_append]
    exact List.append_nil _
  have hwithdrawn : Board.withdrawn (calls ++ [(b, .unregister n)]) =
      Board.withdrawn calls ++ [n] := by
    rw [withdrawn_append]
    simp [Board.withdrawn, perform, performWithin, Board.unregister, hn]
  refine ⟨hissued.trans h.issued, ?_, ?_, ?_⟩
  · rw [hissued, hwithdrawn]
    show b.registered.filter (· ≠ n) = _
    rw [h.registered, List.filter_filter]
    refine List.filter_congr fun k _ => ?_
    simp [not_or, and_comm]
  · rw [hwithdrawn]
    refine List.forall_mem_append.2 ⟨h.withdrawn, List.forall_mem_singleton.2 ?_⟩
    exact List.mem_range.1 (h.issued ▸ (h.mem_iff.1 hn).1)
  · have hcount := h.count
    have hpos : 0 < b.count := List.length_pos_of_mem hn
    have hless : (b.unregister n).1.count = b.count - 1 := by
      show (b.registered.filter (· ≠ n)).length = b.registered.length - 1
      rw [h.filter_ne, List.length_erase_of_mem hn]
    rw [hwithdrawn, hless, List.length_append, List.length_singleton]
    show b.count - 1 + _ = b.nextId
    omega

theorem unregister (h : b.LeftBy calls) (n : Nat) :
    (b.unregister n).1.LeftBy (calls ++ [(b, .unregister n)]) := by
  by_cases hn : n ∈ b.registered
  · exact h.unregister_of_mem hn
  · have hwithdrawn : Board.withdrawn [(b, .unregister n)] = [] := by
      simp [Board.withdrawn, perform, performWithin, Board.unregister, hn]
    have hsame : (b.unregister n).1.registered = b.registered := by
      show b.registered.filter (· ≠ n) = b.registered
      rw [h.filter_ne, List.erase_of_not_mem hn]
    exact (h.concat rfl hwithdrawn).congr hsame rfl

end LeftBy

/-! ## Calls in a course -/

/-- The calls lead from a board that the past ones left to another board. Each finds a board as
those before it left it, and so they leave the last one. -/
structure Records (past calls : List (Board × Command)) (b : Board) : Prop where
  found : ∀ before q later, calls = before ++ q :: later → q.1.LeftBy (past ++ before)
  left : b.LeftBy (past ++ calls)

namespace Records

variable {b b' : Board} {past calls calls' : List (Board × Command)}

theorem nil (h : b.LeftBy past) : Records past [] b where
  found _ _ _ heq := absurd heq.symm (by simp)
  left := (List.append_nil past).symm ▸ h

theorem singleton {q : Board × Command} (h : q.1.LeftBy past) (h' : b.LeftBy (past ++ [q])) :
    Records past [q] b where
  found before q' later heq := by
    cases before with
    | nil =>
      obtain ⟨rfl, -⟩ := List.cons.inj heq
      exact (List.append_nil past).symm ▸ h
    | cons q'' before => simp at heq
  left := h'

theorem append (h : Records past calls b) (h' : Records (past ++ calls) calls' b') :
    Records past (calls ++ calls') b' where
  found before q later heq := by
    rcases List.append_eq_append_iff.1 heq with ⟨l, rfl, hrest⟩ | ⟨l, rfl, hrest⟩
    · rw [← List.append_assoc]
      exact h'.found l q later hrest
    · cases l with
      | nil =>
        have hfound := h'.found [] q later hrest.symm
        rwa [List.append_nil, List.append_nil] at hfound
      | cons q' l =>
        obtain ⟨rfl, -⟩ := List.cons.inj hrest
        exact h.found before q l rfl
  left := List.append_assoc past calls calls' ▸ h'.left

theorem congr (h : Records past calls b) (hregistered : b'.registered = b.registered)
    (hnext : b'.nextId = b.nextId) : Records past calls b' :=
  { h with left := h.left.congr hregistered hnext }

end Records

section Tracks

variable {α : Type}

/-- A step does to the registry what the calls say that are listed with it. -/
def Tracks (f : Board → α → Board) (list : Board → α → List (Board × Command)) : Prop :=
  ∀ ⦃b : Board⦄ ⦃past : List (Board × Command)⦄, b.LeftBy past →
    ∀ a, Records past (list b a) (f b a)

theorem Tracks.listRow {f : Board → α → Board} {list : Board → α → List (Board × Command)}
    (h : Tracks f list) : Tracks (List.foldl f) (listRow f list) := by
  intro b past hb as
  induction as generalizing b past with
  | nil => exact .nil hb
  | cons a as ih =>
    have hstep := h hb a
    exact hstep.append (ih hstep.left)

end Tracks

theorem registered_tell (b : Board) (k : Nat) (e : Notice) (n : Nat) :
    (b.tell k e n).1.registered = b.registered ∧ (b.tell k e n).1.nextId = b.nextId := by
  obtain ⟨-, htell⟩ | ⟨o, -, ⟨-, htell⟩ | ⟨-, htell⟩⟩ := b.tell_cases k e n
  all_goals
    rw [htell]
    exact ⟨rfl, rfl⟩

section Runs

variable {run : Board → Command → Board × Reply} {list : Board → Command → List (Board × Command)}
  (h : Tracks (fun b c => (run b c).1) list)

include h

theorem Tracks.reactBy (n : Nat) : Tracks (reactBy run n) list := fun _ _ hb c =>
  (h hb c).congr rfl rfl

theorem Tracks.tellBy (k : Nat) (e : Notice) :
    Tracks (tellBy run k e) (listTell run list k e) := by
  intro b past hb n
  obtain ⟨hregistered, hnext⟩ := registered_tell b k e n
  exact (h.reactBy n).listRow (hb.congr hregistered hnext) (b.tell k e n).2

theorem Tracks.notifyBy : Tracks (notifyBy run) (listNotify run list) := by
  intro b past hb e
  exact ((h.tellBy b.nextNotification e).listRow
    (b := { b with nextNotification := b.nextNotification + 1 }) (hb.congr rfl rfl)
    b.registered).congr rfl rfl

end Runs

theorem tracks_performWithin (fuel : Nat) :
    Tracks (fun b c => (performWithin fuel b c).1) (courseWithin fuel) := by
  -- the calls inside have one call less to make inside each other
  induction fuel with
  | zero => exact fun b past hb c => .nil hb
  | succ fuel ih =>
    intro b past hb c
    cases c with
    | register changesOnly reactions => exact .singleton hb (hb.register changesOnly reactions)
    | unregister n => exact .singleton hb (hb.unregister n)
    | notify e =>
      have hcall : b.LeftBy (past ++ [(b, .notify e)]) := hb.concat rfl rfl
      exact (Records.singleton hb hcall).append (ih.notifyBy hcall e)
    | notifyMany count =>
      have hcall : b.LeftBy (past ++ [(b, .notifyMany count)]) := hb.concat rfl rfl
      refine (Records.singleton hb hcall).append (Tracks.listRow (fun b' past' hb' i => ?_) hcall _)
      have hcall' : b'.LeftBy (past' ++ [(b', .notify (numbered i))]) := hb'.concat rfl rfl
      exact (Records.singleton hb' hcall').append (ih.notifyBy hcall' (numbered i))
    | _ => exact .singleton hb ((hb.concat rfl rfl).congr rfl rfl)

theorem records_courseOf (history : List Command) :
    Records [] (courseOf history) (after history) :=
  Tracks.listRow (fun _ _ hb c => tracks_performWithin _ hb c) .empty history

/-! ## Handles -/

/-- A board lists who was registered and not unregistered, by ascending id, and counts them. -/
structure Lists (b : Board) (calls : List (Board × Command)) : Prop where
  mem : ∀ n, n ∈ b.registered ↔ n ∈ issued calls ∧ n ∉ withdrawn calls
  ascending : b.registered.Pairwise (· < ·)
  count : b.count + (withdrawn calls).length = (issued calls).length

namespace LeftBy

variable {b : Board} {calls : List (Board × Command)} (h : b.LeftBy calls)

include h

theorem length_issued : (Board.issued calls).length = b.nextId := by
  rw [h.issued, List.length_range]

theorem lists : b.Lists calls where
  mem _ := h.mem_iff
  ascending := by
    rw [h.registered, h.issued]
    exact List.pairwise_lt_range.filter _
  count := h.count.trans h.length_issued.symm

theorem perform_register (changesOnly : Bool) (reactions : List (Notice × List Command)) :
    (b.perform (.register changesOnly reactions)).2 = .observer (Board.issued calls).length ∧
      (b.perform (.register changesOnly reactions)).1.registered =
        b.registered ++ [(Board.issued calls).length] := by
  rw [h.length_issued]
  exact ⟨rfl, rfl⟩

theorem perform_unregister (n : Nat) :
    b.perform (.unregister n) = ({ b with registered := b.registered.erase n },
      .flag (decide (n ∈ Board.issued calls ∧ n ∉ Board.withdrawn calls))) := by
  have hexisted : b.registered.contains n =
      decide (n ∈ Board.issued calls ∧ n ∉ Board.withdrawn calls) := by
    rw [← List.elem_eq_contains, List.elem_eq_mem, decide_eq_decide]
    exact h.mem_iff
  rw [← h.filter_ne, ← hexisted]
  rfl

end LeftBy

/-- Whatever is registered and unregistered at a board and by its observers, with any ids,
each new observer gets the next id, and a board lists and counts those that were
registered and not unregistered. Unregistering is answered with true for these ids alone,
and removes the one observer. -/
theorem registered_and_answered (history : List Command) :
    let calls := courseOf history
    (∀ q, q ∈ calls ↔ ∃ earlier c later, history = earlier ++ c :: later ∧
      ReflTransGen Calls (after earlier, c) q) ∧
    (issued calls).Pairwise (· < ·) ∧
    (∀ n ∈ issued calls, n < (issued calls).length) ∧
    (after history).Lists calls ∧
    ∀ before b c later, calls = before ++ (b, c) :: later →
      b.Lists before ∧
      (∀ changesOnly reactions, c = .register changesOnly reactions →
        (b.perform c).2 = .observer (issued before).length ∧
        (b.perform c).1.registered = b.registered ++ [(issued before).length]) ∧
      ∀ n, c = .unregister n →
        b.perform c = ({ b with registered := b.registered.erase n },
          .flag (decide (n ∈ issued before ∧ n ∉ withdrawn before))) := by
  intro calls
  obtain ⟨hfound, hleft⟩ := records_courseOf history
  refine ⟨fun q => mem_courseOf_iff, ?_, ?_, hleft.lists, fun before b c later heq => ?_⟩
  · rw [show issued calls = _ from hleft.issued]
    exact List.pairwise_lt_range
  · intro n hn
    rw [show (issued calls).length = _ from hleft.length_issued]
    exact List.mem_range.1 (hleft.issued ▸ hn)
  · have hb : b.LeftBy before := hfound before (b, c) later heq
    refine ⟨hb.lists, ?_, ?_⟩
    · rintro changesOnly reactions rfl
      exact hb.perform_register changesOnly reactions
    · rintro n rfl
      exact hb.perform_unregister n

/-- The second observer is unregistered by the first one, and cannot be so again from outside. -/
theorem registered_and_answered_restless :
    let history := restless ++ [.notify .changed, .unregister 1]
    let b := after (restless ++ [.notify .changed])
    issued (courseOf history) = [0, 1, 2] ∧ withdrawn (courseOf history) = [1] ∧
      courseOf history = courseOf (restless ++ [.notify .changed]) ++ [(b, .unregister 1)] ∧
      b.registered = [0, 2] ∧
      b.perform (.unregister 1) = ({ b with registered := [0, 2] }, .flag false) := by
  intro history b
  obtain ⟨-, -, -, -, h⟩ := registered_and_answered history
  have hcalls : courseOf history =
      courseOf (restless ++ [.notify .changed]) ++ [(b, .unregister 1)] := rfl
  obtain ⟨-, -, hunregister⟩ := h _ b (.unregister 1) [] hcalls
  exact ⟨rfl, rfl, hcalls, rfl, hunregister 1 rfl⟩

end Board

end Newsfeed
