import Newsfeed.Proofs.Session.Atomicity

/-!
# Entry points of sessions

In a run (`Session.run`) a call reaches the source and is released at any time after its request.
What a session offers its owner is coarser: a request is made, and then all running calls are
attended to, so that they reach the source at once and are released unless the source is held.  Each
entry point is nevertheless a run (`enter_eq_run`), and so is a series of entries
(`foldl_enter_eq_run`), in which only the source answers calls (`mem_allActions`).  What holds after
every run therefore holds after every series of entries (`enter_induction`).  Over a source that is
not held, no call runs when an entry point returns: results only wait (`running_foldl_enter`).
-/

namespace Newsfeed

/-- What a session is called for from outside. -/
inductive Entry (α κ : Type)
  | refresh (callback : Option κ)
  | newer (callback : Option κ)
  | older (callback : Option κ)
  /-- The item at a position is shown. -/
  | more (position : Nat)
  | process
  | settle
  /-- The call for a request ends, which was held. -/
  | release (request : Nat)
  /-- An item is published. -/
  | push (item : α)

variable {α κ : Type}

/-- The action that an entry point begins with. -/
def Entry.action : Entry α κ → Action α κ
  | .refresh callback => .move (.request .refresh callback)
  | .newer callback => .move (.request .newer callback)
  | .older callback => .move (.request .older callback)
  | .more position => .move (.more position)
  | .process => .process
  | .settle => .settle
  | .release request => .move (.release request)
  | .push item => .move (.push item)

/-- The entry point makes a request, so that calls are attended to. -/
def Entry.isRequest : Entry α κ → Bool
  | .refresh _ | .newer _ | .older _ | .more _ => true
  | _ => false

namespace Session

variable [Identified α]

def enter (s : Session α κ) : Entry α κ → Session α κ
  | .refresh callback => s.refresh callback
  | .newer callback => s.requestNewer callback
  | .older callback => s.requestOlder callback
  | .more position => (s.requestMore position).1
  | .process => s.process.1
  | .settle => s.settle
  | .release request => (s.release request).1
  | .push item => s.push item

theorem enter_eq (s : Session α κ) (e : Entry α κ) :
    s.enter e = if e.isRequest then (s.act e.action).attend else s.act e.action := by
  cases e <;> rfl

/-! ## Calls that are attended to -/

/-- The moves by which calls with the given numbers are attended to. -/
def attending (held : Bool) (requests : List Nat) : List (Move α κ) :=
  requests.flatMap fun request =>
    if held then [.reach request] else [.reach request, .release request]

omit [Identified α] in
theorem mem_attending {held : Bool} {requests : List Nat} {m : Move α κ}
    (h : m ∈ attending held requests) : ∃ n, m = .reach n ∨ m = .release n := by
  obtain ⟨n, -, hm⟩ := List.mem_flatMap.1 h
  refine ⟨n, ?_⟩
  split at hm
  · exact .inl (List.mem_singleton.1 hm)
  · simpa using hm

theorem attendTo_eq_foldl (s : Session α κ) (request : Nat) :
    s.attendTo request = (attending s.source.held [request]).foldl move s := by
  have hreach : (s.reach request).source = s.source :=
    source_move s (m := .reach request) (by simp)
  unfold attendTo
  dsimp only
  rw [hreach]
  cases s.source.held <;> rfl

theorem source_attendTo (s : Session α κ) (request : Nat) :
    (s.attendTo request).source = s.source := by
  rw [attendTo_eq_foldl]
  refine source_foldl_move (fun m hm item => ?_) s
  obtain ⟨n, rfl | rfl⟩ := mem_attending hm <;> simp

theorem foldl_move_attending (requests : List Nat) (s : Session α κ) :
    (attending s.source.held requests).foldl move s = requests.foldl attendTo s := by
  induction requests generalizing s with
  | nil => rfl
  | cons request requests ih =>
    have hcons : attending (α := α) (κ := κ) s.source.held (request :: requests) =
        attending s.source.held [request] ++ attending s.source.held requests := by
      simp [attending]
    rw [hcons, List.foldl_append, ← attendTo_eq_foldl, List.foldl_cons, ← ih, source_attendTo]

/-- What a session does of itself after a request is a series of moves. -/
theorem attend_eq_foldl (s : Session α κ) :
    s.attend = (attending s.source.held (s.running.map (·.fetch.id))).foldl move s :=
  (foldl_move_attending _ s).symm

/-- Calls of a source that is not held end when they are attended to. -/
theorem attend_of_not_held {s : Session α κ} (h : s.source.held = false) :
    s.attend = s.concludeAll := by
  rw [attend_eq_foldl, h]
  exact foldl_move_concluding _ s

/-! ## Entries as runs -/

/-- The actions that an entry point consists of. -/
def actionsOf (s : Session α κ) (e : Entry α κ) : List (Action α κ) :=
  let t := s.act e.action
  e.action :: if e.isRequest then (attending t.source.held (t.running.map (·.fetch.id))).map .move
    else []

theorem enter_eq_run (s : Session α κ) (e : Entry α κ) : s.enter e = s.run (s.actionsOf e) := by
  rw [enter_eq, actionsOf, run_cons]
  split
  · rw [attend_eq_foldl, run, List.foldl_map]
    rfl
  · rfl

/-- All actions of a series of entries, one after the other. -/
def allActions (s : Session α κ) : List (Entry α κ) → List (Action α κ)
  | [] => []
  | e :: entries => s.actionsOf e ++ (s.enter e).allActions entries

theorem foldl_enter_eq_run (entries : List (Entry α κ)) (s : Session α κ) :
    entries.foldl enter s = s.run (s.allActions entries) := by
  induction entries generalizing s with
  | nil => rfl
  | cons e entries ih =>
    rw [List.foldl_cons, ih, allActions, run_append, ← enter_eq_run]

theorem mem_actionsOf {s : Session α κ} {e : Entry α κ} {a : Action α κ} (h : a ∈ s.actionsOf e) :
    a = e.action ∨ ∃ n, a = .move (.reach n) ∨ a = .move (.release n) := by
  rcases List.mem_cons.1 h with h | h
  · exact .inl h
  · split at h
    · obtain ⟨m, hm, rfl⟩ := List.mem_map.1 h
      exact .inr ((mem_attending hm).imp fun n hm => hm.imp (congrArg _) (congrArg _))
    · cases h

/-- Between the actions that entry points begin with, calls only reach the source and are
released. -/
theorem mem_allActions {entries : List (Entry α κ)} {s : Session α κ} {a : Action α κ}
    (h : a ∈ s.allActions entries) :
    (∃ e ∈ entries, a = e.action) ∨ ∃ n, a = .move (.reach n) ∨ a = .move (.release n) := by
  induction entries generalizing s with
  | nil => cases h
  | cons e entries ih =>
    rcases List.mem_append.1 h with h | h
    · exact (mem_actionsOf h).imp_left fun ha => ⟨e, List.mem_cons_self, ha⟩
    · exact (ih h).imp_left fun ⟨e', he', ha⟩ => ⟨e', List.mem_cons_of_mem e he', ha⟩

/-- What every move keeps holds after every series of entries. -/
theorem enter_induction {P : Session α κ → Prop} (hmove : ∀ s m, P s → P (s.move m))
    {s : Session α κ} (h : P s) (entries : List (Entry α κ)) : P (entries.foldl enter s) := by
  rw [foldl_enter_eq_run]
  exact run_induction hmove h _

theorem Reachable.foldl_enter {s : Session α κ} (h : s.Reachable) (entries : List (Entry α κ)) :
    (entries.foldl enter s).Reachable :=
  enter_induction (fun _ m h => h.act (.move m)) h entries

/-! ## Sources that are not held -/

theorem held_move (s : Session α κ) (m : Move α κ) :
    (s.move m).source.held = s.source.held := by
  cases m with
  | push item => rfl
  | _ => exact congrArg Source.held (source_move s (by simp))

theorem held_run (s : Session α κ) (actions : List (Action α κ)) :
    (s.run actions).source.held = s.source.held :=
  run_induction (fun t m h => (held_move t m).trans h) rfl actions

theorem running_enter {s : Session α κ} (held : s.source.held = false) (h : s.running = [])
    (e : Entry α κ) : (s.enter e).running = [] := by
  rw [enter_eq]
  split
  · have hact : (s.act e.action).source.held = false := (held_run s [e.action]).trans held
    rw [attend_of_not_held hact, running_concludeAll]
  · cases e with
    | process => exact (running_applyFirst _ s).trans h
    | settle => exact running_settle s
    | release request =>
      show (s.release request).1.running = []
      simp [release, call?, h]
    | push item => exact h
    | _ => contradiction

/-- Over a source that is not held, all calls have ended after every series of entries. -/
theorem running_foldl_enter {s : Session α κ} (held : s.source.held = false) (h : s.running = [])
    (entries : List (Entry α κ)) : (entries.foldl enter s).running = [] := by
  induction entries generalizing s with
  | nil => exact h
  | cons e entries ih =>
    have hsource : (s.enter e).source.held = false := by rw [enter_eq_run, held_run, held]
    exact ih hsource (running_enter held h e)

end Session

end Newsfeed
