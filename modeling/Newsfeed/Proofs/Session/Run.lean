import Newsfeed.Proofs.Feed.Requests
import Newsfeed.Session

/-!
# Runs of sessions

A session changes by moves: its owner requests something or applies a result, a call reaches the
source or is answered in some other way, the result of a call arrives, and the archive gets a new
item.  Moves come in any order, so a call may be answered at any moment after its request and
results may overtake each other.  An action is a move, or one of `process` and `settle`, which are
series of moves (`act_eq_foldl`).  What all moves keep therefore holds after every run
(`run_induction`).
-/

namespace Newsfeed

/-- Something that happens to a session at once. -/
inductive Move (α κ : Type)
  /-- The owner makes a request. -/
  | request (kind : RequestKind) (callback : Option κ)
  /-- The owner shows the item at a position. -/
  | more (position : Nat)
  /-- The call for a request reaches the source of the session. -/
  | reach (request : Nat)
  /-- The call for a request is answered with any result. -/
  | answer (request : Nat) (result : Result α)
  /-- The result of the call for a request arrives. -/
  | release (request : Nat)
  /-- The owner applies the result that waits longest. -/
  | applyNext
  /-- The archive behind the source gets an item. -/
  | push (item : α)

/-- Something that happens to a session. -/
inductive Action (α κ : Type)
  | move (m : Move α κ)
  /-- The owner applies all results that wait. -/
  | process
  /-- The owner lets all calls end and applies their results. -/
  | settle

/-- The callback that an action hands over. -/
def Action.callback? {α κ : Type} : Action α κ → Option κ
  | .move (.request _ callback) => callback
  | _ => none

namespace Session

variable {α κ : Type} [Identified α]

def move (s : Session α κ) : Move α κ → Session α κ
  | .request kind callback => s.follow (s.feed.request kind callback)
  | .more position => s.followIfAny (s.feed.requestMore position)
  | .reach request => s.reach request
  | .answer request result => s.answer request fun _ => result
  | .release request => (s.release request).1
  | .applyNext => s.applyNext
  | .push item => s.push item

def act (s : Session α κ) : Action α κ → Session α κ
  | .move m => s.move m
  | .process => s.process.1
  | .settle => s.settle

def run (s : Session α κ) (actions : List (Action α κ)) : Session α κ := actions.foldl act s

@[simp]
theorem run_nil (s : Session α κ) : s.run [] = s := rfl

@[simp]
theorem run_cons (s : Session α κ) (a : Action α κ) (actions : List (Action α κ)) :
    s.run (a :: actions) = (s.act a).run actions := rfl

theorem run_append (s : Session α κ) (actions more : List (Action α κ)) :
    s.run (actions ++ more) = (s.run actions).run more := List.foldl_append

/-! ## Actions as series of moves -/

/-- The moves by which running calls with the given numbers end. -/
def concluding (requests : List Nat) : List (Move α κ) :=
  requests.flatMap fun request => [.reach request, .release request]

def movesOf (s : Session α κ) : Action α κ → List (Move α κ)
  | .move m => [m]
  | .process => List.replicate s.waiting.length .applyNext
  | .settle =>
    concluding (s.running.map (·.fetch.id)) ++
      List.replicate s.concludeAll.waiting.length .applyNext

/-- Processing and settling consist of moves by which calls end and results are applied. -/
theorem mem_movesOf {s : Session α κ} {a : Action α κ} {m : Move α κ} (h : m ∈ s.movesOf a) :
    a = .move m ∨ m = .applyNext ∨ ∃ n, m = .reach n ∨ m = .release n := by
  cases a with
  | move m' => exact .inl (congrArg _ (List.mem_singleton.1 h).symm)
  | process => exact .inr (.inl (List.eq_of_mem_replicate h))
  | settle =>
    rcases List.mem_append.1 h with h | h
    · obtain ⟨n, -, hm⟩ := List.mem_flatMap.1 h
      exact .inr (.inr ⟨n, by simpa using hm⟩)
    · exact .inr (.inl (List.eq_of_mem_replicate h))

theorem foldl_move_replicate_applyNext (n : Nat) (s : Session α κ) :
    (List.replicate n .applyNext).foldl move s = s.applyFirst n := by
  induction n generalizing s with
  | zero => rfl
  | succ n ih => exact ih s.applyNext

theorem foldl_move_concluding (requests : List Nat) (s : Session α κ) :
    (concluding requests).foldl move s = requests.foldl conclude s := by
  induction requests generalizing s with
  | nil => rfl
  | cons request requests ih => exact ih (s.conclude request)

theorem act_eq_foldl (s : Session α κ) (a : Action α κ) :
    s.act a = (s.movesOf a).foldl move s := by
  cases a with
  | move m => rfl
  | process => exact (foldl_move_replicate_applyNext _ s).symm
  | settle =>
    rw [movesOf, List.foldl_append, foldl_move_concluding, foldl_move_replicate_applyNext]
    rfl

/-- All moves of a run, one after the other. -/
def allMoves (s : Session α κ) : List (Action α κ) → List (Move α κ)
  | [] => []
  | a :: actions => s.movesOf a ++ (s.act a).allMoves actions

theorem run_eq_foldl (s : Session α κ) (actions : List (Action α κ)) :
    s.run actions = (s.allMoves actions).foldl move s := by
  induction actions generalizing s with
  | nil => rfl
  | cons a actions ih =>
    rw [run_cons, ih, allMoves, List.foldl_append, ← act_eq_foldl]

/-- What every move keeps holds after every run. -/
theorem run_induction {P : Session α κ → Prop} (hmove : ∀ s m, P s → P (s.move m))
    {s : Session α κ} (h : P s) (actions : List (Action α κ)) : P (s.run actions) := by
  rw [run_eq_foldl]
  generalize s.allMoves actions = moves
  induction moves generalizing s with
  | nil => exact h
  | cons m moves ih => exact ih (hmove s m h)

/-! ## Conditions on the moves of a run -/

/-- Every move of a series meets a condition when its turn comes. -/
def Each (P : Session α κ → Move α κ → Prop) (s : Session α κ) : List (Move α κ) → Prop
  | [] => True
  | m :: moves => P s m ∧ Each P (s.move m) moves

theorem each_append {P : Session α κ → Move α κ → Prop} {s : Session α κ}
    {moves more : List (Move α κ)} :
    s.Each P (moves ++ more) ↔ s.Each P moves ∧ (moves.foldl move s).Each P more := by
  induction moves generalizing s with
  | nil => exact ⟨fun h => ⟨trivial, h⟩, And.right⟩
  | cons m moves ih => exact (and_congr_right fun _ => ih).trans and_assoc.symm

theorem each_of_forall_mem {P : Session α κ → Move α κ → Prop} {moves : List (Move α κ)}
    (h : ∀ m ∈ moves, ∀ s, P s m) (s : Session α κ) : s.Each P moves := by
  induction moves generalizing s with
  | nil => trivial
  | cons m moves ih =>
    obtain ⟨hm, h⟩ := List.forall_mem_cons.1 h
    exact ⟨hm s, ih h _⟩

theorem Each.mono {P Q : Session α κ → Move α κ → Prop} (h : ∀ s m, P s m → Q s m)
    {s : Session α κ} {moves : List (Move α κ)} (hP : s.Each P moves) : s.Each Q moves := by
  induction moves generalizing s with
  | nil => trivial
  | cons m moves ih => exact ⟨h s m hP.1, ih hP.2⟩

/-- What every move keeps that meets the condition holds after a run of such moves. -/
theorem each_induction {P : Session α κ → Move α κ → Prop} {I : Session α κ → Prop}
    (hmove : ∀ s m, P s m → I s → I (s.move m)) {s : Session α κ} (h : I s)
    {actions : List (Action α κ)} (hP : s.Each P (s.allMoves actions)) : I (s.run actions) := by
  rw [run_eq_foldl]
  generalize s.allMoves actions = moves at hP ⊢
  induction moves generalizing s with
  | nil => exact h
  | cons m moves ih => exact ih (hmove s m hP.1 h) hP.2

/-! ## Frame lemmas -/

/-- The results that callbacks were told, in order. -/
def told (s : Session α κ) : List (κ × Result α) :=
  s.trace.filterMap fun
    | .answered callback result => some (callback, result)
    | _ => none

omit [Identified α] in
theorem told_tell (s : Session α κ) (callback : Option κ) (result : Result α) :
    (s.tell callback result).told = s.told ++ (callback.map (·, result)).toList := by
  cases callback with
  | none => simp [tell]
  | some callback => simp [tell, record, told]

section Tell

variable (s : Session α κ) (callback : Option κ) (result : Result α)

omit [Identified α]

@[simp]
theorem feed_tell : (s.tell callback result).feed = s.feed := by
  cases callback <;> rfl

@[simp]
theorem source_tell : (s.tell callback result).source = s.source := by
  cases callback <;> rfl

@[simp]
theorem running_tell : (s.tell callback result).running = s.running := by
  cases callback <;> rfl

@[simp]
theorem waiting_tell : (s.tell callback result).waiting = s.waiting := by
  cases callback <;> rfl

end Tell

omit [Identified α] in
@[simp]
theorem told_notify (s : Session α κ) (e : Notice) : (s.notify e).told = s.told := by
  simp [notify, perform, onBoard, told, List.filterMap_append, List.filterMap_map]

section Apply

variable (s : Session α κ) (request : Nat) (result : Result α)

omit [Identified α]

@[simp]
theorem feed_apply : (s.apply request result).feed = (s.feed.complete request result).1 := by
  unfold apply
  dsimp only
  rw [feed_tell]
  split <;> rfl

@[simp]
theorem source_apply : (s.apply request result).source = s.source := by
  unfold apply
  dsimp only
  rw [source_tell]
  split <;> rfl

@[simp]
theorem running_apply : (s.apply request result).running = s.running := by
  unfold apply
  dsimp only
  rw [running_tell]
  split <;> rfl

@[simp]
theorem waiting_apply : (s.apply request result).waiting = s.waiting := by
  unfold apply
  dsimp only
  rw [waiting_tell]
  split <;> rfl

theorem told_apply :
    (s.apply request result).told = s.told ++
      ((s.feed.complete request result).2.callback.map (·, result)).toList := by
  unfold apply
  dsimp only
  rw [told_tell]
  split
  · rw [told_notify]; rfl
  · rfl

end Apply

/-! ## The source of a session -/

omit [Identified α] in
@[simp]
theorem source_follow (s : Session α κ) (response : Feed α κ × Response κ) :
    (s.follow response).source = s.source := by
  obtain ⟨feed, why | fetch⟩ := response
  · exact source_tell _ _ _
  · rfl

omit [Identified α] in
@[simp]
theorem source_answer (s : Session α κ) (request : Nat) (result : Fetch → Result α) :
    (s.answer request result).source = s.source := by
  unfold answer
  split <;> rfl

/-- Only what is published changes the source. -/
theorem source_move (s : Session α κ) {m : Move α κ} (hm : ∀ item, m ≠ .push item) :
    (s.move m).source = s.source := by
  cases m with
  | request kind callback => exact source_follow s _
  | more position =>
    show (s.followIfAny (s.feed.requestMore position)).source = s.source
    rw [Feed.requestMore_eq]
    split
    · exact source_follow s _
    · rfl
  | reach n =>
    show (s.reach n).source = s.source
    unfold reach
    split
    · dsimp only
      rw [source_answer]
      split <;> rfl
    · rfl
  | answer n result => exact source_answer s n _
  | release n =>
    show (s.release n).1.source = s.source
    unfold release
    split <;> rfl
  | applyNext =>
    show s.applyNext.source = s.source
    unfold applyNext
    split
    · rfl
    next request result waiting h => exact source_apply { s with waiting } request result
  | push item => exact absurd rfl (hm item)

/-! ## The feed of a session -/

omit [Identified α] in
theorem feed_follow (s : Session α κ) (response : Feed α κ × Response κ) :
    (s.follow response).feed = response.1 := by
  obtain ⟨feed, why | fetch⟩ := response
  · exact feed_tell _ _ _
  · rfl

omit [Identified α] in
@[simp]
theorem feed_answer (s : Session α κ) (request : Nat) (result : Fetch → Result α) :
    (s.answer request result).feed = s.feed := by
  unfold answer
  split <;> rfl

@[simp]
theorem feed_reach (s : Session α κ) (request : Nat) : (s.reach request).feed = s.feed := by
  unfold reach
  split
  · dsimp only
    rw [feed_answer]
    split <;> rfl
  · rfl

omit [Identified α] in
@[simp]
theorem feed_release (s : Session α κ) (request : Nat) : (s.release request).1.feed = s.feed := by
  unfold release
  split <;> rfl

/-- A request that may go out does. -/
theorem feed_request_of_free {s : Session α κ} {kind : RequestKind} (callback : Option κ)
    (free : s.feed.paging.inFlight = false) (room : kind ≠ .refresh → s.feed.hasRoom = true) :
    (s.move (.request kind callback)).feed = s.feed.sent kind callback := by
  show (s.follow (s.feed.request kind callback)).feed = _
  rw [feed_follow, Feed.request_of_free callback free room]

theorem feed_move_applyNext {s : Session α κ} {r : Nat × Result α} (hr : r ∈ s.waiting.head?) :
    (s.move .applyNext).feed = (s.feed.complete r.1 r.2).1 := by
  obtain ⟨waiting, hw⟩ := List.head?_eq_some_iff.1 hr
  show s.applyNext.feed = _
  rw [applyNext, hw]
  exact feed_apply _ _ _

/-- A move leaves the feed as it is, makes a request of it or applies to it the result that waits
longest. -/
theorem feed_move_cases (s : Session α κ) (m : Move α κ) :
    (s.move m).feed = s.feed ∨
      (∃ kind callback, (s.move m).feed = (s.feed.request kind callback).1) ∨
      ∃ r ∈ s.waiting.head?, m = .applyNext ∧
        (s.move m).feed = (s.feed.complete r.1 r.2).1 := by
  cases m with
  | request kind callback => exact Or.inr (Or.inl ⟨kind, callback, feed_follow s _⟩)
  | more position =>
    have he : s.move (.more position) = s.followIfAny (s.feed.requestMore position) := rfl
    rw [he, Feed.requestMore_eq]
    by_cases h : s.feed.wantsMore position = true
    · rw [if_pos h]
      exact Or.inr (Or.inl ⟨.older, none, feed_follow s (s.feed.request .older none)⟩)
    · rw [if_neg h]
      exact Or.inl rfl
  | reach request => exact Or.inl (feed_reach s request)
  | answer request result => exact Or.inl (feed_answer s request _)
  | release request => exact Or.inl (feed_release s request)
  | applyNext =>
    cases h : s.waiting with
    | nil =>
      have he : s.move .applyNext = s.applyNext := rfl
      rw [he, applyNext, h]
      exact Or.inl rfl
    | cons r waiting =>
      have hr : r ∈ s.waiting.head? := by rw [h]; rfl
      exact Or.inr (Or.inr ⟨r, rfl, rfl, feed_move_applyNext hr⟩)
  | push item => exact Or.inl rfl

theorem settings_move (s : Session α κ) (m : Move α κ) :
    (s.move m).feed.settings = s.feed.settings := by
  rcases feed_move_cases s m with he | ⟨kind, callback, he⟩ | ⟨r, -, -, he⟩
  · rw [he]
  · rw [he, Feed.settings_request]
  · rw [he, Feed.settings_complete]

theorem settings_run (s : Session α κ) (actions : List (Action α κ)) :
    (s.run actions).feed.settings = s.feed.settings :=
  run_induction (fun t m h => (settings_move t m).trans h) rfl actions

/-- What requests and results keep of a feed holds of the feed after every run. -/
theorem feed_run_induction {P : Feed α κ → Prop}
    (hrequest : ∀ f kind callback, P f → P (f.request kind callback).1)
    (hcomplete : ∀ f id result, P f → P (f.complete id result).1)
    {s : Session α κ} (h : P s.feed) (actions : List (Action α κ)) : P (s.run actions).feed := by
  refine run_induction (P := fun s => P s.feed) (fun s m h => ?_) h actions
  rcases feed_move_cases s m with he | ⟨kind, callback, he⟩ | ⟨r, -, -, he⟩
  · rwa [he]
  · rw [he]
    exact hrequest _ _ _ h
  · rw [he]
    exact hcomplete _ _ _ h

end Session

end Newsfeed
