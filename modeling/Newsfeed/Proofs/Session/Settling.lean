import Newsfeed.Proofs.Session.History

/-!
# Settling

When a session settles, every running call ends and every waiting result is applied: afterwards no
call runs and no result waits (`running_settle`, `waiting_settle`).
-/

namespace Newsfeed.Session

variable {α κ : Type}

/-! ## Ending calls -/

/-- The call for a request after it has been answered. -/
theorem call?_answer (s : Session α κ) (request : Nat) (result : Fetch → Result α) :
    (s.answer request result).call? request =
      (s.call? request).map fun c => { c with result := c.result <|> some (result c.fetch) } := by
  have hid (r : Result α) :
      (fun c : Call α => decide (c.fetch.id = request)) ∘ (fun c => c.answer request r) =
        fun c : Call α => decide (c.fetch.id = request) := by
    funext c
    simp only [Function.comp, Call.answer]
    split <;> rfl
  unfold answer
  cases h : s.call? request with
  | none => simpa using h
  | some c =>
    obtain ⟨fetch, earlier⟩ := c
    have hc : fetch.id = request := by simpa using List.find?_some h
    cases earlier with
    | some r => simpa using h
    | none =>
      show (s.running.map (·.answer request (result fetch))).find? _ = _
      rw [List.find?_map, hid]
      show (s.call? request).map _ = _
      rw [h]
      simp [Call.answer, hc]

theorem filter_running_answer (s : Session α κ) (request : Nat) (result : Fetch → Result α) :
    (s.answer request result).running.filter (·.fetch.id ≠ request) =
      s.running.filter (·.fetch.id ≠ request) := by
  have hmap (r : Result α) (cs : List (Call α)) :
      (cs.map (·.answer request r)).filter (·.fetch.id ≠ request) =
        cs.filter (·.fetch.id ≠ request) := by
    induction cs with
    | nil => rfl
    | cons c cs ih =>
      by_cases hc : c.fetch.id = request <;> simpa [Call.answer, hc] using ih
  unfold answer
  split
  · exact hmap _ _
  · rfl

/-- An answered call is released. -/
theorem running_release_answer (s : Session α κ) (request : Nat) (result : Fetch → Result α) :
    ((s.answer request result).release request).1.running =
      s.running.filter (·.fetch.id ≠ request) := by
  have hfilter := filter_running_answer s request result
  have hcall := call?_answer s request result
  unfold release
  rw [hcall]
  cases h : s.call? request with
  | none =>
    show (s.answer request result).running = _
    rw [← hfilter, List.filter_eq_self.2]
    intro c hc
    rw [h] at hcall
    simpa using List.find?_eq_none.1 hcall c hc
  | some c =>
    obtain ⟨fetch, earlier⟩ := c
    cases earlier with
    | none => exact hfilter
    | some r => exact hfilter

variable [Identified α]

/-- A concluded call runs no more, and every other one still runs. -/
theorem running_conclude (s : Session α κ) (request : Nat) :
    (s.conclude request).running = s.running.filter (·.fetch.id ≠ request) := by
  have hreach := congrArg Traffic.running (traffic_reach s request)
  rw [← running_release_answer s request s.source.answer]
  unfold conclude release call?
  rw [show (s.reach request).running = _ from hreach]
  split <;> simp_all [traffic]

theorem running_foldl_conclude (requests : List Nat) (s : Session α κ) :
    (requests.foldl conclude s).running = s.running.filter (·.fetch.id ∉ requests) := by
  induction requests generalizing s with
  | nil => exact (List.filter_eq_self.2 fun c _ => by simp).symm
  | cons request requests ih =>
    rw [List.foldl_cons, ih, running_conclude, List.filter_filter]
    exact List.filter_congr fun c _ => by simp [Bool.and_comm]

theorem running_concludeAll (s : Session α κ) : s.concludeAll.running = [] := by
  rw [concludeAll, running_foldl_conclude, List.filter_eq_nil_iff]
  intro c hc
  simpa using ⟨c, hc, rfl⟩

/-! ## Applying results -/

omit [Identified α] in
theorem running_applyNext (s : Session α κ) : s.applyNext.running = s.running := by
  unfold applyNext
  split
  · rfl
  · exact running_apply _ _ _

omit [Identified α] in
theorem waiting_applyNext (s : Session α κ) : s.applyNext.waiting = s.waiting.tail := by
  unfold applyNext
  split
  next h => rw [h]; rfl
  next h => rw [h]; exact waiting_apply _ _ _

omit [Identified α] in
theorem running_applyFirst (n : Nat) (s : Session α κ) : (s.applyFirst n).running = s.running := by
  induction n generalizing s with
  | zero => rfl
  | succ n ih => rw [applyFirst, ih, running_applyNext]

omit [Identified α] in
theorem waiting_applyFirst (n : Nat) (s : Session α κ) :
    (s.applyFirst n).waiting = s.waiting.drop n := by
  induction n generalizing s with
  | zero => rfl
  | succ n ih => rw [applyFirst, ih, waiting_applyNext, List.drop_tail]

theorem running_settle (s : Session α κ) : s.settle.running = [] := by
  rw [settle, process, running_applyFirst, running_concludeAll]

theorem waiting_settle (s : Session α κ) : s.settle.waiting = [] := by
  rw [settle, process, waiting_applyFirst, List.drop_length]

theorem source_foldl_move {moves : List (Move α κ)} (h : ∀ m ∈ moves, ∀ item, m ≠ .push item)
    (s : Session α κ) : (moves.foldl move s).source = s.source := by
  induction moves generalizing s with
  | nil => rfl
  | cons m moves ih =>
    obtain ⟨hm, h⟩ := List.forall_mem_cons.1 h
    rw [List.foldl_cons, ih h, source_move s hm]

theorem source_settle (s : Session α κ) : s.settle.source = s.source := by
  have hact := act_eq_foldl s .settle
  refine (congrArg source hact).trans (source_foldl_move ?_ s)
  rintro m hm item rfl
  rcases mem_movesOf hm with h | h | ⟨n, h | h⟩ <;> cases h

/-! ## A single call -/

theorem traffic_conclude_of_running {s : Session α κ} {fetch : Fetch}
    (h : s.running = [⟨fetch, none⟩]) :
    (s.conclude fetch.id).traffic =
      { s.traffic with
        running := []
        waiting := s.waiting ++ [(fetch.id, s.source.answer fetch)] } := by
  have hcall : s.call? fetch.id = some ⟨fetch, none⟩ := by simp [call?, h]
  have hanswer : (s.answer fetch.id s.source.answer).traffic =
      { s.traffic with running := [⟨fetch, some (s.source.answer fetch)⟩] } := by
    simp [answer, hcall, traffic, h, Call.answer, told]
  have hreach := (traffic_reach s fetch.id).trans hanswer
  have hrunning : (s.reach fetch.id).running = [⟨fetch, some (s.source.answer fetch)⟩] :=
    congrArg Traffic.running hreach
  have hwaiting : (s.reach fetch.id).waiting = s.waiting := congrArg Traffic.waiting hreach
  have htold : (s.reach fetch.id).told = s.told := congrArg Traffic.told hreach
  simp only [told] at htold
  simp [conclude, release, call?, hrunning, hwaiting, traffic, told, htold]

/-- When the only call that runs settles, the source answers it and the answer is applied. -/
theorem feed_settle_of_running {s : Session α κ} {fetch : Fetch}
    (hrunning : s.running = [⟨fetch, none⟩]) (hwaiting : s.waiting = []) :
    s.settle.feed = (s.feed.complete fetch.id (s.source.answer fetch)).1 := by
  have hall : s.concludeAll = s.conclude fetch.id := by simp [concludeAll, hrunning]
  have htraffic := traffic_conclude_of_running hrunning
  have hfeed : (s.conclude fetch.id).feed = s.feed := congrArg Traffic.feed htraffic
  have hqueue : (s.conclude fetch.id).waiting = [(fetch.id, s.source.answer fetch)] := by
    refine (congrArg Traffic.waiting htraffic).trans ?_
    rw [hwaiting]
    rfl
  show (s.concludeAll.applyFirst s.concludeAll.waiting.length).feed = _
  rw [hall, hqueue]
  show (s.conclude fetch.id).applyNext.feed = _
  rw [applyNext, hqueue]
  exact (feed_apply _ _ _).trans (by rw [hfeed])

/-- A request that is made when nothing is out and then settled is answered by the source. -/
theorem feed_request_settle {s : Session α κ} (hrunning : s.running = [])
    (hwaiting : s.waiting = []) {kind : RequestKind} (free : s.feed.paging.inFlight = false)
    (room : kind ≠ .refresh → s.feed.hasRoom = true) (callback : Option κ) :
    (s.move (.request kind callback)).settle.feed =
      ((s.feed.sent kind callback).complete s.feed.nextRequest
        (s.source.answer (s.feed.nextFetch kind))).1 := by
  have hmove : s.move (.request kind callback) = s.follow (s.feed.request kind callback) := rfl
  rw [hmove, Feed.request_of_free callback free room]
  have hrunning' : (s.follow (s.feed.sent kind callback, .issued (s.feed.nextFetch kind))).running =
      [⟨s.feed.nextFetch kind, none⟩] := by
    rw [follow, dispatch, hrunning]
    rfl
  exact feed_settle_of_running hrunning' hwaiting

end Newsfeed.Session
