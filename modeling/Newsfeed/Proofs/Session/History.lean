import Newsfeed.Proofs.Session.Run

/-!
# The history of a session

A move does at most one deed that concerns a request: it is refused or issued when it is made,
its call is answered, and the result is applied.  `Session.history` lists the deeds of a series of
moves in order, and `Session.log` those of a run.  The traffic of a session is what deeds are
about, and `Traffic.Step` lists what can happen to it, deed by deed; `step_move` says that nothing
else does.
-/

namespace Newsfeed

/-- Something done about a request. -/
inductive Deed (α κ : Type)
  | refused (why : Failure) (callback : Option κ)
  | issued (fetch : Fetch) (callback : Option κ)
  /-- The source answered the call. -/
  | answered (fetch : Fetch) (result : Result α)
  /-- The result was applied, and the callback was told it. -/
  | applied (request : Nat) (callback : Option κ) (result : Result α)
  /-- A result came for a request that was not pending. -/
  | stray (request : Nat)

namespace Deed

variable {α κ : Type}

/-- The deed that a response stands for. -/
def ofResponse (callback : Option κ) : Response κ → Deed α κ
  | .refused why callback => .refused why callback
  | .issued fetch => .issued fetch callback

/-- What is told to a callback at a deed. -/
def told : Deed α κ → Option (κ × Result α)
  | .refused why callback => callback.map (·, .error why)
  | .applied _ callback result => callback.map (·, result)
  | _ => none

/-- The callback that a request hands over, if the deed is what became of it at once. -/
def handed : Deed α κ → Option κ
  | .refused _ callback => callback
  | .issued _ callback => callback
  | _ => none

end Deed

variable {α κ : Type}

theorem filterMap_append_toList {β : Type} (f : Deed α κ → Option β) (log : List (Deed α κ))
    (d : Option (Deed α κ)) :
    (log ++ d.toList).filterMap f = log.filterMap f ++ (d.bind f).toList := by
  rw [List.filterMap_append]
  cases d with
  | none => rfl
  | some d => cases hd : f d <;> simp [hd]

namespace Session

variable [Identified α]

omit [Identified α] in
/-- What is done when the call for a request is answered, unless it has its result. -/
def deedOfAnswer (s : Session α κ) (request : Nat) (result : Fetch → Result α) :
    Option (Deed α κ) :=
  match s.call? request with
  | some ⟨fetch, none⟩ => some (.answered fetch (result fetch))
  | _ => none

omit [Identified α] in
/-- What is done when a result is applied. -/
def deedOfResult (s : Session α κ) (request : Nat) (result : Result α) : Deed α κ :=
  match s.feed.pending.find? (·.id = request) with
  | some p => .applied request p.callback result
  | none => .stray request

/-- What a move does about a request. -/
def deed (s : Session α κ) : Move α κ → Option (Deed α κ)
  | .request kind callback => some (.ofResponse callback (s.feed.request kind callback).2)
  | .more position => (s.feed.requestMore position).2.map (.ofResponse none)
  | .reach request => s.deedOfAnswer request s.source.answer
  | .answer request result => s.deedOfAnswer request fun _ => result
  | .release _ => none
  | .applyNext => s.waiting.head?.map fun r => s.deedOfResult r.1 r.2
  | .push _ => none

def history (s : Session α κ) : List (Move α κ) → List (Deed α κ)
  | [] => []
  | m :: moves => (s.deed m).toList ++ (s.move m).history moves

def log (s : Session α κ) (actions : List (Action α κ)) : List (Deed α κ) :=
  s.history (s.allMoves actions)

/-- What every move keeps that meets the condition, together with the deeds so far, holds after a
run of such moves. -/
theorem each_log_induction {C : Session α κ → Move α κ → Prop}
    {P : Session α κ → List (Deed α κ) → Prop}
    (hmove : ∀ s log m, C s m → P s log → P (s.move m) (log ++ (s.deed m).toList))
    {s : Session α κ} (h : P s []) {actions : List (Action α κ)}
    (hC : s.Each C (s.allMoves actions)) : P (s.run actions) (s.log actions) := by
  suffices ∀ moves (s : Session α κ) log, s.Each C moves → P s log →
      P (moves.foldl move s) (log ++ s.history moves) by
    rw [run_eq_foldl]
    exact this _ s [] hC h
  intro moves
  induction moves with
  | nil => intro s log _ h; simpa [history] using h
  | cons m moves ih =>
    intro s log hC h
    rw [history, ← List.append_assoc]
    exact ih _ _ hC.2 (hmove s log m hC.1 h)

/-- What every move keeps, together with the deeds so far, holds after every run. -/
theorem log_induction {P : Session α κ → List (Deed α κ) → Prop}
    (hmove : ∀ s log m, P s log → P (s.move m) (log ++ (s.deed m).toList))
    {s : Session α κ} (h : P s []) (actions : List (Action α κ)) :
    P (s.run actions) (s.log actions) :=
  each_log_induction (C := fun _ _ => True) (fun s log m _ => hmove s log m) h
    (each_of_forall_mem (fun _ _ _ => trivial) s)

end Session

/-! ## Traffic -/

/-- What a session has of requests: its feed, its running calls, the waiting results, and what
callbacks were told. -/
structure Traffic (α κ : Type) where
  feed : Feed α κ
  running : List (Call α)
  waiting : List (Nat × Result α)
  told : List (κ × Result α)

def Session.traffic {α κ : Type} (s : Session α κ) : Traffic α κ :=
  ⟨s.feed, s.running, s.waiting, s.told⟩

/-- What a move may do to the traffic, with its deed. -/
inductive Traffic.Step {α κ : Type} :
    Traffic α κ → Option (Deed α κ) → Traffic α κ → Prop
  | still (t : Traffic α κ) : Step t none t
  | refused {t : Traffic α κ} {kind : RequestKind} {why : Failure} {callback : Option κ}
    (h : t.feed.Responds kind callback (t.feed, .refused why callback)) :
    Step t (some (.refused why callback))
      { t with told := t.told ++ (callback.map (·, .error why)).toList }
  | issued {t : Traffic α κ} {kind : RequestKind} {callback : Option κ}
    (h : t.feed.Responds kind callback
      (t.feed.sent kind callback, .issued (t.feed.nextFetch kind))) :
    Step t (some (.issued (t.feed.nextFetch kind) callback))
      { t with
        feed := t.feed.sent kind callback
        running := t.running ++ [⟨t.feed.nextFetch kind, none⟩] }
  | answered {t : Traffic α κ} {as bs : List (Call α)} {fetch : Fetch} {result : Result α}
    (h : t.running = as ++ ⟨fetch, none⟩ :: bs) :
    Step t (some (.answered fetch result)) { t with running := as ++ ⟨fetch, some result⟩ :: bs }
  | released {t : Traffic α κ} {as bs : List (Call α)} {fetch : Fetch} {result : Result α}
    (h : t.running = as ++ ⟨fetch, some result⟩ :: bs) :
    Step t none
      { t with running := as ++ bs, waiting := t.waiting ++ [(fetch.id, result)] }
  | applied {t : Traffic α κ} {request : Nat} {result : Result α}
    {waiting : List (Nat × Result α)} {p : Pending κ}
    (h : t.waiting = (request, result) :: waiting)
    (hp : t.feed.pending.find? (·.id = request) = some p) :
    Step t (some (.applied request p.callback result))
      { t with
        feed := (t.feed.complete request result).1
        waiting := waiting
        told := t.told ++ (p.callback.map (·, result)).toList }
  | stray {t : Traffic α κ} {request : Nat} {result : Result α}
    {waiting : List (Nat × Result α)} (h : t.waiting = (request, result) :: waiting)
    (hp : t.feed.pending.find? (·.id = request) = none) :
    Step t (some (.stray request)) { t with waiting := waiting }

namespace Session

/-- The place of a running call among the others. -/
theorem exists_append_of_call? {s : Session α κ} {request : Nat} {c : Call α}
    (hnodup : (s.running.map (·.fetch.id)).Nodup) (h : s.call? request = some c) :
    ∃ as bs, s.running = as ++ c :: bs ∧ c.fetch.id = request ∧
      ∀ d ∈ as ++ bs, d.fetch.id ≠ request := by
  obtain ⟨hc, as, bs, hs, -⟩ := List.find?_eq_some_iff_append.1 h
  have hc : c.fetch.id = request := by simpa using hc
  refine ⟨as, bs, hs, hc, fun d hd hdc => ?_⟩
  have hperm : (s.running.map (·.fetch.id)).Perm (c.fetch.id :: (as ++ bs).map (·.fetch.id)) := by
    rw [hs]
    exact List.perm_middle.map _
  exact (List.nodup_cons.1 (hperm.nodup hnodup)).1 (List.mem_map.2 ⟨d, hd, hdc.trans hc.symm⟩)

theorem map_answer_eq_self {cs : List (Call α)} {request : Nat}
    (h : ∀ d ∈ cs, d.fetch.id ≠ request) (result : Result α) :
    cs.map (·.answer request result) = cs := by
  refine (List.map_congr_left fun d hd => ?_).trans (List.map_id cs)
  exact if_neg (h d hd)

theorem step_answer {s : Session α κ} (hnodup : (s.running.map (·.fetch.id)).Nodup)
    (request : Nat) (result : Fetch → Result α) :
    s.traffic.Step (s.deedOfAnswer request result) (s.answer request result).traffic := by
  unfold deedOfAnswer answer
  cases h : s.call? request with
  | none => exact .still _
  | some c =>
    obtain ⟨fetch, earlier⟩ := c
    cases earlier with
    | some => exact .still _
    | none =>
      obtain ⟨as, bs, hs, hc, hne⟩ := exists_append_of_call? hnodup h
      have has := map_answer_eq_self (fun d hd => hne d (List.mem_append_left _ hd)) (result fetch)
      have hbs := map_answer_eq_self (fun d hd => hne d (List.mem_append_right _ hd)) (result fetch)
      have hrunning : s.running.map (·.answer request (result fetch)) =
          as ++ ⟨fetch, some (result fetch)⟩ :: bs := by
        rw [hs, List.map_append, List.map_cons, has, hbs, Call.answer, if_pos hc]
      show s.traffic.Step (some (.answered fetch (result fetch)))
        ⟨s.feed, s.running.map (·.answer request (result fetch)), s.waiting, s.told⟩
      rw [hrunning]
      exact .answered hs

theorem step_release {s : Session α κ} (hnodup : (s.running.map (·.fetch.id)).Nodup)
    (request : Nat) : s.traffic.Step none (s.release request).1.traffic := by
  unfold release
  split
  next fetch result h =>
    obtain ⟨as, bs, hs, rfl, hne⟩ := exists_append_of_call? hnodup h
    have hrunning : s.running.filter (·.fetch.id ≠ fetch.id) = as ++ bs := by
      rw [hs, List.filter_append, List.filter_cons_of_neg (by simp), ← List.filter_append]
      exact List.filter_eq_self.2 fun d hd => by simpa using hne d hd
    show s.traffic.Step none ⟨s.feed, _, _, s.told⟩
    rw [hrunning]
    exact .released hs
  next => exact .still _

theorem step_applyNext (s : Session α κ) :
    s.traffic.Step (s.waiting.head?.map fun r => s.deedOfResult r.1 r.2) s.applyNext.traffic := by
  unfold applyNext
  split
  next h => rw [h]; exact .still _
  next request result waiting h =>
    rw [h]
    show s.traffic.Step (some (s.deedOfResult request result)) ⟨_, _, _, _⟩
    rw [feed_apply, running_apply, waiting_apply, told_apply, Feed.callback_complete]
    unfold deedOfResult
    cases hp : s.feed.pending.find? (·.id = request) with
    | some p => exact .applied h hp
    | none =>
      show s.traffic.Step _ ⟨(s.feed.complete request result).1, s.running, waiting, s.told ++ []⟩
      rw [Feed.complete_of_find?_eq_none hp, List.append_nil]
      exact .stray h hp

variable [Identified α]

theorem step_request (s : Session α κ) (kind : RequestKind) (callback : Option κ) :
    s.traffic.Step (s.deed (.request kind callback)) (s.move (.request kind callback)).traffic := by
  have h := s.feed.responds_request kind callback
  show s.traffic.Step (some (.ofResponse callback (s.feed.request kind callback).2))
    (s.follow (s.feed.request kind callback)).traffic
  generalize s.feed.request kind callback = response at h
  have refused {why : Failure} (h : s.feed.Responds kind callback (s.feed, .refused why callback)) :
      s.traffic.Step (some (.refused why callback)) (s.tell callback (.error why)).traffic := by
    show s.traffic.Step _ ⟨_, _, _, _⟩
    rw [feed_tell, running_tell, waiting_tell, told_tell]
    exact .refused h
  cases h with
  | noRoom grows full => exact refused (.noRoom grows full)
  | busy out gated => exact refused (.busy out gated)
  | issued free room => exact .issued (.issued free room)

/-- A request for more either is a request for older items or changes nothing. -/
theorem move_more_cases (s : Session α κ) (position : Nat) :
    (s.move (.more position) = s.move (.request .older none) ∧
        s.deed (.more position) = s.deed (.request .older none)) ∨
      (s.move (.more position) = s ∧ s.deed (.more position) = none) := by
  have hm : s.move (.more position) = s.followIfAny (s.feed.requestMore position) := rfl
  have hd : s.deed (.more position) =
      (s.feed.requestMore position).2.map (.ofResponse none) := rfl
  rw [hm, hd, Feed.requestMore_eq]
  by_cases h : s.feed.wantsMore position = true
  · rw [if_pos h]
    exact Or.inl ⟨rfl, rfl⟩
  · rw [if_neg h]
    exact Or.inr ⟨rfl, rfl⟩

omit [Identified α] in
/-- Reporting a call does not change what the answer to it does. -/
theorem traffic_answer_record (s : Session α κ) (n : Nat) (fetch : Fetch) (request : Nat)
    (result : Fetch → Result α) :
    ((s.record (.called n fetch.kind fetch.position)).answer request result).traffic =
      (s.answer request result).traffic := by
  have hrecord (e : Event α κ) : (s.record e).call? request = s.call? request := rfl
  unfold answer
  rw [hrecord]
  split <;> simp [traffic, told, record]

/-- To reach the source is to be answered by it; what else changes is the trace. -/
theorem traffic_reach (s : Session α κ) (request : Nat) :
    (s.reach request).traffic = (s.answer request s.source.answer).traffic := by
  unfold reach
  split
  next fetch h =>
    dsimp only
    split
    · exact traffic_answer_record s request fetch request _
    · rfl
  next h =>
    unfold answer
    split
    next fetch h' => exact absurd h' (h fetch)
    next => rfl

/-- A move does to the traffic what its deed says. -/
theorem step_move {s : Session α κ} (hnodup : (s.running.map (·.fetch.id)).Nodup)
    (m : Move α κ) : s.traffic.Step (s.deed m) (s.move m).traffic := by
  cases m with
  | request kind callback => exact step_request s kind callback
  | more position =>
    rcases move_more_cases s position with ⟨hm, hd⟩ | ⟨hm, hd⟩
    · rw [hm, hd]
      exact step_request s .older none
    · rw [hm, hd]
      exact .still _
  | reach request =>
    show s.traffic.Step _ (s.reach request).traffic
    rw [traffic_reach]
    exact step_answer hnodup request _
  | answer request result => exact step_answer hnodup request _
  | release request => exact step_release hnodup request
  | applyNext => exact step_applyNext s
  | push item => exact .still _

/-- An answer that a move gives is that of the source, unless the move brings its own. -/
theorem answer_of_deed {s : Session α κ} {m : Move α κ} (hm : ∀ n result, m ≠ .answer n result)
    {fetch : Fetch} {result : Result α} (h : s.deed m = some (.answered fetch result)) :
    result = s.source.answer fetch := by
  have hresponse (callback : Option κ) (response : Response κ) :
      Deed.ofResponse (α := α) callback response ≠ .answered fetch result := by
    cases response <;> simp [Deed.ofResponse]
  cases m with
  | request kind callback => exact absurd (Option.some.inj h) (hresponse _ _)
  | more position =>
    obtain ⟨response, -, hr⟩ := Option.map_eq_some_iff.1 h
    exact absurd hr (hresponse _ _)
  | reach n =>
    have h : s.deedOfAnswer n s.source.answer = some (.answered fetch result) := h
    unfold deedOfAnswer at h
    split at h
    · cases h
      rfl
    · cases h
  | answer n result => exact absurd rfl (hm n result)
  | release n => cases h
  | applyNext =>
    obtain ⟨r, -, hr⟩ := Option.map_eq_some_iff.1 h
    unfold deedOfResult at hr
    split at hr <;> cases hr
  | push item => cases h

end Session

end Newsfeed
