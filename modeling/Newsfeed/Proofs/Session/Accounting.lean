import Mathlib.Data.List.Nodup
import Newsfeed.Proofs.Session.Settling

/-!
# The account of requests

`Session.Books` keeps accounts of a session and its deeds: every request that was issued is
pending or applied, every answer is on its way, waits or is applied, and every pending request has
one call that runs or one result that waits.  The entries are balanced as permutations, so nothing
is lost or doubled.  `Books.step` shows that each kind of step keeps them balanced.
-/

namespace Newsfeed

variable {α κ : Type}

namespace Deed

/-- What was issued, with its callback. -/
def issue : Deed α κ → Option (Fetch × Option κ)
  | .issued fetch callback => some (fetch, callback)
  | _ => none

/-- The request that was issued, with its callback. -/
def opened : Deed α κ → Option (Nat × Option κ)
  | .issued fetch callback => some (fetch.id, callback)
  | _ => none

/-- The request whose result was applied, with the callback that was told. -/
def closed : Deed α κ → Option (Nat × Option κ)
  | .applied request callback _ => some (request, callback)
  | _ => none

/-- The request whose call was answered, with the result. -/
def received : Deed α κ → Option (Nat × Result α)
  | .answered fetch result => some (fetch.id, result)
  | _ => none

/-- The request whose result was applied, with the result. -/
def delivered : Deed α κ → Option (Nat × Result α)
  | .applied request _ result => some (request, result)
  | _ => none

end Deed

/-- The result of a running call that is on its way. -/
def Call.underWay (c : Call α) : Option (Nat × Result α) := c.result.map (c.fetch.id, ·)

/-- The callback of a request that was refused. -/
def Deed.rebuffed : Deed α κ → Option κ
  | .refused _ callback => callback
  | _ => none

def Pending.account (p : Pending κ) : Nat × Option κ := (p.id, p.callback)

/-- What has to hold of a deed that is in a log. -/
def Deed.Proper (log : List (Deed α κ)) : Deed α κ → Prop
  | .refused why _ => why = .noRoom ∨ why = .inFlight
  | .answered fetch _ => ∃ callback, .issued fetch callback ∈ log
  | .stray _ => False
  | _ => True

theorem Deed.Proper.append {log : List (Deed α κ)} {d : Deed α κ} (h : d.Proper log)
    (more : List (Deed α κ)) : d.Proper (log ++ more) := by
  cases d with
  | answered fetch result =>
    obtain ⟨callback, hm⟩ := h
    exact ⟨callback, List.mem_append_left _ hm⟩
  | _ => exact h

/-- A callback is handed over with a request that is refused or issued. -/
theorem handed_perm_rebuffed (log : List (Deed α κ)) : (log.filterMap Deed.handed).Perm
    (log.filterMap Deed.rebuffed ++ (log.filterMap Deed.opened).filterMap Prod.snd) := by
  induction log with
  | nil => exact .nil
  | cons d log ih =>
    cases d with
    | refused why callback => cases callback with
      | none => exact ih
      | some c => exact ih.cons c
    | issued fetch callback => cases callback with
      | none => exact ih
      | some c => exact (ih.cons c).trans List.perm_middle.symm
    | _ => exact ih

/-- A callback is told a refusal or a result that is applied. -/
theorem told_perm_rebuffed (log : List (Deed α κ)) : ((log.filterMap Deed.told).map Prod.fst).Perm
    (log.filterMap Deed.rebuffed ++ (log.filterMap Deed.closed).filterMap Prod.snd) := by
  induction log with
  | nil => exact .nil
  | cons d log ih =>
    cases d with
    | refused why callback => cases callback with
      | none => exact ih
      | some c => exact ih.cons c
    | applied request callback result => cases callback with
      | none => exact ih
      | some c => exact (ih.cons c).trans List.perm_middle.symm
    | _ => exact ih

namespace Traffic

/-- The requests of the traffic are balanced with the deeds. -/
structure Books (t : Traffic α κ) (log : List (Deed α κ)) : Prop where
  /-- An issued request is pending or applied. -/
  opened : (log.filterMap Deed.opened).Perm
    (t.feed.pending.map Pending.account ++ log.filterMap Deed.closed)
  numbered : (log.filterMap Deed.opened).map Prod.fst = List.range t.feed.nextRequest
  /-- A pending request has a running call or a waiting result. -/
  called : (t.feed.pending.map Pending.id).Perm
    (t.running.map (·.fetch.id) ++ t.waiting.map Prod.fst)
  /-- An answer is under way, waits or is applied. -/
  received : (log.filterMap Deed.received).Perm
    (t.running.filterMap Call.underWay ++ t.waiting ++ log.filterMap Deed.delivered)
  /-- A call is made as its request was issued. -/
  issued : ∀ c ∈ t.running, ∃ callback, .issued c.fetch callback ∈ log
  /-- Callbacks are told as the deeds say, in order. -/
  told : t.told = log.filterMap Deed.told
  proper : ∀ d ∈ log, d.Proper log

/-- A step tells callbacks what its deed says. -/
theorem told_step_eq {t u : Traffic α κ} {d : Option (Deed α κ)} (h : t.Step d u) :
    u.told = t.told ++ (d.bind Deed.told).toList := by
  cases h <;> simp [Deed.told]

namespace Books

variable {t u : Traffic α κ} {log : List (Deed α κ)} {d : Option (Deed α κ)}

theorem of_nil {t : Traffic α κ} (hpending : t.feed.pending = []) (hnext : t.feed.nextRequest = 0)
    (hrunning : t.running = []) (hwaiting : t.waiting = []) (htold : t.told = []) :
    t.Books [] := by
  constructor <;> simp [hpending, hnext, hrunning, hwaiting, htold]

/-- The numbers of the pending and the applied requests are all distinct. -/
theorem nodup (h : t.Books log) :
    (t.feed.pending.map Pending.id ++ (log.filterMap Deed.closed).map Prod.fst).Nodup := by
  have hperm := h.opened.map Prod.fst
  rw [h.numbered, List.map_append, List.map_map] at hperm
  exact hperm.nodup List.nodup_range

theorem nodup_pending (h : t.Books log) : (t.feed.pending.map Pending.id).Nodup :=
  (List.nodup_append.1 h.nodup).1

theorem nodup_running (h : t.Books log) : (t.running.map (·.fetch.id)).Nodup :=
  (List.nodup_append.1 (h.called.nodup h.nodup_pending)).1

theorem lt_nextRequest (h : t.Books log) {p : Pending κ} (hp : p ∈ t.feed.pending) :
    p.id < t.feed.nextRequest := by
  rw [← List.mem_range, ← h.numbered, List.mem_map]
  exact ⟨p.account, h.opened.mem_iff.2 (List.mem_append_left _ (List.mem_map_of_mem hp)), rfl⟩

/-- A result that waits finds its request. -/
theorem find?_pending_ne_none (h : t.Books log) {r : Nat × Result α} (hr : r ∈ t.waiting) :
    t.feed.pending.find? (·.id = r.1) ≠ none := by
  have hmem : r.1 ∈ t.feed.pending.map Pending.id :=
    h.called.mem_iff.2 (List.mem_append_right _ (List.mem_map_of_mem hr))
  obtain ⟨p, hp, hid⟩ := List.mem_map.1 hmem
  rw [← Option.isSome_iff_ne_none, List.find?_isSome]
  exact ⟨p, hp, by simpa using hid⟩

/-- Nothing is pending without a call or a result. -/
theorem pending_eq_nil (h : t.Books log) (hrunning : t.running = []) (hwaiting : t.waiting = []) :
    t.feed.pending = [] := by
  have hcalled := h.called
  rw [hrunning, hwaiting] at hcalled
  exact List.map_eq_nil_iff.1 hcalled.eq_nil

theorem not_stray (h : t.Books log) {request : Nat} {result : Result α}
    {waiting : List (Nat × Result α)} (hw : t.waiting = (request, result) :: waiting) :
    t.feed.pending.find? (·.id = request) ≠ none :=
  h.find?_pending_ne_none (r := (request, result)) (hw ▸ List.mem_cons_self)

/-! ## The books stay balanced -/

theorem opened_step (h : t.Books log) (hs : t.Step d u) :
    ((log ++ d.toList).filterMap Deed.opened).Perm
      (u.feed.pending.map Pending.account ++ (log ++ d.toList).filterMap Deed.closed) := by
  rw [filterMap_append_toList, filterMap_append_toList]
  cases hs with
  | still => simpa using h.opened
  | refused => simpa [Deed.opened, Deed.closed] using h.opened
  | answered => simpa [Deed.opened, Deed.closed] using h.opened
  | released => simpa using h.opened
  | stray hw hp => exact absurd hp (h.not_stray hw)
  | @issued kind callback hr =>
    simp only [Option.bind_some, Deed.opened, Deed.closed, Option.toList_some, Option.toList_none,
      Feed.sent, List.map_append, List.append_assoc, List.append_nil]
    refine (h.opened.append_right _).trans ?_
    rw [List.append_assoc]
    exact List.perm_append_comm.append_left _
  | @applied request result waiting p hw hp =>
    have hid : p.id = request := by simpa using List.find?_some hp
    have hperm := (Feed.perm_cons_pending_complete h.nodup_pending hp result).map Pending.account
    have hp' : p.account = (request, p.callback) := by rw [Pending.account, hid]
    simp only [Option.bind_some, Deed.opened, Deed.closed, Option.toList_some, Option.toList_none,
      List.append_nil]
    refine h.opened.trans ((hperm.append_right _).trans ?_)
    rw [List.map_cons, hp', List.cons_append, ← List.append_assoc]
    exact (List.perm_append_singleton _ _).symm

theorem numbered_step (h : t.Books log) (hs : t.Step d u) :
    ((log ++ d.toList).filterMap Deed.opened).map Prod.fst = List.range u.feed.nextRequest := by
  rw [filterMap_append_toList]
  cases hs with
  | issued => simp [h.numbered, Deed.opened, Feed.sent, Feed.nextFetch, List.range_succ]
  | _ => simpa [Deed.opened] using h.numbered

theorem called_step (h : t.Books log) (hs : t.Step d u) :
    (u.feed.pending.map Pending.id).Perm
      (u.running.map (·.fetch.id) ++ u.waiting.map Prod.fst) := by
  cases hs with
  | still => exact h.called
  | refused => exact h.called
  | answered hc =>
    have := h.called
    rw [hc] at this
    simpa using this
  | released hc =>
    have := h.called
    rw [hc] at this
    refine this.trans ?_
    simp only [List.map_append, List.map_cons, List.map_nil, List.append_assoc, List.cons_append]
    refine List.Perm.append_left _ ?_
    rw [← List.append_assoc]
    exact (List.perm_append_singleton _ _).symm
  | stray hw hp => exact absurd hp (h.not_stray hw)
  | issued =>
    simp only [Feed.sent, List.map_append, List.map_cons, List.map_nil, Feed.nextFetch,
      List.append_assoc]
    refine (h.called.append_right _).trans ?_
    rw [List.append_assoc]
    exact List.perm_append_comm.append_left _
  | @applied request result waiting p hw hp =>
    have hid : p.id = request := by simpa using List.find?_some hp
    have hperm := (Feed.perm_cons_pending_complete h.nodup_pending hp result).map Pending.id
    have hcalled := h.called
    rw [hw, List.map_cons] at hcalled
    rw [List.map_cons, hid] at hperm
    exact (hperm.symm.trans (hcalled.trans List.perm_middle)).cons_inv

theorem received_step (h : t.Books log) (hs : t.Step d u) :
    ((log ++ d.toList).filterMap Deed.received).Perm
      (u.running.filterMap Call.underWay ++ u.waiting ++
        (log ++ d.toList).filterMap Deed.delivered) := by
  rw [filterMap_append_toList, filterMap_append_toList]
  cases hs with
  | still => simpa using h.received
  | refused => simpa [Deed.received, Deed.delivered] using h.received
  | issued =>
    simpa [Deed.received, Deed.delivered, Call.underWay, List.filterMap_cons] using h.received
  | stray hw hp => exact absurd hp (h.not_stray hw)
  | @answered as bs fetch result hc =>
    have hrec := h.received
    rw [hc] at hrec
    simp only [List.filterMap_append, List.filterMap_cons, Call.underWay, Option.map_none,
      Option.map_some, Option.bind_some, Option.toList_some, Option.toList_none, Deed.received,
      Deed.delivered, List.append_nil, List.append_assoc, List.cons_append] at hrec ⊢
    refine (List.perm_append_singleton _ _).trans ((hrec.cons _).trans ?_)
    exact List.perm_middle.symm
  | @released as bs fetch result hc =>
    have hrec := h.received
    rw [hc] at hrec
    simp only [List.filterMap_append, List.filterMap_cons, Call.underWay, Option.map_some,
      Option.bind_none, Option.toList_none, List.append_nil, List.append_assoc,
      List.cons_append, List.nil_append] at hrec ⊢
    refine hrec.trans (List.Perm.append_left _ ?_)
    rw [← List.append_assoc, ← List.append_assoc]
    exact List.perm_middle.symm
  | @applied request result waiting p hw hp =>
    have hrec := h.received
    rw [hw] at hrec
    simp only [Option.bind_some, Option.toList_some, Option.toList_none, Deed.received,
      Deed.delivered, List.append_nil, List.append_assoc, List.cons_append] at hrec ⊢
    refine hrec.trans (List.Perm.append_left _ ?_)
    rw [← List.append_assoc]
    exact (List.perm_append_singleton _ _).symm

theorem issued_step (h : t.Books log) (hs : t.Step d u) :
    ∀ c ∈ u.running, ∃ callback, .issued c.fetch callback ∈ log ++ d.toList := by
  have old {c : Call α} (hc : c ∈ t.running) :
      ∃ callback, .issued c.fetch callback ∈ log ++ d.toList := by
    obtain ⟨callback, hm⟩ := h.issued c hc
    exact ⟨callback, List.mem_append_left _ hm⟩
  intro c hc
  cases hs with
  | @issued kind callback hr =>
    rcases List.mem_append.1 hc with hc | hc
    · exact old hc
    · obtain rfl := List.mem_singleton.1 hc
      exact ⟨callback, List.mem_append_right _ (List.mem_singleton_self _)⟩
  | @answered as bs fetch result hr =>
    have hfetch : ∃ c' ∈ t.running, c'.fetch = c.fetch := by
      rw [hr]
      rcases List.mem_append.1 hc with hc | hc
      · exact ⟨c, List.mem_append_left _ hc, rfl⟩
      · rcases List.mem_cons.1 hc with rfl | hc
        · exact ⟨_, List.mem_append_right _ List.mem_cons_self, rfl⟩
        · exact ⟨c, List.mem_append_right _ (List.mem_cons_of_mem _ hc), rfl⟩
    obtain ⟨c', hc', he⟩ := hfetch
    exact he ▸ old hc'
  | released hr =>
    refine old ?_
    rw [hr]
    rcases List.mem_append.1 hc with hc | hc
    · exact List.mem_append_left _ hc
    · exact List.mem_append_right _ (List.mem_cons_of_mem _ hc)
  | _ => exact old hc

theorem told_step (h : t.Books log) (hs : t.Step d u) :
    u.told = (log ++ d.toList).filterMap Deed.told := by
  rw [told_step_eq hs, h.told, filterMap_append_toList]

theorem proper_step (h : t.Books log) (hs : t.Step d u) :
    ∀ e ∈ log ++ d.toList, e.Proper (log ++ d.toList) := by
  have new : ∀ e ∈ d, e.Proper log := by
    cases hs with
    | refused hr => simpa [Deed.Proper] using hr.cause rfl
    | @answered as bs fetch result hr =>
      have := h.issued ⟨fetch, none⟩ (by rw [hr]; exact List.mem_append_right _ List.mem_cons_self)
      simpa [Deed.Proper] using this
    | stray hw hp => exact absurd hp (h.not_stray hw)
    | still => simp
    | released => simp
    | issued => simp [Deed.Proper]
    | applied => simp [Deed.Proper]
  intro e he
  rcases List.mem_append.1 he with he | he
  · exact (h.proper e he).append _
  · exact (new e (by simpa using he)).append _

theorem step (h : t.Books log) (hs : t.Step d u) : u.Books (log ++ d.toList) :=
  ⟨h.opened_step hs, h.numbered_step hs, h.called_step hs, h.received_step hs, h.issued_step hs,
    h.told_step hs, h.proper_step hs⟩

/-! ## What the books say -/

/-- A number belongs to one request. -/
theorem fetch_unique (h : t.Books log) {fetch fetch' : Fetch} {c c' : Option κ}
    (hf : .issued fetch c ∈ log) (hf' : .issued fetch' c' ∈ log) (he : fetch.id = fetch'.id) :
    fetch = fetch' := by
  have hnodup : ((log.filterMap Deed.issue).map fun i => i.1.id).Nodup := by
    have hmap : (log.filterMap Deed.issue).map (fun i => i.1.id) =
        (log.filterMap Deed.opened).map Prod.fst := by
      rw [List.map_filterMap, List.map_filterMap]
      refine congrArg (List.filterMap · log) (funext fun d => ?_)
      cases d <;> rfl
    rw [hmap, h.numbered]
    exact List.nodup_range
  have hmem {fetch : Fetch} {c : Option κ} (hf : .issued fetch c ∈ log) :
      (fetch, c) ∈ log.filterMap Deed.issue := List.mem_filterMap.2 ⟨_, hf, rfl⟩
  exact congrArg Prod.fst (List.inj_on_of_nodup_map hnodup (hmem hf) (hmem hf') he)

/-- An applied result is the answer to the call of its own request, whose callback was told. -/
theorem exists_issued_of_applied (h : t.Books log) {request : Nat} {callback : Option κ}
    {result : Result α} (ha : .applied request callback result ∈ log) :
    ∃ fetch, fetch.id = request ∧ .issued fetch callback ∈ log ∧ .answered fetch result ∈ log := by
  have hopened : (request, callback) ∈ log.filterMap Deed.opened :=
    h.opened.mem_iff.2 (List.mem_append_right _ (List.mem_filterMap.2 ⟨_, ha, rfl⟩))
  have hreceived : (request, result) ∈ log.filterMap Deed.received :=
    h.received.mem_iff.2 (List.mem_append_right _ (List.mem_filterMap.2 ⟨_, ha, rfl⟩))
  obtain ⟨d, hd, hrequest⟩ := List.mem_filterMap.1 hopened
  obtain ⟨e, he, hresult⟩ := List.mem_filterMap.1 hreceived
  cases d with
  | issued fetch c =>
    cases hrequest
    cases e with
    | answered fetch' r =>
      obtain ⟨hid, rfl⟩ := Prod.mk.inj (Option.some.inj hresult)
      obtain ⟨c', hc'⟩ : ∃ callback, (.issued fetch' callback : Deed α κ) ∈ log :=
        h.proper (.answered fetch' r) he
      obtain rfl := h.fetch_unique hd hc' hid.symm
      exact ⟨fetch, rfl, hd, he⟩
    | _ => cases hresult
  | _ => cases hrequest

/-- The numbers of the answered calls are all distinct. -/
theorem nodup_received (h : t.Books log) :
    ((log.filterMap Deed.received).map Prod.fst).Nodup := by
  have hclosed : (log.filterMap Deed.delivered).map Prod.fst =
      (log.filterMap Deed.closed).map Prod.fst := by
    rw [List.map_filterMap, List.map_filterMap]
    refine congrArg (List.filterMap · log) (funext fun d => ?_)
    cases d <;> rfl
  have hrunning : ((t.running.filterMap Call.underWay).map Prod.fst).Sublist
      (t.running.map (·.fetch.id)) := by
    induction t.running with
    | nil => exact List.Sublist.slnil
    | cons c cs ih =>
      obtain ⟨fetch, result⟩ := c
      cases result with
      | none => exact ih.cons _
      | some r => exact ih.cons_cons _
  have hnodup := (h.called.append_right _).nodup h.nodup
  refine ((h.received.map Prod.fst).nodup_iff).2 (List.Sublist.nodup ?_ hnodup)
  rw [List.map_append, List.map_append, hclosed]
  exact (hrunning.append_right _).append_right _

/-- A callback that was handed over was told a result or belongs to a pending request. -/
theorem handed_perm (h : t.Books log) : (log.filterMap Deed.handed).Perm
    (t.told.map Prod.fst ++ t.feed.pending.filterMap Pending.callback) := by
  have hopened := h.opened.filterMap Prod.snd
  have hpending : (t.feed.pending.map Pending.account).filterMap Prod.snd =
      t.feed.pending.filterMap Pending.callback := List.filterMap_map
  rw [List.filterMap_append, hpending] at hopened
  rw [h.told]
  refine (handed_perm_rebuffed log).trans ((hopened.append_left _).trans ?_)
  refine (List.perm_append_comm.append_left _).trans ?_
  rw [← List.append_assoc]
  exact (told_perm_rebuffed log).symm.append_right _

end Books

end Traffic

namespace Session

variable [Identified α]

omit [Identified α] in
theorem books_create (settings : Settings) (items : List α) (paging : Paging) (source : Source α) :
    (create settings items paging source : Session α κ).traffic.Books [] :=
  .of_nil rfl rfl rfl rfl rfl

theorem books_run {s : Session α κ} (h : s.traffic.Books []) (actions : List (Action α κ)) :
    (s.run actions).traffic.Books (s.log actions) :=
  log_induction (P := fun s log => s.traffic.Books log)
    (fun _ _ m h => h.step (step_move h.nodup_running m)) h actions

/-! ## Callbacks that are handed over -/

/-- What becomes of a request when it is made. -/
theorem deed_request_cases (s : Session α κ) (kind : RequestKind) (callback : Option κ) :
    (∃ why, (why = .noRoom ∨ why = .inFlight) ∧
        s.deed (.request kind callback) = some (.refused why callback)) ∨
      s.deed (.request kind callback) = some (.issued (s.feed.nextFetch kind) callback) := by
  have hr := s.feed.responds_request kind callback
  show (∃ why, _ ∧ some (Deed.ofResponse callback (s.feed.request kind callback).2) = _) ∨
    some (Deed.ofResponse callback (s.feed.request kind callback).2) = _
  generalize s.feed.request kind callback = response at hr
  cases hr with
  | noRoom => exact Or.inl ⟨.noRoom, Or.inl rfl, rfl⟩
  | busy => exact Or.inl ⟨.inFlight, Or.inr rfl, rfl⟩
  | issued => exact Or.inr rfl

/-- A move hands over the callback of its request, and no other one. -/
theorem handed_deed (s : Session α κ) (m : Move α κ) :
    (s.deed m).bind Deed.handed = (Action.move m).callback? := by
  have answer (n : Nat) (result : Fetch → Result α) :
      (s.deedOfAnswer n result).bind Deed.handed = none := by
    unfold deedOfAnswer
    split <;> rfl
  have request (kind : RequestKind) (callback : Option κ) :
      (s.deed (.request kind callback)).bind Deed.handed = callback := by
    rcases deed_request_cases s kind callback with ⟨why, -, h⟩ | h <;> rw [h] <;> rfl
  cases m with
  | request kind callback => exact request kind callback
  | more position =>
    rcases move_more_cases s position with ⟨-, h⟩ | ⟨-, h⟩
    · rw [h]
      exact request .older none
    · rw [h]
      rfl
  | reach n => exact answer n _
  | answer n result => exact answer n _
  | release n => rfl
  | applyNext =>
    show (s.waiting.head?.map fun r => s.deedOfResult r.1 r.2).bind Deed.handed = none
    cases s.waiting.head? with
    | none => rfl
    | some r =>
      show (s.deedOfResult r.1 r.2).handed = none
      unfold deedOfResult
      split <;> rfl
  | push item => rfl

theorem handed_history (s : Session α κ) (moves : List (Move α κ)) :
    (s.history moves).filterMap Deed.handed =
      moves.filterMap fun m => (Action.move m).callback? := by
  induction moves generalizing s with
  | nil => rfl
  | cons m moves ih =>
    rw [history, List.filterMap_append, ih, List.filterMap_cons, ← handed_deed s m]
    cases s.deed m with
    | none => rfl
    | some d => cases hd : d.handed <;> simp [hd]

theorem handed_movesOf (s : Session α κ) (a : Action α κ) :
    (s.movesOf a).filterMap (fun m => (Action.move m).callback?) = a.callback?.toList := by
  have hnone {a : Action α κ} (ha : ∀ m, a ≠ .move m) :
      (s.movesOf a).filterMap (fun m => (Action.move m).callback?) = [] := by
    refine List.filterMap_eq_nil_iff.2 fun m hm => ?_
    rcases mem_movesOf hm with h | rfl | ⟨n, rfl | rfl⟩
    · exact absurd h (ha m)
    · rfl
    · rfl
    · rfl
  cases a with
  | move m => cases h : (Action.move m).callback? <;> simp [movesOf, h]
  | process => exact hnone (by simp)
  | settle => exact hnone (by simp)

/-- The callbacks of a log are those that the actions hand over, in order. -/
theorem handed_log (s : Session α κ) (actions : List (Action α κ)) :
    (s.log actions).filterMap Deed.handed = actions.filterMap Action.callback? := by
  rw [log, handed_history]
  induction actions generalizing s with
  | nil => rfl
  | cons a actions ih =>
    rw [allMoves, List.filterMap_append, ih, handed_movesOf, List.filterMap_cons]
    cases a.callback? <;> rfl

/-! ## The account of a run -/

/-- A session, after some deeds and with all the callbacks that were handed over so far, keeps
account of its requests. -/
structure Accounted (s : Session α κ) (log : List (Deed α κ)) (handed : List κ) : Prop where
  nodup : (s.feed.pending.map Pending.id).Nodup
  lt_nextRequest : ∀ p ∈ s.feed.pending, p.id < s.feed.nextRequest
  /-- They are the numbers of the running calls and the waiting results, each once. -/
  called : (s.feed.pending.map Pending.id).Perm
    (s.running.map (·.fetch.id) ++ s.waiting.map Prod.fst)
  /-- Every result finds its request pending. -/
  found : ∀ r ∈ s.waiting, ∃ p ∈ s.feed.pending, p.id = r.1
  not_stray : ∀ request, .stray request ∉ log
  /-- A callback was told one result, or belongs to a pending request. -/
  told_perm : handed.Perm (s.told.map Prod.fst ++ s.feed.pending.filterMap Pending.callback)
  /-- When all calls have ended and all results are applied, nothing is left to do. -/
  drained : s.running = [] → s.waiting = [] →
    s.feed.pending = [] ∧ handed.Perm (s.told.map Prod.fst)
  /-- Callbacks are told when a request is refused and when its result is applied. -/
  told_eq : s.told = log.filterMap Deed.told
  /-- A request is refused for lack of room or because another one is out, or it is issued. -/
  responds : ∀ kind callback,
    (∃ why, (why = .noRoom ∨ why = .inFlight) ∧
        s.deed (.request kind callback) = some (.refused why callback)) ∨
      s.deed (.request kind callback) = some (.issued (s.feed.nextFetch kind) callback)
  /-- What a move tells is told at once. -/
  told_move : ∀ m, (s.move m).told = s.told ++ ((s.deed m).bind Deed.told).toList
  numbered : (log.filterMap Deed.opened).map Prod.fst = List.range s.feed.nextRequest
  answered_once : ((log.filterMap Deed.received).map Prod.fst).Nodup
  applied_once : ((log.filterMap Deed.closed).map Prod.fst).Nodup
  /-- What is applied is the answer to the call that was made for the same request. -/
  own : ∀ request callback result, .applied request callback result ∈ log →
    ∃ fetch, fetch.id = request ∧ .issued fetch callback ∈ log ∧ .answered fetch result ∈ log

/-- The books of the traffic of a session give the account of its requests. -/
theorem accounted_of_books {s : Session α κ} {log : List (Deed α κ)} (h : s.traffic.Books log)
    {handed : List κ} (hhanded : log.filterMap Deed.handed = handed) : s.Accounted log handed where
  nodup := h.nodup_pending
  lt_nextRequest _ hp := h.lt_nextRequest hp
  called := h.called
  found r hr := by
    obtain ⟨p, hp⟩ := Option.ne_none_iff_exists'.1 (h.find?_pending_ne_none hr)
    exact ⟨p, List.mem_of_find?_eq_some hp, by simpa using List.find?_some hp⟩
  not_stray request hm := h.proper _ hm
  told_perm := hhanded ▸ h.handed_perm
  drained hrunning hwaiting := by
    have hpending := h.pending_eq_nil hrunning hwaiting
    have hperm := hhanded ▸ h.handed_perm
    rw [hpending, List.filterMap_nil, List.append_nil] at hperm
    exact ⟨hpending, hperm⟩
  told_eq := h.told
  responds := deed_request_cases s
  told_move m := Traffic.told_step_eq (step_move h.nodup_running m)
  numbered := h.numbered
  answered_once := h.nodup_received
  applied_once := (List.nodup_append.1 h.nodup).2.1
  own _ _ _ := h.exists_issued_of_applied

/-- Every run keeps account of its requests, whatever the policy and the order in which calls are
answered and results arrive; and when the session then settles, nothing is pending and every
callback that was handed over has been told its result. A source that breaks down gives its
request a failure like any other. -/
theorem accounted_run (settings : Settings) (items : List α) (paging : Paging) (source : Source α)
    (actions : List (Action α κ)) :
    let s₀ : Session α κ := create settings items paging source
    (s₀.run actions).Accounted (s₀.log actions) (actions.filterMap Action.callback?) ∧
      (s₀.run actions).settle.feed.pending = [] ∧
      (actions.filterMap Action.callback?).Perm ((s₀.run actions).settle.told.map Prod.fst) ∧
      ∀ words, ∃ report, (Answer.crash words : Answer α).result = .error (.source report) := by
  intro s₀
  have account (actions : List (Action α κ)) :
      (s₀.run actions).Accounted (s₀.log actions) (actions.filterMap Action.callback?) :=
    accounted_of_books (books_run (books_create settings items paging source) actions)
      (handed_log s₀ actions)
  have hsettle : s₀.run (actions ++ [Action.settle]) = (s₀.run actions).settle := run_append _ _ _
  have hhanded : (actions ++ [Action.settle]).filterMap Action.callback? =
      actions.filterMap Action.callback? := by
    rw [List.filterMap_append]
    exact List.append_nil _
  have settled := account (actions ++ [.settle])
  rw [hsettle, hhanded] at settled
  obtain ⟨hpending, htold⟩ := settled.drained (running_settle _) (waiting_settle _)
  exact ⟨account actions, hpending, htold, fun words => ⟨_, rfl⟩⟩

end Session

end Newsfeed
