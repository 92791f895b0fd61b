import Newsfeed.Proofs.Session.Failing
import Newsfeed.Proofs.Session.Replay

/-!
# Requests that come to nothing

A request that is refused changes nothing, and only its own callback hears of it.  A request for
newer or older items that goes out while nothing is pending and then fails leaves no trace but its
number: `Session.Errand` follows it from the moment when it is sent to the one when its result is
applied, whatever the call and the owner do in between short of another request.  Both hold in every
session that can come about (`Session.Reachable`), also if the owner has set the state of paging by
hand.
-/

namespace Newsfeed

variable {α κ : Type}

/-! ## Feeds -/

theorem Paging.finish_requested {p : Paging} {kind : RequestKind} (hk : kind ≠ .refresh)
    (free : p.inFlight = false) : (p.requested kind).finish = p := by
  obtain ⟨newer, older, newerEdge, olderEdge, inFlight⟩ := p
  obtain rfl : inFlight = false := free
  cases kind with
  | refresh => exact absurd rfl hk
  | newer | older => rfl

namespace Feed

variable {f : Feed α κ} {kind : RequestKind}

/-- While the list is full, a request for either end is refused for want of room, whether or not
another one is out. -/
theorem request_of_full (hk : kind ≠ .refresh) (full : f.hasRoom = false) (callback : Option κ) :
    f.request kind callback = (f, .refused .noRoom callback) := by
  have hextend (position : Option Int64) :
      f.extend kind position callback = (f, .refused .noRoom callback) := by
    rw [extend, full]
    rfl
  cases kind with
  | refresh => exact absurd rfl hk
  | newer | older => exact hextend _

/-- A feed that refuses a request stays as it is, and want of room is its first reason. -/
theorem request_of_refused {why : Failure} {callback c : Option κ}
    (h : (f.request kind callback).2 = .refused why c) :
    f.request kind callback = (f, .refused why callback) ∧
      why = if kind ≠ .refresh ∧ f.hasRoom = false then .noRoom else .inFlight := by
  by_cases hfull : kind ≠ .refresh ∧ f.hasRoom = false
  · have hrequest := request_of_full hfull.1 hfull.2 callback
    rw [hrequest] at h
    cases h
    exact ⟨hrequest, (if_pos hfull).symm⟩
  · have hresponds := f.responds_request kind callback
    generalize f.request kind callback = response at h hresponds
    cases hresponds with
    | noRoom grows full => exact absurd ⟨grows, full⟩ hfull
    | busy => cases h; exact ⟨rfl, (if_neg hfull).symm⟩
    | issued => cases h

/-- A failure undoes what a request for either end has done to the feed. -/
theorem exchange_error_of_free (hpending : f.pending = []) (hk : kind ≠ .refresh)
    (free : f.paging.inFlight = false) (callback : Option κ) (why : Failure) :
    f.exchange kind callback (.error why) = { f with nextRequest := f.nextRequest + 1 } := by
  rw [exchange_error hpending, Paging.finish_requested hk free, ← hpending]
  rfl

end Feed

/-! ## Traffic -/

namespace Traffic

/-- Nothing runs or waits if nothing is pending. -/
theorem Books.of_pending_eq_nil {t : Traffic α κ} {log : List (Deed α κ)} (h : t.Books log)
    (hpending : t.feed.pending = []) : t.running = [] ∧ t.waiting = [] := by
  have hcalled := h.called
  rw [hpending] at hcalled
  obtain ⟨hrunning, hwaiting⟩ := List.append_eq_nil_iff.1 hcalled.nil_eq.symm
  exact ⟨List.map_eq_nil_iff.1 hrunning, List.map_eq_nil_iff.1 hwaiting⟩

/-- The state of paging is not in the books. -/
theorem Books.withPaging {t : Traffic α κ} {log : List (Deed α κ)} (h : t.Books log)
    (paging : Paging) : { t with feed.paging := paging }.Books log :=
  { h with }

/-- A step that issues nothing changes the feed only by applying a result to a pending request. -/
theorem feed_step_cases {t u : Traffic α κ} {d : Option (Deed α κ)} (hs : t.Step d u)
    (hd : ∀ fetch callback, d ≠ some (.issued fetch callback)) :
    (u.feed = t.feed ∧ d.bind Deed.delivered = none) ∨
      ∃ p ∈ t.feed.pending, ∃ result, d = some (.applied p.id p.callback result) ∧
        u.feed = (t.feed.complete p.id result).1 := by
  cases hs with
  | issued => exact absurd rfl (hd _ _)
  | @applied request result waiting p hw hp =>
    have hid : p.id = request := by simpa using List.find?_some hp
    subst hid
    exact .inr ⟨p, List.mem_of_find?_eq_some hp, result, rfl, rfl⟩
  | _ => exact .inl ⟨rfl, rfl⟩

end Traffic

/-! ## Sessions -/

/-- The owner asks for items. -/
def Move.isRequest : Move α κ → Bool
  | .request _ _ | .more _ => true
  | _ => false

namespace Session

variable [Identified α]

/-- The sessions that can come about, over any source and from any list and state of paging. -/
inductive Reachable : Session α κ → Prop
  | create (settings : Settings) (items : List α) (paging : Paging) (source : Source α) :
    Reachable (.create settings items paging source)
  | act {s : Session α κ} (h : s.Reachable) (a : Action α κ) : Reachable (s.act a)
  /-- Somebody uses the board. -/
  | perform {s : Session α κ} (h : s.Reachable) (c : Command) : Reachable (s.perform c).1
  /-- The owner sets the state of paging by hand. -/
  | withPaging {s : Session α κ} (h : s.Reachable) (paging : Paging) :
    Reachable { s with feed.paging := paging }

theorem Reachable.exists_books {s : Session α κ} (h : s.Reachable) :
    ∃ log, s.traffic.Books log := by
  induction h with
  | create settings items paging source => exact ⟨[], books_create settings items paging source⟩
  | @act s h a ih =>
    rw [act_eq_foldl]
    generalize s.movesOf a = moves
    clear h
    induction moves generalizing s with
    | nil => exact ih
    | cons m moves ihm =>
      obtain ⟨log, hbooks⟩ := ih
      exact ihm ⟨_, hbooks.step (step_move hbooks.nodup_running m)⟩
  | @perform s h c ih =>
    rw [traffic_perform]
    exact ih
  | withPaging h paging ih =>
    obtain ⟨log, hbooks⟩ := ih
    exact ⟨log, hbooks.withPaging paging⟩

section Moves

variable {s : Session α κ} {m : Move α κ}

theorem deed_ne_issued (hm : m.isRequest = false) (fetch : Fetch) (callback : Option κ) :
    s.deed m ≠ some (.issued fetch callback) := by
  have answer (n : Nat) (result : Fetch → Result α) :
      s.deedOfAnswer n result ≠ some (.issued fetch callback) := by
    unfold deedOfAnswer
    split <;> simp
  cases m with
  | request => cases hm
  | more => cases hm
  | reach n => exact answer n _
  | answer n result => exact answer n _
  | release => exact nofun
  | applyNext =>
    intro h
    obtain ⟨r, -, hr⟩ := Option.map_eq_some_iff.1 h
    unfold deedOfResult at hr
    split at hr <;> cases hr
  | push => exact nofun

theorem view_move_of_not_fills (h : (s.deed m).any Deed.fills = false) :
    (s.move m).view = s.view := by
  rw [view_move, foldl_obey_orders, h]
  rfl

/-- Only the owner makes requests: processing and settling do not. -/
theorem isRequest_of_mem_allMoves {actions : List (Action α κ)}
    (h : ∀ m, .move m ∈ actions → m.isRequest = false) :
    ∀ m ∈ s.allMoves actions, m.isRequest = false := by
  induction actions generalizing s with
  | nil => exact nofun
  | cons a actions ih =>
    intro m hm
    rcases List.mem_append.1 hm with hm | hm
    · rcases mem_movesOf hm with rfl | rfl | ⟨n, rfl | rfl⟩
      · exact h m List.mem_cons_self
      · rfl
      · rfl
      · rfl
    · exact ih (fun m hm => h m (List.mem_cons_of_mem a hm)) m hm

end Moves

/-! ## Errands -/

/-- Where a session is with the only request of a feed that is out: its result has yet to be
applied, or it has been.  The board stays as it was unless a page has come. -/
inductive Errand (f : Feed α κ) (kind : RequestKind) (callback : Option κ)
    (view : Board × List Happening) (s : Session α κ) (log : List (Deed α κ)) : Prop
  | out (feed : s.feed = f.sent kind callback) (delivered : log.filterMap Deed.delivered = [])
    (view : s.view = view)
  | back (result : Result α) (feed : s.feed = f.exchange kind callback result)
    (delivered : log.filterMap Deed.delivered = [(f.nextRequest, result)])
    (view : result.isOk = false → s.view = view)

section Errand

variable {f : Feed α κ} {kind : RequestKind} {callback : Option κ} {view : Board × List Happening}
  {s : Session α κ} {log : List (Deed α κ)}

/-- Short of another request, nothing gets in the way of an errand. -/
theorem Errand.step (h : Errand f kind callback view s log) (hpending : f.pending = [])
    (hnodup : (s.running.map (·.fetch.id)).Nodup) {m : Move α κ} (hm : m.isRequest = false) :
    Errand f kind callback view (s.move m) (log ++ (s.deed m).toList) := by
  have hdelivered := filterMap_append_toList Deed.delivered log (s.deed m)
  rcases Traffic.feed_step_cases (step_move hnodup m) (deed_ne_issued hm) with
    ⟨hfeed, hnone⟩ | ⟨p, hp, result, hd, hfeed⟩
  · have hview : (s.move m).view = s.view := by
      refine view_move_of_not_fills ?_
      cases hd : s.deed m with
      | none => rfl
      | some d =>
        rw [hd] at hnone
        cases d with
        | applied => cases hnone
        | _ => rfl
    rw [hnone, Option.toList_none, List.append_nil] at hdelivered
    cases h with
    | out feed delivered view =>
      exact .out (hfeed.trans feed) (hdelivered.trans delivered) (hview.trans view)
    | back result feed delivered view =>
      exact .back result (hfeed.trans feed) (hdelivered.trans delivered)
        fun herror => hview.trans (view herror)
  · have hp : p ∈ s.feed.pending := hp
    have hfeed : (s.move m).feed = (s.feed.complete p.id result).1 := hfeed
    cases h with
    | out feed delivered view =>
      rw [feed, Feed.sent, hpending, List.nil_append, List.mem_singleton] at hp
      subst hp
      refine .back result (by rw [hfeed, feed]; rfl) ?_ fun herror => ?_
      · rw [hdelivered, delivered, hd]
        rfl
      · refine (view_move_of_not_fills ?_).trans view
        rw [hd]
        cases result with
        | ok page => cases herror
        | error why => rfl
    | back result' feed delivered view =>
      -- no request is pending any more to which the result could belong
      rw [feed, (Feed.idle_exchange hpending kind callback result').pending] at hp
      cases hp

omit [Identified α] in
/-- An errand that brings back a failure has brought it. -/
theorem Errand.eq_of_mem (h : Errand f kind callback view s log) {c : Option κ} {why : Failure}
    (hmem : .applied f.nextRequest c (.error why) ∈ log) :
    s.feed = f.exchange kind callback (.error why) ∧ s.view = view := by
  have hdelivered : (f.nextRequest, .error why) ∈ log.filterMap Deed.delivered :=
    List.mem_filterMap.2 ⟨_, hmem, rfl⟩
  cases h with
  | out feed delivered view =>
    rw [delivered] at hdelivered
    cases hdelivered
  | back result feed delivered view =>
    rw [delivered, List.mem_singleton] at hdelivered
    cases hdelivered
    exact ⟨feed, view rfl⟩

end Errand

/-! ## Refusals and failures -/

/-- A session that refuses a request stays as it is, and only tells the callback. -/
theorem move_request_of_refused {s : Session α κ} {kind : RequestKind} {callback c : Option κ}
    {why : Failure} (h : s.deed (.request kind callback) = some (.refused why c)) :
    (why = if kind ≠ .refresh ∧ s.feed.hasRoom = false then .noRoom else .inFlight) ∧
      s.move (.request kind callback) =
        { s with trace := s.trace ++ (callback.map (.answered · (.error why))).toList } := by
  have hresponse : (s.feed.request kind callback).2 = .refused why c := by
    have h : Deed.ofResponse (α := α) callback (s.feed.request kind callback).2 =
        .refused why c := Option.some.inj h
    generalize (s.feed.request kind callback).2 = response at h
    cases response <;> cases h
    rfl
  obtain ⟨hrequest, hwhy⟩ := Feed.request_of_refused hresponse
  refine ⟨hwhy, ?_⟩
  show s.follow (s.feed.request kind callback) = _
  rw [hrequest]
  show s.tell callback (.error why) = _
  cases callback with
  | none => simp [tell]
  | some callback => rfl

/-- In every session that can come about, a request that is refused leaves everything as it was: the
feed, the calls, the results that wait, the source and the board; a full list is the first reason to
refuse it, and only its callback is told.  If a request for newer or older items goes out while
nothing is pending, and its failure is applied before the owner asks for anything else, the session
is left as it was but for the number of the next request, so that the same request asks for the same
items again. -/
theorem unchanged_after_refusal_or_failure {s : Session α κ} (h : s.Reachable) (kind : RequestKind)
    (callback : Option κ) :
    (∀ why, s.deed (.request kind callback) = some (.refused why callback) →
      (why = if kind ≠ .refresh ∧ s.feed.hasRoom = false then .noRoom else .inFlight) ∧
      s.move (.request kind callback) =
        { s with trace := s.trace ++ (callback.map (.answered · (.error why))).toList }) ∧
    ∀ fetch, kind ≠ .refresh → s.feed.pending = [] →
      s.deed (.request kind callback) = some (.issued fetch callback) →
      ∀ actions, (∀ m, .move m ∈ actions → m.isRequest = false) →
        let sent := s.move (.request kind callback)
        ∀ why, .applied fetch.id callback (.error why) ∈ sent.log actions →
          let t := sent.run actions
          t.feed = { s.feed with nextRequest := s.feed.nextRequest + 1 } ∧
            t.running = s.running ∧ t.waiting = s.waiting ∧ t.view = s.view ∧
            ∀ again, t.deed (.request kind again) =
              some (.issued { fetch with id := fetch.id + 1 } again) := by
  refine ⟨fun why hdeed => move_request_of_refused hdeed, ?_⟩
  intro fetch hk hpending hdeed actions hquiet sent why happlied t
  obtain ⟨log, hbooks⟩ := h.exists_books
  have hresponds := s.feed.responds_request kind callback
  have hfetch : Deed.ofResponse (α := α) callback (s.feed.request kind callback).2 =
      .issued fetch callback := Option.some.inj hdeed
  have hfeed : sent.feed = (s.feed.request kind callback).1 := feed_follow s _
  have hview : sent.view = s.view := view_follow s _
  generalize s.feed.request kind callback = response at hresponds hfetch hfeed
  cases hresponds with
  | noRoom => cases hfetch
  | busy => cases hfetch
  | issued free room =>
    cases hfetch
    have free : s.feed.paging.inFlight = false := Bool.eq_false_iff.2 fun out => hk (free out).1
    obtain ⟨herrand, log', hbooks'⟩ : Errand s.feed kind callback s.view t (sent.log actions) ∧
        ∃ log, t.traffic.Books log := by
      refine each_log_induction (C := fun _ m => m.isRequest = false)
        (P := fun u log => Errand s.feed kind callback s.view u log ∧ ∃ log, u.traffic.Books log)
        ?_ ⟨.out hfeed rfl hview, _, hbooks.step (step_move hbooks.nodup_running _)⟩
        (each_of_forall_mem (fun m hm _ => isRequest_of_mem_allMoves hquiet m hm) _)
      rintro u log m hm ⟨herrand, log', hbooks'⟩
      exact ⟨herrand.step hpending hbooks'.nodup_running hm, _,
        hbooks'.step (step_move hbooks'.nodup_running m)⟩
    obtain ⟨hfeed, hview⟩ := herrand.eq_of_mem happlied
    rw [Feed.exchange_error_of_free hpending hk free] at hfeed
    obtain ⟨hrunning, hwaiting⟩ := hbooks.of_pending_eq_nil hpending
    obtain ⟨hrunning', hwaiting'⟩ := hbooks'.of_pending_eq_nil
      (show t.feed.pending = [] by rw [hfeed]; exact hpending)
    refine ⟨hfeed, hrunning'.trans hrunning.symm, hwaiting'.trans hwaiting.symm, hview,
      fun again => ?_⟩
    rw [deed_request_of_free again (by rw [hfeed]; exact free)
      (fun hk => by rw [hfeed]; exact room hk), hfeed]
    rfl

/-- While a request for older items is out, one for newer items is refused; and when the source has
failed, the same older items are asked for again. -/
theorem unchanged_while_down :
    let s : Session Post Nat := create .standard [⟨7, none, none, none, none⟩]
      (.ofCursors (some ⟨some 7, some 7⟩) (some ⟨some 7, some 7⟩))
      (.scripted [some (.failure "down")] false)
    let busy := s.act (.move (.request .older (some 1)))
    let t := (s.move (.request .older (some 1))).run [.settle]
    busy.move (.request .newer (some 2)) =
        { busy with trace := busy.trace ++ [.answered 2 (.error .inFlight)] } ∧
      t.feed = { s.feed with nextRequest := 1 } ∧ t.view = s.view ∧
      t.deed (.request .older (some 3)) = some (.issued ⟨1, .older, some 7⟩ (some 3)) := by
  intro s busy t
  have hs : s.Reachable := .create _ _ _ _
  have hrefused := (unchanged_after_refusal_or_failure (hs.act (.move (.request .older (some 1))))
    .newer (some 2)).1 .inFlight rfl
  have hlog : (s.move (.request .older (some 1))).log [.settle] =
      [.answered ⟨0, .older, some 7⟩ (.error (.source "down")),
        .applied 0 (some 1) (.error (.source "down"))] := rfl
  have hfailed := (unchanged_after_refusal_or_failure hs .older (some 1)).2 ⟨0, .older, some 7⟩
    (by decide) rfl rfl [.settle] (by simp) (.source "down") (by simp [hlog])
  exact ⟨hrefused.2, hfailed.1, hfailed.2.2.2.1, hfailed.2.2.2.2 (some 3)⟩

end Session

end Newsfeed
