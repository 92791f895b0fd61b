import Mathlib.Data.List.Nodup
import Newsfeed.Proofs.Session.Accounting
import Newsfeed.Proofs.Session.SingleFlight

/-!
# Refreshes that overtake

A request for newer or older items is refused while the flag says that a request is out.  But all
requests share the flag, and every result clears it.  So when an ungated refresh goes out beside
a request for one end of the list and its result is applied first, that request is still pending
and nothing is out, and the next one is issued beside it.  `Session.Overtakes` says when this
happens.  In every other run at most one request for an end is pending, and until its result has
been applied all others are refused.
-/

namespace Newsfeed

variable {α κ : Type}

namespace Feed

/-- The pending requests for newer or older items. -/
def extensions (f : Feed α κ) : List (Pending κ) := f.pending.filter (·.kind ≠ .refresh)

/-- The request is a refresh, and one for newer or older items is pending beside it. -/
def Overtakes (f : Feed α κ) (id : Nat) : Prop :=
  (∃ p, f.pending.find? (·.id = id) = some p ∧ p.kind = .refresh) ∧ f.extensions ≠ []

/-- At most one request for newer or older items is pending, and only while the flag is set. -/
structure Exclusive (f : Feed α κ) : Prop where
  length_extensions_le : f.extensions.length ≤ 1
  inFlight_of_extension : f.extensions ≠ [] → f.paging.inFlight = true

theorem exclusive_create (settings : Settings) (items : List α) (paging : Paging) :
    (create settings items paging : Feed α κ).Exclusive :=
  ⟨Nat.zero_le 1, fun h => absurd rfl h⟩

theorem extensions_sent (f : Feed α κ) (kind : RequestKind) (callback : Option κ) :
    (f.sent kind callback).extensions =
      f.extensions ++ if kind = .refresh then [] else [⟨f.nextRequest, kind, callback⟩] := by
  rw [extensions, sent, List.filter_append]
  congr 1
  cases kind <;> rfl

theorem extensions_complete (f : Feed α κ) (id : Nat) (result : Result α) :
    (f.complete id result).1.extensions = f.extensions.filter (·.id ≠ id) := by
  rw [extensions, pending_complete, List.filter_filter, extensions, List.filter_filter]
  exact List.filter_congr fun p _ => Bool.and_comm _ _

theorem Exclusive.request {f : Feed α κ} (h : f.Exclusive) (kind : RequestKind)
    (callback : Option κ) : (f.request kind callback).1.Exclusive := by
  have hr := f.responds_request kind callback
  generalize f.request kind callback = response at hr
  cases hr with
  | noRoom => exact h
  | busy => exact h
  | issued free =>
    refine ⟨?_, fun _ => Paging.inFlight_requested _ _⟩
    rw [extensions_sent]
    by_cases hk : kind = .refresh
    · rw [if_pos hk, List.append_nil]
      exact h.length_extensions_le
    · -- the flag was clear, so this is the only one
      have hnil : f.extensions = [] :=
        Classical.byContradiction fun hne => hk (free (h.inFlight_of_extension hne)).1
      rw [if_neg hk, hnil]
      exact Nat.le_refl 1

/-- A result that does not overtake leaves no request for newer or older items pending. -/
theorem Exclusive.complete {f : Feed α κ} (h : f.Exclusive) {id : Nat} (hid : ¬ f.Overtakes id)
    (result : Result α) : (f.complete id result).1.Exclusive := by
  cases hfind : f.pending.find? (·.id = id) with
  | none =>
    rw [complete_of_find?_eq_none hfind]
    exact h
  | some p =>
    have hnil : (f.complete id result).1.extensions = [] := by
      rw [extensions_complete]
      by_cases hk : p.kind = .refresh
      · have hnone : f.extensions = [] :=
          Classical.byContradiction fun hne => hid ⟨⟨p, hfind, hk⟩, hne⟩
        rw [hnone]
        rfl
      · have hp : p ∈ f.extensions :=
          List.mem_filter.2 ⟨List.mem_of_find?_eq_some hfind, by simpa using hk⟩
        obtain ⟨q, hq⟩ := List.length_eq_one_iff.1
          (Nat.le_antisymm h.length_extensions_le (List.length_pos_of_mem hp))
        obtain rfl : p = q := List.mem_singleton.1 (hq ▸ hp)
        rw [hq]
        simpa using List.find?_some hfind
    refine ⟨?_, fun hne => absurd hnil hne⟩
    rw [hnil]
    exact Nat.zero_le 1

/-- Under the gated policy nothing is pending beside a request. -/
theorem Flight.exclusive {f : Feed α κ} (h : f.Flight) (gated : f.settings.refresh = .gated) :
    f.Exclusive := by
  refine ⟨Nat.le_trans (List.length_filter_le _ _) (h.length_pending_le gated), fun hne => ?_⟩
  refine h.inFlight_of_pending gated fun hnil => hne ?_
  rw [extensions, hnil]
  rfl

/-- The requests beside a refresh outlast it. -/
theorem extensions_complete_of_overtakes {f : Feed α κ} (hnodup : (f.pending.map Pending.id).Nodup)
    {id : Nat} (h : f.Overtakes id) (result : Result α) :
    (f.complete id result).1.extensions = f.extensions := by
  obtain ⟨⟨p, hfind, hk⟩, -⟩ := h
  rw [extensions_complete]
  refine List.filter_eq_self.2 fun q hq => ?_
  obtain ⟨hq, hqk⟩ := List.mem_filter.1 hq
  have hid : p.id = id := by simpa using List.find?_some hfind
  have hne : q.id ≠ id := by
    intro he
    obtain rfl := List.inj_on_of_nodup_map hnodup hq (List.mem_of_find?_eq_some hfind)
      (he.trans hid.symm)
    simp [hk] at hqk
  simpa using hne

end Feed

namespace Session

variable [Identified α]

omit [Identified α] in
/-- The owner applies the result of a refresh while a request for newer or older items is
pending. -/
def Overtakes (s : Session α κ) : Move α κ → Prop
  | .applyNext => ∃ r ∈ s.waiting.head?, s.feed.Overtakes r.1
  | _ => False

theorem exclusive_move {s : Session α κ} {m : Move α κ} (hm : ¬ s.Overtakes m)
    (h : s.feed.Exclusive) : (s.move m).feed.Exclusive := by
  rcases feed_move_cases s m with he | ⟨kind, callback, he⟩ | ⟨r, hr, rfl, he⟩
  · rwa [he]
  · rw [he]
    exact h.request kind callback
  · rw [he]
    exact h.complete (fun ho => hm ⟨r, hr, ho⟩) r.2

/-- Unless a refresh overtakes, at most one request for newer or older items is pending, and all
others are refused until its result has been applied.  Once a refresh has overtaken, the next one
for which there is room is issued beside it. -/
theorem one_extension_pending (settings : Settings) (items : List α) {paging : Paging}
    (idle : paging.inFlight = false) (source : Source α) (actions : List (Action α κ)) :
    let s : Session α κ := create settings items paging source
    let t := s.run actions
    (settings.refresh = .gated ∨ s.Each (fun u m => ¬ u.Overtakes m) (s.allMoves actions) →
      t.feed.extensions.length ≤ 1 ∧
        (t.feed.extensions ≠ [] →
          (∀ kind, kind ≠ .refresh → ∀ callback, t.feed.request kind callback =
            (t.feed, .refused (if t.feed.hasRoom then .inFlight else .noRoom) callback)) ∧
          ∀ position, t.feed.requestMore position = (t.feed, none))) ∧
    (t.Overtakes .applyNext →
      let u := t.move .applyNext
      u.feed.hasRoom = true → ∀ kind, kind ≠ .refresh → ∀ callback,
        u.deed (.request kind callback) = some (.issued (u.feed.nextFetch kind) callback) ∧
          2 ≤ (u.move (.request kind callback)).feed.extensions.length) := by
  intro s t
  refine ⟨fun h => ?_, ?_⟩
  · have hexclusive : t.feed.Exclusive := by
      rcases h with gated | hall
      · have hflight : t.feed.Flight :=
          feed_run_induction (P := Feed.Flight) (fun f kind callback h => h.request kind callback)
            (fun f id result h => h.complete id result) (s := s)
            (Feed.flight_create settings items idle) actions
        refine hflight.exclusive ?_
        rw [show t.feed.settings = settings from settings_run s actions, gated]
      · exact each_induction (I := fun u => u.feed.Exclusive) (fun u m => exclusive_move)
          (Feed.exclusive_create settings items paging) hall
    refine ⟨hexclusive.length_extensions_le, fun hne => ?_⟩
    have out := hexclusive.inFlight_of_extension hne
    exact ⟨fun kind hk callback => Feed.request_of_inFlight hk out callback,
      fun position => Feed.requestMore_of_inFlight out position⟩
  · rintro ⟨r, hr, hovertakes⟩ u room kind hk callback
    have hnodup : (t.feed.pending.map Pending.id).Nodup :=
      (books_run (books_create settings items paging source) actions).nodup_pending
    obtain ⟨⟨p, hfind, -⟩, hne⟩ := id hovertakes
    have hfeed : u.feed = (t.feed.complete r.1 r.2).1 := feed_move_applyNext hr
    have free : u.feed.paging.inFlight = false := by
      rw [hfeed]
      exact Feed.inFlight_complete hfind r.2
    refine ⟨?_, ?_⟩
    · show some (Deed.ofResponse callback (u.feed.request kind callback).2) = _
      rw [Feed.request_of_free callback free fun _ => room]
      rfl
    · rw [feed_request_of_free callback free fun _ => room, Feed.extensions_sent, if_neg hk,
        List.length_append, hfeed, Feed.extensions_complete_of_overtakes hnodup hovertakes]
      exact Nat.succ_le_succ (List.length_pos_iff.2 hne)

/-- A refresh overtakes a request for newer items, and another one goes out. -/
theorem one_extension_overtaken :
    Paging.initial.inFlight = false ∧
      let s : Session Post Nat :=
        create { Settings.standard with refresh := .ungated } [] .initial (.scripted [] true)
      let t := s.run [.move (.request .newer (some 0)), .move (.request .refresh (some 1)),
        .move (.reach 1), .move (.release 1)]
      t.feed.extensions.length ≤ 1 ∧
        2 ≤ ((t.move .applyNext).move (.request .newer (some 2))).feed.extensions.length := by
  refine ⟨rfl, ?_⟩
  intro s t
  have h := one_extension_pending { Settings.standard with refresh := .ungated } ([] : List Post)
    (rfl : Paging.initial.inFlight = false) (.scripted [] true)
    ([.move (.request .newer (some 0)), .move (.request .refresh (some 1)),
      .move (.reach 1), .move (.release 1)] : List (Action Post Nat))
  refine ⟨(h.1 (Or.inr ⟨id, id, id, id, trivial⟩)).1, ?_⟩
  have hovertakes : t.Overtakes .applyNext :=
    ⟨(1, .ok (.ofItems [])), rfl, ⟨⟨1, .refresh, some 1⟩, rfl, rfl⟩, by decide⟩
  exact (h.2 hovertakes (by decide) .newer (by decide) (some 2)).2

end Session

end Newsfeed
