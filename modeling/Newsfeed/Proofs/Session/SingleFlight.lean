import Newsfeed.Proofs.Session.History

/-!
# One request at a time

A feed has one flag that says whether a request is out, and the list of the requests that are
pending. `Feed.Flight` ties them together: the flag is never set without a pending request, and
under the gated policy it is set exactly when one is pending, of which there is then at most one.
-/

namespace Newsfeed

variable {α κ : Type}

namespace Feed

/-- The flag of a feed agrees with its pending requests. -/
structure Flight (f : Feed α κ) : Prop where
  pending_of_inFlight : f.paging.inFlight = true → f.pending ≠ []
  inFlight_of_pending : f.settings.refresh = .gated → f.pending ≠ [] → f.paging.inFlight = true
  length_pending_le : f.settings.refresh = .gated → f.pending.length ≤ 1

theorem flight_create (settings : Settings) (items : List α) {paging : Paging}
    (idle : paging.inFlight = false) : (create settings items paging : Feed α κ).Flight where
  pending_of_inFlight h := by simp [create, idle] at h
  inFlight_of_pending _ h := absurd rfl h
  length_pending_le _ := Nat.zero_le 1

/-- Under the gated policy a request is issued only if nothing is pending. -/
theorem Flight.pending_eq_nil {f : Feed α κ} (hf : f.Flight) (gated : f.settings.refresh = .gated)
    {kind : RequestKind} {callback : Option κ} {g : Feed α κ} {fetch : Fetch}
    (h : f.Responds kind callback (g, .issued fetch)) : f.pending = [] := by
  cases h with
  | issued free room =>
    refine Classical.byContradiction fun hne => ?_
    have hungated := (free (hf.inFlight_of_pending gated hne)).2
    rw [gated] at hungated
    cases hungated

theorem Flight.of_responds {f : Feed α κ} (hf : f.Flight) {kind : RequestKind}
    {callback : Option κ} {response : Feed α κ × Response κ}
    (h : f.Responds kind callback response) : response.1.Flight := by
  cases h with
  | noRoom => exact hf
  | busy => exact hf
  | issued free room =>
    refine ⟨fun _ => by simp [sent], fun _ _ => by simp [sent], fun gated => ?_⟩
    have hnil := hf.pending_eq_nil gated (.issued free room : f.Responds kind callback _)
    simp [sent, hnil]

theorem Flight.request {f : Feed α κ} (hf : f.Flight) (kind : RequestKind)
    (callback : Option κ) : (f.request kind callback).1.Flight :=
  hf.of_responds (f.responds_request kind callback)

/-- Under the gated policy nothing is pending once the result of a request has been applied. -/
theorem Flight.pending_complete_eq_nil {f : Feed α κ} (hf : f.Flight)
    (gated : f.settings.refresh = .gated) {id : Nat} {request : Pending κ}
    (h : f.pending.find? (·.id = id) = some request) (result : Result α) :
    (f.complete id result).1.pending = [] := by
  have hmem : request ∈ f.pending := List.mem_of_find?_eq_some h
  obtain ⟨r, hr⟩ := List.length_eq_one_iff.1
    (Nat.le_antisymm (hf.length_pending_le gated) (List.length_pos_of_mem hmem))
  obtain rfl : request = r := List.mem_singleton.1 (hr ▸ hmem)
  rw [pending_complete, hr]
  simpa using List.find?_some h

theorem Flight.complete {f : Feed α κ} (hf : f.Flight) (id : Nat) (result : Result α) :
    (f.complete id result).1.Flight := by
  cases h : f.pending.find? (·.id = id) with
  | none =>
    rw [complete_of_find?_eq_none h]
    exact hf
  | some request =>
    have hflag := inFlight_complete h result
    have hnil (gated : (f.complete id result).1.settings.refresh = .gated) :
        (f.complete id result).1.pending = [] :=
      hf.pending_complete_eq_nil (settings_complete f id result ▸ gated) h result
    refine ⟨fun out => by simp [hflag] at out, fun gated hne => absurd (hnil gated) hne,
      fun gated => ?_⟩
    rw [hnil gated]
    exact Nat.zero_le 1

end Feed

namespace Session

variable [Identified α]

/-- A request is issued only as a feed responds. -/
theorem responds_of_deed_eq_issued {s : Session α κ} {m : Move α κ} {fetch : Fetch}
    {callback : Option κ} (h : s.deed m = some (.issued fetch callback)) :
    ∃ kind g, s.feed.Responds kind callback (g, .issued fetch) := by
  have request {kind : RequestKind} {c : Option κ}
      (h : s.deed (.request kind c) = some (.issued fetch callback)) :
      ∃ kind g, s.feed.Responds kind callback (g, .issued fetch) := by
    have hr := s.feed.responds_request kind c
    have h : Deed.ofResponse (α := α) c (s.feed.request kind c).2 = .issued fetch callback :=
      Option.some.inj h
    generalize s.feed.request kind c = response at h hr
    obtain ⟨g, why | fetch'⟩ := response
    · cases h
    · cases h
      exact ⟨kind, g, hr⟩
  have answer {n : Nat} {result : Fetch → Result α}
      (h : s.deedOfAnswer n result = some (.issued fetch callback)) : False := by
    unfold deedOfAnswer at h
    split at h <;> cases h
  cases m with
  | request kind c => exact request h
  | more position =>
    rcases move_more_cases s position with ⟨-, hd⟩ | ⟨-, hd⟩
    · exact request (hd ▸ h)
    · rw [hd] at h
      cases h
  | reach n => exact (answer h).elim
  | answer n result => exact (answer h).elim
  | release n => cases h
  | applyNext =>
    obtain ⟨r, -, hr⟩ := Option.map_eq_some_iff.1 h
    unfold deedOfResult at hr
    split at hr <;> cases hr
  | push item => cases h

/-- Under the gated policy at most one request is pending, exactly when the flag is set, and a
request is issued only when none is; under either policy the flag is set only while some request
is pending. -/
theorem single_flight (settings : Settings) (items : List α) {paging : Paging}
    (idle : paging.inFlight = false) (source : Source α) (actions : List (Action α κ)) :
    let s := (create settings items paging source).run actions
    (settings.refresh = .gated →
      s.feed.pending.length ≤ 1 ∧ (s.feed.paging.inFlight = true ↔ s.feed.pending ≠ []) ∧
        ∀ m fetch callback, s.deed m = some (.issued fetch callback) → s.feed.pending = []) ∧
      (s.feed.paging.inFlight = true → s.feed.pending ≠ []) := by
  intro s
  have hf : s.feed.Flight :=
    feed_run_induction (P := Feed.Flight) (fun f kind callback h => h.request kind callback)
      (fun f id result h => h.complete id result)
      (s := create settings items paging source) (Feed.flight_create settings items idle) actions
  refine ⟨fun gated => ?_, hf.pending_of_inFlight⟩
  have hs : s.feed.settings.refresh = .gated := by
    rw [show s.feed.settings = settings from settings_run _ actions, gated]
  refine ⟨hf.length_pending_le hs, ⟨hf.pending_of_inFlight, hf.inFlight_of_pending hs⟩, ?_⟩
  intro m fetch callback h
  obtain ⟨kind, g, hr⟩ := responds_of_deed_eq_issued h
  exact hf.pending_eq_nil hs hr

/-- While a refresh is out, a request for older items is not issued. -/
theorem single_flight_refresh_out :
    Paging.initial.inFlight = false ∧
      let s : Session Post Nat := (create .standard [] .initial (.scripted [] true)).run
        [.move (.request .refresh (some 0)), .move (.request .older (some 1))]
      s.feed.pending.length = 1 ∧ s.feed.paging.inFlight = true := by
  refine ⟨rfl, ?_⟩
  intro s
  have h := (single_flight (α := Post) (κ := Nat) .standard []
    (rfl : Paging.initial.inFlight = false) (.scripted [] true)
    [.move (.request .refresh (some 0)), .move (.request .older (some 1))]).1 rfl
  have hne : s.feed.pending ≠ [] := by
    change ([⟨0, .refresh, some 0⟩] : List (Pending Nat)) ≠ []
    exact List.cons_ne_nil _ _
  exact ⟨Nat.le_antisymm h.1 (List.length_pos_iff.2 hne), h.2.1.2 hne⟩

end Session

end Newsfeed
