import Mathlib.Data.List.DropRight
import Newsfeed.Proofs.Feed.Exchange
import Newsfeed.Proofs.Session.Browsing

/-!
# Sessions as series of exchanges

Under the gated policy a request goes out only when nothing else is out.  The list and the cursors
then change as if the result of a request were applied at the moment when its call is answered: what
holds of the feed at that moment holds of the session once the result has arrived and has been
applied.  `Traffic.Stage` follows one request on its way, and `exchange_induction` reduces a claim
about all runs to what is published and to single exchanges with an archive, which may fail.
-/

namespace Newsfeed

variable {α κ : Type}

/-- The answer of the source that a deed is about. -/
def Deed.answer? : Deed α κ → Option (Fetch × Result α)
  | .answered fetch result => some (fetch, result)
  | _ => none

/-- The answers since the last one to a refresh. -/
def leg (answers : List (Fetch × Result α)) : List (Fetch × Result α) :=
  answers.rtakeWhile fun x => x.1.kind ≠ .refresh

theorem leg_concat (answers : List (Fetch × Result α)) (x : Fetch × Result α) :
    leg (answers ++ [x]) = if x.1.kind = .refresh then [] else leg answers ++ [x] := by
  rw [leg, List.rtakeWhile_concat]
  by_cases h : x.1.kind = .refresh <;> simp [h, leg]

namespace Traffic

/-- Where the traffic is, seen from the feed before a request: either nothing is out, or one request
is, and then its call runs or its result waits.  As soon as the call is answered, `Q` speaks of the
feed that has the result. -/
inductive Stage (Q : Feed α κ → Prop) : Traffic α κ → Prop
  | quiet {f : Feed α κ} {told : List (κ × Result α)} (idle : f.Idle) (holds : Q f) :
    Stage Q ⟨f, [], [], told⟩
  | asked {f : Feed α κ} {kind : RequestKind} {callback : Option κ} {told : List (κ × Result α)}
    (idle : f.Idle) (room : kind ≠ .refresh → f.hasRoom = true) (holds : Q f) :
    Stage Q ⟨f.sent kind callback, [⟨f.nextFetch kind, none⟩], [], told⟩
  | answered {f : Feed α κ} {kind : RequestKind} {callback : Option κ} {result : Result α}
    {told : List (κ × Result α)} (idle : f.Idle) (holds : Q (f.exchange kind callback result)) :
    Stage Q ⟨f.sent kind callback, [⟨f.nextFetch kind, some result⟩], [], told⟩
  | arrived {f : Feed α κ} {kind : RequestKind} {callback : Option κ} {result : Result α}
    {told : List (κ × Result α)} (idle : f.Idle) (holds : Q (f.exchange kind callback result)) :
    Stage Q ⟨f.sent kind callback, [], [(f.nextRequest, result)], told⟩

namespace Stage

variable {Q : Feed α κ → Prop} {t u : Traffic α κ}

theorem mono {R : Feed α κ → Prop} (h : t.Stage Q) (hR : ∀ f, Q f → R f) : t.Stage R := by
  cases h with
  | quiet idle holds => exact .quiet idle (hR _ holds)
  | asked idle room holds => exact .asked idle room (hR _ holds)
  | answered idle holds => exact .answered idle (hR _ holds)
  | arrived idle holds => exact .arrived idle (hR _ holds)

theorem nodup_running (h : t.Stage Q) : (t.running.map (·.fetch.id)).Nodup := by
  cases h with
  | quiet => exact List.nodup_nil
  | asked => exact List.nodup_singleton _
  | answered => exact List.nodup_singleton _
  | arrived => exact List.nodup_nil

/-- While no request is out, nothing is on its way. -/
theorem of_free (h : t.Stage Q) (free : t.feed.paging.inFlight = false) :
    t.feed.Idle ∧ Q t.feed ∧ t.running = [] ∧ t.waiting = [] := by
  have hsent {f : Feed α κ} {kind : RequestKind} {callback : Option κ} :
      (f.sent kind callback).paging.inFlight ≠ false := by simp [Feed.sent]
  cases h with
  | quiet idle holds => exact ⟨idle, holds, rfl, rfl⟩
  | asked => exact absurd free hsent
  | answered => exact absurd free hsent
  | arrived => exact absurd free hsent

/-- Under the gated policy a request goes out only when nothing is out. -/
theorem issued (h : t.Stage Q) (gated : t.feed.settings.refresh = .gated) {kind : RequestKind}
    {callback : Option κ} (hr : t.feed.Responds kind callback
      (t.feed.sent kind callback, .issued (t.feed.nextFetch kind))) :
    Stage Q { t with
      feed := t.feed.sent kind callback
      running := t.running ++ [⟨t.feed.nextFetch kind, none⟩] } := by
  obtain ⟨out, room⟩ := hr.allowed
  have free : t.feed.paging.inFlight = false := by
    refine Bool.eq_false_iff.2 fun h => ?_
    rw [(out h).2] at gated
    cases gated
  obtain ⟨idle, holds, hrunning, hwaiting⟩ := h.of_free free
  rw [hrunning, hwaiting]
  exact .asked idle room holds

theorem answer {R : Feed α κ → Prop} (h : t.Stage Q) {as bs : List (Call α)} {fetch : Fetch}
    {result : Result α} (hr : t.running = as ++ ⟨fetch, none⟩ :: bs)
    (hR : ∀ f kind callback, f.Idle → (kind ≠ .refresh → f.hasRoom = true) →
      fetch = f.nextFetch kind → Q f → R (f.exchange kind callback result)) :
    Stage R { t with running := as ++ ⟨fetch, some result⟩ :: bs } := by
  cases h with
  | quiet => simp at hr
  | arrived => simp at hr
  | answered =>
    obtain ⟨-, hcall⟩ | ⟨-, hcall⟩ := List.singleton_eq_append_iff.1 hr <;> cases hcall
  | asked idle room holds =>
    obtain ⟨rfl, hcall⟩ | ⟨-, hcall⟩ := List.singleton_eq_append_iff.1 hr
    · cases hcall
      exact .answered idle (hR _ _ _ idle room rfl holds)
    · cases hcall

theorem released (h : t.Stage Q) {as bs : List (Call α)} {fetch : Fetch} {result : Result α}
    (hr : t.running = as ++ ⟨fetch, some result⟩ :: bs) :
    Stage Q { t with running := as ++ bs, waiting := t.waiting ++ [(fetch.id, result)] } := by
  cases h with
  | quiet => simp at hr
  | arrived => simp at hr
  | asked =>
    obtain ⟨-, hcall⟩ | ⟨-, hcall⟩ := List.singleton_eq_append_iff.1 hr <;> cases hcall
  | answered idle holds =>
    obtain ⟨rfl, hcall⟩ | ⟨-, hcall⟩ := List.singleton_eq_append_iff.1 hr
    · cases hcall
      exact .arrived idle holds
    · cases hcall

theorem applied (h : t.Stage Q) {request : Nat} {result : Result α}
    {waiting : List (Nat × Result α)} (hw : t.waiting = (request, result) :: waiting)
    (told : List (κ × Result α)) :
    Stage Q ⟨(t.feed.complete request result).1, t.running, waiting, told⟩ := by
  cases h with
  | quiet => cases hw
  | asked => cases hw
  | answered => cases hw
  | arrived idle holds =>
    cases hw
    exact .quiet (Feed.idle_exchange idle.pending _ _ _) holds

end Stage

/-- A step is one of an exchange, or nothing is answered by it. -/
theorem Stage.step {Q : List (Fetch × Result α) → Feed α κ → Prop}
    {answers : List (Fetch × Result α)} {t u : Traffic α κ} {d : Option (Deed α κ)}
    (h : t.Stage (Q answers)) (gated : t.feed.settings.refresh = .gated) (hs : t.Step d u)
    (hd : ∀ f kind callback result, d = some (.answered (f.nextFetch kind) result) → f.Idle →
      (kind ≠ .refresh → f.hasRoom = true) → Q answers f →
      Q (answers ++ [(f.nextFetch kind, result)]) (f.exchange kind callback result)) :
    u.Stage (Q (answers ++ (d.bind Deed.answer?).toList)) := by
  have hsame : answers ++ [] = answers := List.append_nil answers
  cases hs with
  | still =>
    show t.Stage (Q (answers ++ []))
    rwa [hsame]
  | refused =>
    show Stage (Q (answers ++ [])) _
    rw [hsame]
    obtain ⟨f, running, waiting, told⟩ := t
    cases h with
    | quiet idle holds => exact .quiet idle holds
    | asked idle room holds => exact .asked idle room holds
    | answered idle holds => exact .answered idle holds
    | arrived idle holds => exact .arrived idle holds
  | issued hr =>
    show Stage (Q (answers ++ [])) _
    rw [hsame]
    exact h.issued gated hr
  | @answered as bs fetch result hr =>
    refine h.answer hr fun f kind callback idle room hfetch holds => ?_
    subst hfetch
    exact hd f kind callback result rfl idle room holds
  | released hr =>
    show Stage (Q (answers ++ [])) _
    rw [hsame]
    exact h.released hr
  | applied hw =>
    show Stage (Q (answers ++ [])) _
    rw [hsame]
    exact h.applied hw _
  | stray hw hp =>
    show Stage (Q (answers ++ [])) _
    rw [hsame]
    have := h.applied hw t.told
    rwa [Feed.complete_of_find?_eq_none hp] at this

end Traffic

/-! ## Runs -/

namespace Session

variable [Identified α]

/-- The answers that the source gave in a run, with what it was asked for. -/
def answers (s : Session α κ) (actions : List (Action α κ)) : List (Fetch × Result α) :=
  (s.log actions).filterMap Deed.answer?

/-- The move is one of a session whose source fails in some ways and otherwise answers from its
archive, and what it publishes is newer than everything before. -/
def Grants (faults : Failure → Prop) (s : Session α κ) : Move α κ → Prop
  | .answer _ (.ok _) => False
  | .answer _ (.error why) => faults why
  | m => s.Allows m

theorem Allows.grants {s : Session α κ} {m : Move α κ} (h : s.Allows m)
    (faults : Failure → Prop) : s.Grants faults m := by
  cases m with
  | answer => exact h.elim
  | _ => exact h

theorem Grants.newest {faults : Failure → Prop} {s : Session α κ} {item : α}
    (h : s.Grants faults (.push item)) {a : Archive α} (ha : s.source.archive = some a) :
    ∀ other ∈ a.items, Identified.id other < Identified.id item := h a ha

/-- An orderly run is one whose moves are all allowed. -/
theorem orderly_iff_each {s : Session α κ} {actions : List (Action α κ)} :
    s.Orderly actions ↔ s.Each Allows (s.allMoves actions) := by
  -- `process` and `settle` consist of moves that are allowed at any time
  have hfree {s : Session α κ} {a : Action α κ} (ha : ∀ m, a ≠ .move m) :
      s.Each Allows (s.movesOf a) := by
    refine each_of_forall_mem (fun m hm t => ?_) s
    rcases mem_movesOf hm with h | rfl | ⟨n, rfl | rfl⟩
    · exact absurd h (ha m)
    · trivial
    · trivial
    · trivial
  induction actions generalizing s with
  | nil => exact Iff.rfl
  | cons a actions ih =>
    rw [allMoves, each_append, ← act_eq_foldl]
    refine and_congr ?_ ih
    cases a with
    | move m => exact ⟨fun h => ⟨h m rfl, trivial⟩, fun h _ hm => Action.move.inj hm ▸ h.1⟩
    | process => exact ⟨fun _ => hfree (by simp), fun _ m hm => by cases hm⟩
    | settle => exact ⟨fun _ => hfree (by simp), fun _ m hm => by cases hm⟩

/-! Whether a run is orderly can be checked by running it. -/

instance decidableAllows (s : Session α κ) : (m : Move α κ) → Decidable (s.Allows m)
  | .answer _ _ => inferInstanceAs (Decidable False)
  | .push item => inferInstanceAs (Decidable (∀ a ∈ s.source.archive, ∀ other ∈ a.items,
      Identified.id other < Identified.id item))
  | .request _ _ | .more _ | .reach _ | .release _ | .applyNext => inferInstanceAs (Decidable True)

instance decidableGrants (faults : Failure → Prop) [DecidablePred faults] (s : Session α κ) :
    (m : Move α κ) → Decidable (s.Grants faults m)
  | .answer _ (.ok _) => inferInstanceAs (Decidable False)
  | .answer _ (.error why) => inferInstanceAs (Decidable (faults why))
  | .push item => inferInstanceAs (Decidable (s.Allows (.push item)))
  | .request _ _ | .more _ | .reach _ | .release _ | .applyNext => inferInstanceAs (Decidable True)

instance decidableEach (P : Session α κ → Move α κ → Prop) [∀ s m, Decidable (P s m)] :
    (s : Session α κ) → (moves : List (Move α κ)) → Decidable (s.Each P moves)
  | _, [] => inferInstanceAs (Decidable True)
  | s, m :: moves =>
    have := decidableEach P (s.move m) moves
    inferInstanceAs (Decidable (P s m ∧ (s.move m).Each P moves))

instance decidableOrderly (s : Session α κ) (actions : List (Action α κ)) :
    Decidable (s.Orderly actions) := decidable_of_iff _ orderly_iff_each.symm

/-- The session makes its exchanges with an archive, and `Q` holds of what came of them. -/
structure Exchanges (Q : List (Fetch × Result α) → Feed α κ → Prop) (s : Session α κ)
    (log : List (Deed α κ)) (a : Archive α) : Prop where
  archive : s.source.archive = some a
  script : s.source.script = []
  gated : s.feed.settings.refresh = .gated
  stage : s.traffic.Stage (Q (log.filterMap Deed.answer?))

theorem Exchanges.source_answer {Q : List (Fetch × Result α) → Feed α κ → Prop} {s : Session α κ}
    {log : List (Deed α κ)} {a : Archive α} (h : s.Exchanges Q log a) (fetch : Fetch) :
    s.source.answer fetch = .ok (Source.pageOf a fetch.kind fetch.position) := by
  rw [Source.answer, h.script, h.archive]
  rfl

omit [Identified α] in
/-- While no request is out, nothing is on its way. -/
theorem Exchanges.at_rest {Q : List (Fetch × Result α) → Feed α κ → Prop} {s : Session α κ}
    {log : List (Deed α κ)} {a : Archive α} (h : s.Exchanges Q log a)
    (free : s.feed.paging.inFlight = false) :
    s.feed.Idle ∧ Q (log.filterMap Deed.answer?) s.feed ∧ s.running = [] ∧ s.waiting = [] :=
  h.stage.of_free free

/-- A request that is made then and settled is an exchange with the archive. -/
theorem Exchanges.feed_settle {Q : List (Fetch × Result α) → Feed α κ → Prop} {s : Session α κ}
    {log : List (Deed α κ)} {a : Archive α} (h : s.Exchanges Q log a)
    (free : s.feed.paging.inFlight = false) {kind : RequestKind}
    (room : kind ≠ .refresh → s.feed.hasRoom = true) (callback : Option κ) :
    (s.move (.request kind callback)).settle.feed =
      s.feed.exchange kind callback (.ok (s.feed.pageFrom a kind)) := by
  obtain ⟨-, -, hrunning, hwaiting⟩ := h.at_rest free
  rw [feed_request_settle hrunning hwaiting free room callback, h.source_answer]
  rfl

/-- An answer comes from the archive or is a fault that is granted. -/
theorem Exchanges.answer_of_deed {Q : List (Fetch × Result α) → Feed α κ → Prop}
    {s : Session α κ} {log : List (Deed α κ)} {a : Archive α} (h : s.Exchanges Q log a)
    {faults : Failure → Prop} {m : Move α κ} (hm : s.Grants faults m) {fetch : Fetch}
    {result : Result α} (hd : s.deed m = some (.answered fetch result)) :
    result = .ok (Source.pageOf a fetch.kind fetch.position) ∨
      ∃ why, faults why ∧ result = .error why := by
  by_cases hown : ∃ n r, m = .answer n r
  · obtain ⟨n, r, rfl⟩ := hown
    have hd : s.deedOfAnswer n (fun _ => r) = some (.answered fetch result) := hd
    obtain rfl : r = result := by
      unfold deedOfAnswer at hd
      split at hd <;> cases hd
      rfl
    cases r with
    | ok page => exact hm.elim
    | error why => exact Or.inr ⟨why, hm, rfl⟩
  · refine Or.inl ?_
    rw [← h.source_answer]
    exact Session.answer_of_deed (fun n r he => hown ⟨n, r, he⟩) hd

/-- What is kept by everything that is published and by every exchange holds after every run. -/
theorem exchange_induction {faults : Failure → Prop}
    {Q : Archive α → List (Fetch × Result α) → Feed α κ → Prop}
    (hpush : ∀ a answers f item, (∀ other ∈ a.items, Identified.id other < Identified.id item) →
      Q a answers f → Q (a.push item) answers f)
    (hexchange : ∀ a answers f kind callback result, f.Idle →
      (kind ≠ .refresh → f.hasRoom = true) →
      (result = .ok (f.pageFrom a kind) ∨ ∃ why, faults why ∧ result = .error why) →
      Q a answers f →
        Q a (answers ++ [(f.nextFetch kind, result)]) (f.exchange kind callback result))
    {settings : Settings} (gated : settings.refresh = .gated) {a : Archive α}
    (hcreate : Q a [] (.create settings [] .initial)) {actions : List (Action α κ)}
    (hgrants : (create settings [] .initial (.plain a)).Each (Grants faults)
      ((create settings [] .initial (.plain a)).allMoves actions)) :
    let s : Session α κ := create settings [] .initial (.plain a)
    ∃ b, b.pageSize = a.pageSize ∧ (s.run actions).Exchanges (Q b) (s.log actions) b := by
  refine each_log_induction
    (P := fun t log => ∃ b, b.pageSize = a.pageSize ∧ t.Exchanges (Q b) log b) ?_ ?_ hgrants
  · rintro s log m hm ⟨b, hsize, h⟩
    have hgated : (s.move m).feed.settings.refresh = .gated := by rw [settings_move, h.gated]
    have hstep := step_move h.stage.nodup_running m
    by_cases hitem : ∃ item, m = .push item
    · obtain ⟨item, rfl⟩ := hitem
      refine ⟨b.push item, hsize, ?_, h.script, hgated, ?_⟩
      · show s.source.archive.map _ = _
        rw [h.archive]
        rfl
      · show s.traffic.Stage (Q (b.push item) ((log ++ []).filterMap Deed.answer?))
        rw [List.append_nil]
        exact h.stage.mono fun f hf => hpush b _ f item (hm.newest h.archive) hf
    · have hsource := source_move s fun item he => hitem ⟨item, he⟩
      refine ⟨b, hsize, by rw [hsource, h.archive], by rw [hsource, h.script], hgated, ?_⟩
      rw [filterMap_append_toList]
      refine h.stage.step h.gated hstep fun f kind callback result hd idle room hf => ?_
      exact hexchange b _ f kind callback result idle room (h.answer_of_deed hm hd) hf
  · exact ⟨a, rfl, rfl, rfl, gated, .quiet ⟨rfl, rfl⟩ hcreate⟩

/-- In an orderly run no call fails. -/
theorem orderly_exchange_induction {Q : Archive α → List (Fetch × Result α) → Feed α κ → Prop}
    (hpush : ∀ a answers f item, (∀ other ∈ a.items, Identified.id other < Identified.id item) →
      Q a answers f → Q (a.push item) answers f)
    (hexchange : ∀ a answers f kind callback, f.Idle → Q a answers f →
      Q a (answers ++ [(f.nextFetch kind, .ok (f.pageFrom a kind))])
        (f.exchange kind callback (.ok (f.pageFrom a kind))))
    {settings : Settings} (gated : settings.refresh = .gated) {a : Archive α}
    (hcreate : Q a [] (.create settings [] .initial)) {actions : List (Action α κ)}
    (horderly : (create settings [] .initial (.plain a)).Orderly actions) :
    let s : Session α κ := create settings [] .initial (.plain a)
    ∃ b, b.pageSize = a.pageSize ∧ (s.run actions).Exchanges (Q b) (s.log actions) b := by
  have hgrants := (orderly_iff_each.1 horderly).mono fun _ _ hm => hm.grants fun _ => False
  refine exchange_induction hpush ?_ gated hcreate hgrants
  intro b answers f kind callback result idle _ hresult hf
  obtain rfl | ⟨why, hwhy, -⟩ := hresult
  · exact hexchange b answers f kind callback idle hf
  · exact hwhy.elim

end Session

end Newsfeed
