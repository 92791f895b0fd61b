import Newsfeed.Proofs.Feed.Scrolling
import Newsfeed.Proofs.Session.Exchange

/-!
# Refreshes that fail

A refresh forgets the cursors when it goes out, and the list stays until its page comes.  If it
fails, the list is kept and the cursors are gone (`Adrift`): whatever is wanted next, the source is
asked for the newest page, and that is added to the list, though its items may be on it.  Other
failures are harmless, and so is a refresh that fails while the list is empty.  As long as no other
refresh has failed since the last one that was served (`Derailed`), the next page starts from the
end of the list where it is wanted.
-/

namespace Newsfeed

variable {α κ : Type}

/-! ## What has failed -/

/-- Something came in a series, and what came since meets a condition. -/
def Since {β : Type} (A : List β → β → Prop) (C : β → Prop) (xs : List β) : Prop :=
  ∃ before x after, xs = before ++ x :: after ∧ A before x ∧ ∀ y ∈ after, C y

theorem since_concat {β : Type} {A : List β → β → Prop} {C : β → Prop} {xs : List β} {z : β} :
    Since A C (xs ++ [z]) ↔ A xs z ∨ (Since A C xs ∧ C z) := by
  constructor
  · rintro ⟨before, x, after, h, hA, hC⟩
    rcases List.eq_nil_or_concat after with rfl | ⟨after, w, rfl⟩
    · obtain ⟨rfl, hx⟩ := List.append_inj' h rfl
      obtain rfl := List.singleton_inj.1 hx
      exact Or.inl hA
    · rw [List.concat_eq_append, ← List.cons_append, ← List.append_assoc] at h
      obtain ⟨rfl, hx⟩ := List.append_inj' h rfl
      obtain rfl := List.singleton_inj.1 hx
      rw [List.concat_eq_append] at hC
      exact Or.inr ⟨⟨before, x, after, rfl, hA, fun y hy => hC y (List.mem_append_left _ hy)⟩,
        hC z (List.mem_append_right _ (List.mem_singleton_self z))⟩
  · rintro (hA | ⟨⟨before, x, after, rfl, hA, hC⟩, hz⟩)
    · exact ⟨xs, z, [], rfl, hA, fun y hy => nomatch hy⟩
    · refine ⟨before, x, after ++ [z], by simp, hA, fun y hy => ?_⟩
      rcases List.mem_append.1 hy with hy | hy
      · exact hC y hy
      · rwa [List.mem_singleton.1 hy]

/-- A page with items has come. -/
def Filled (answers : List (Fetch × Result α)) : Prop :=
  ∃ x page, (x, .ok page) ∈ answers ∧ page.items ≠ []

/-- The answer is the failure of a refresh. -/
def FailsRefresh (x : Fetch × Result α) : Prop := x.1.kind = .refresh ∧ x.2.isOk = false

/-- A refresh has failed when there were items, and none has been served since. -/
def Derailed (answers : List (Fetch × Result α)) : Prop :=
  Since (fun before x => Filled before ∧ FailsRefresh x)
    (fun y => y.1.kind = .refresh → y.2.isOk = false) answers

/-- A refresh has failed, and no page has come since. -/
def Adrift (answers : List (Fetch × Result α)) : Prop :=
  Since (fun _ x => FailsRefresh x) (fun y => y.2.isOk = false) answers

theorem Filled.append {answers : List (Fetch × Result α)} (h : Filled answers)
    (more : List (Fetch × Result α)) : Filled (answers ++ more) := by
  obtain ⟨x, page, hx, hne⟩ := h
  exact ⟨x, page, List.mem_append_left _ hx, hne⟩

section Answers

variable {answers : List (Fetch × Result α)} {fetch : Fetch}

theorem not_adrift_of_page (page : Page α) : ¬ Adrift (answers ++ [(fetch, .ok page)]) := by
  intro h
  rcases since_concat.1 h with h | ⟨-, h⟩
  · cases h.2
  · cases h

theorem derailed_of_page (hk : fetch.kind ≠ .refresh) (page : Page α) (h : Derailed answers) :
    Derailed (answers ++ [(fetch, .ok page)]) :=
  since_concat.2 (Or.inr ⟨h, fun he => absurd he hk⟩)

theorem derailed_of_failure (why : Failure) :
    Derailed (answers ++ [(fetch, .error why)]) ↔
      (Filled answers ∧ fetch.kind = .refresh) ∨ Derailed answers := by
  refine since_concat.trans (or_congr ?_ (and_iff_left fun _ => rfl))
  exact and_congr_right fun _ => and_iff_left rfl

theorem adrift_of_failure (why : Failure) :
    Adrift (answers ++ [(fetch, .error why)]) ↔ fetch.kind = .refresh ∨ Adrift answers :=
  since_concat.trans (or_congr (and_iff_left rfl) (and_iff_left rfl))

end Answers

/-! ## What is kept -/

variable [Identified α]

/-- In a descending list an item is among the first ones if few are newer. -/
theorem Descending.mem_take_iff {items : List α} (h : Descending items) {item : α}
    (hi : item ∈ items) (n : Nat) :
    item ∈ items.take n ↔
      items.countP (fun other => Identified.id item < Identified.id other) < n := by
  obtain ⟨i, hi⟩ := List.mem_iff_getElem?.1 hi
  have hcount := h.countP_lt hi
  rw [hcount, List.mem_take_iff_getElem]
  constructor
  · rintro ⟨j, hj, he⟩
    have hj' : items[j]? = some item := by
      rw [← he]
      exact List.getElem?_eq_getElem _
    rw [← hcount, h.countP_lt hj']
    omega
  · intro hlt
    obtain ⟨hlength, he⟩ := List.getElem?_eq_some_iff.1 hi
    exact ⟨i, by omega, he⟩

namespace Feed

/-- The archive has what is on the list.  The list and the cursors are in step with it unless they
were derailed, and a failed refresh leaves no cursors. -/
structure Endures (f : Feed α κ) (a : Archive α) (answers : List (Fetch × Result α)) : Prop where
  follows : f.Follows a
  filled : f.items ≠ [] → Filled answers
  tracks : ¬ Derailed answers → f.Tracks a
  adrift : Adrift answers → f.paging.newer = none ∧ f.paging.older = none

section Archive

variable {f : Feed α κ} {a : Archive α} {answers : List (Fetch × Result α)}

theorem endures_create (settings : Settings) {items : List α}
    (distinct : (items.map Identified.id).Nodup) (n : Nat) :
    (create settings [] .initial : Feed α κ).Endures
      ((Archive.ofList items).withPageSize n) [] := by
  have htracks : (create settings [] .initial : Feed α κ).Tracks _ :=
    tracks_create_ofList settings distinct n
  exact ⟨htracks.toFollows, fun hne => absurd rfl hne, fun _ => htracks, fun _ => ⟨rfl, rfl⟩⟩

theorem Endures.push (h : f.Endures a answers) {item : α}
    (hnew : ∀ other ∈ a.items, Identified.id other < Identified.id item) :
    f.Endures (a.push item) answers :=
  ⟨h.follows.push hnew, h.filled, fun hs => (h.tracks hs).push hnew, h.adrift⟩

theorem Endures.exchange (h : f.Endures a answers) (hpending : f.pending = []) (kind : RequestKind)
    (callback : Option κ) :
    (f.exchange kind callback (.ok (f.pageFrom a kind))).Endures a
      (answers ++ [(f.nextFetch kind, .ok (f.pageFrom a kind))]) := by
  refine ⟨h.follows.exchange hpending kind callback, fun hne => ?_, fun hs => ?_,
    fun hd => absurd hd (not_adrift_of_page _)⟩
  · obtain ⟨item, hi⟩ := List.exists_mem_of_ne_nil _ hne
    rcases (h.follows.mem_items_exchange hpending kind callback item).1 hi with hi | ⟨-, hi⟩
    · exact ⟨_, _, List.mem_append_right _ (List.mem_singleton_self _), List.ne_nil_of_mem hi⟩
    · exact (h.filled (List.ne_nil_of_mem hi)).append _
  · exact h.follows.tracks_exchange hpending
      (fun hk => h.tracks fun hd => hs (derailed_of_page hk _ hd)) callback

theorem Endures.exchange_error (h : f.Endures a answers) (hpending : f.pending = [])
    (kind : RequestKind) (callback : Option κ) (why : Failure) :
    (f.exchange kind callback (.error why)).Endures a
      (answers ++ [(f.nextFetch kind, .error why)]) := by
  have hfollows := h.follows.exchange_error hpending kind callback why
  have hitems := items_exchange_error hpending kind callback why
  have hpaging : (f.exchange kind callback (.error why)).paging =
      (f.paging.requested kind).finish := by
    rw [Feed.exchange_error hpending]
  refine ⟨hfollows, fun hne => (h.filled (hitems ▸ hne)).append _, fun hs => ?_, fun hd => ?_⟩
  · rw [derailed_of_failure, not_or] at hs
    by_cases hk : kind = .refresh
    · -- the list was empty, and no cursor was lost
      subst hk
      have hnil : f.items = [] := Classical.byContradiction fun hne => hs.1 ⟨h.filled hne, rfl⟩
      have hnewer : (f.exchange .refresh callback (.error why)).paging.newer = none := by
        rw [hpaging]
        rfl
      have holder : (f.exchange .refresh callback (.error why)).paging.older = none := by
        rw [hpaging]
        rfl
      refine ⟨hfollows, ?_, ?_, ?_, fun _ => ⟨hnewer, holder⟩⟩
      · rw [hitems, hnil]
        exact .nil
      · rw [Paging.newerThan, hnewer, hitems, hnil]
        rfl
      · rw [Paging.olderThan, holder, hitems, hnil]
        rfl
    · exact (h.tracks hs.2).exchange_error hpending hk callback why
  · rw [hpaging]
    have hd := (adrift_of_failure why).1 hd
    cases kind with
    | refresh => exact ⟨rfl, rfl⟩
    | newer | older => exact h.adrift (hd.resolve_left fun hk => RequestKind.noConfusion hk)

/-- Without cursors, the newest page is wanted at either end. -/
theorem pageFrom_of_adrift (hnone : f.paging.newer = none ∧ f.paging.older = none)
    (a : Archive α) (kind : RequestKind) :
    f.paging.bound kind = none ∧ (f.pageFrom a kind).items = a.items.take a.pageSize := by
  have hbound : f.paging.bound kind = none := by
    cases kind with
    | refresh => rfl
    | newer => simp [Paging.bound, Paging.newerThan, hnone.1]
    | older => simp [Paging.bound, Paging.olderThan, hnone.2]
  refine ⟨hbound, ?_⟩
  rw [pageFrom, hbound]
  cases kind <;> exact congrArg Page.items (Archive.query_newest a)

/-- A page that starts from the end of the list has nothing that is on it. -/
theorem Tracks.ne_of_mem_page (h : f.Tracks a)
    (above : ∀ item ∈ a.items, Identified.id item ≠ Int64.minValue) {kind : RequestKind}
    (hk : kind ≠ .refresh) {item : α} (hi : item ∈ (f.pageFrom a kind).items) {old : α}
    (ho : old ∈ f.items) : Identified.id item ≠ Identified.id old := by
  have hadmits := (Source.mem_pageOf hi).2
  cases kind with
  | refresh => exact absurd rfl hk
  | newer => exact (Int64.ne_of_lt (h.newer_iff.1 hadmits old ho)).symm
  | older =>
    obtain ⟨last, hlast⟩ : ∃ last, f.items.getLast? = some last :=
      ⟨_, List.getLast?_eq_some_getLast (List.ne_nil_of_mem ho)⟩
    have hbound : f.paging.bound .older = some (Identified.id last) := by
      rw [h.anchored.bound_eq, nearest, hlast]
      rfl
    rw [hbound] at hadmits
    have hlt := lt_of_le_inclusiveBound
      (above last (h.held last (List.mem_of_getLast? hlast))) hadmits
    exact Int64.ne_of_lt (Int64.lt_of_lt_of_le hlt (h.sorted.last_le hlast old ho))

end Archive

end Feed

namespace Session

theorem deed_request_of_free {s : Session α κ} {kind : RequestKind} (callback : Option κ)
    (free : s.feed.paging.inFlight = false) (room : kind ≠ .refresh → s.feed.hasRoom = true) :
    s.deed (.request kind callback) = some (.issued (s.feed.nextFetch kind) callback) := by
  show some (Deed.ofResponse callback (s.feed.request kind callback).2) = _
  rw [Feed.request_of_free callback free room]
  rfl

/-- Every run with an archive whose calls may fail ends in exchanges that the feed endures. -/
theorem exchanges_endures {settings : Settings} (gated : settings.refresh = .gated)
    {items : List α} (distinct : (items.map Identified.id).Nodup) (n : Nat)
    {faults : Failure → Prop} :
    let s : Session α κ :=
      create settings [] .initial (.plain ((Archive.ofList items).withPageSize n))
    ∀ actions, s.Each (Grants faults) (s.allMoves actions) →
      ∃ a, a.pageSize = max n 1 ∧
        (s.run actions).Exchanges (fun answers f => f.Endures a answers) (s.log actions) a := by
  intro s actions hgrants
  refine exchange_induction (Q := fun a answers f => Feed.Endures f a answers)
    (fun a answers f item hnew hf => hf.push hnew) ?_ gated
    (Feed.endures_create settings distinct n) hgrants
  rintro a answers f kind callback result idle - hresult hf
  obtain rfl | ⟨why, -, rfl⟩ := hresult
  · exact hf.exchange idle.pending kind callback
  · exact hf.exchange_error idle.pending kind callback why

/-- Over an archive whose calls may fail, a page is wanted from the end of the list and brings
nothing that is on it, unless a refresh has failed when there were items and none has been served
since. When a refresh has failed and no page has come since, the newest page is wanted and added to
the list, and it brings again what has less than a page of newer items above it. -/
theorem paging_after_failures {settings : Settings} (gated : settings.refresh = .gated)
    {items : List α} (distinct : (items.map Identified.id).Nodup) (n : Nat) :
    let s : Session α κ :=
      create settings [] .initial (.plain ((Archive.ofList items).withPageSize n))
    ∀ actions,
      s.Each (Grants fun why => why.report?.isSome = true) (s.allMoves actions) →
      let t := s.run actions
      t.feed.paging.inFlight = false → t.feed.hasRoom = true → ∀ a ∈ t.source.archive,
      ∀ kind, kind ≠ .refresh → ∀ callback,
      let u := (t.move (.request kind callback)).settle
      (¬ Derailed (s.answers actions) →
        t.deed (.request kind callback) = some (.issued
          ⟨t.feed.nextRequest, kind, (t.feed.nearest kind).map Identified.id⟩ callback) ∧
        ∃ page, u.feed.items = kind.join page t.feed.items ∧
          ((∀ item ∈ a.items, Identified.id item ≠ Int64.minValue) →
            ∀ item ∈ page, ∀ old ∈ t.feed.items, Identified.id item ≠ Identified.id old)) ∧
      (Adrift (s.answers actions) →
        t.deed (.request kind callback) =
          some (.issued ⟨t.feed.nextRequest, kind, none⟩ callback) ∧
        u.feed.items = kind.join (a.items.take (max n 1)) t.feed.items ∧
        ∀ item ∈ t.feed.items, item ∈ a.items.take (max n 1) ↔
          a.items.countP (fun other => Identified.id item < Identified.id other) < max n 1) := by
  intro s actions hgrants t free room b hb kind hk callback u
  obtain ⟨a, hsize, h⟩ := exchanges_endures gated distinct n actions hgrants
  obtain rfl : a = b := Option.some.inj (h.archive.symm.trans hb)
  obtain ⟨idle, hends, -⟩ := h.at_rest free
  have hdeed : t.deed (.request kind callback) = some (.issued (t.feed.nextFetch kind) callback) :=
    deed_request_of_free callback free fun _ => room
  have hitems : u.feed.items = kind.join (t.feed.pageFrom a kind).items t.feed.items := by
    have hfeed : u.feed = t.feed.exchange kind callback (.ok (t.feed.pageFrom a kind)) :=
      h.feed_settle free (fun _ => room) callback
    rw [hfeed]
    exact hends.follows.items_exchange idle.pending kind callback
  refine ⟨fun hsteady => ?_, fun hadrift => ?_⟩
  · have htracks := hends.tracks hsteady
    refine ⟨?_, _, hitems, fun above item hi old ho => htracks.ne_of_mem_page above hk hi ho⟩
    rw [← htracks.anchored.bound_eq]
    exact hdeed
  · obtain ⟨hbound, hpage⟩ := Feed.pageFrom_of_adrift (hends.adrift hadrift) a kind
    rw [hpage, hsize] at hitems
    refine ⟨?_, hitems, fun item hi => ?_⟩
    · rw [← hbound]
      exact hdeed
    · exact hends.follows.ordered.mem_take_iff (hends.follows.held item hi) _

/-- After a page of older items has failed, older items are wanted from the last one again; after a
refresh has failed, the same two items come twice. -/
theorem paging_after_two_failures :
    let s : Session Post Nat := create .standard [] .initial
      (.plain ((Archive.ofList [⟨1, none, none, none, none⟩]).withPageSize 2))
    let down : Result Post := .error (.source "down")
    let t := s.run [.move (.push ⟨2, none, none, none, none⟩), .move (.request .refresh none),
      .settle, .move (.request .older none), .move (.answer 1 down), .move (.release 1),
      .move .applyNext]
    let u := s.run [.move (.push ⟨2, none, none, none, none⟩), .move (.request .refresh none),
      .settle, .move (.request .refresh none), .move (.answer 1 down), .move (.release 1),
      .move .applyNext]
    (∃ fetch, t.deed (.request .older none) = some (.issued fetch none) ∧ fetch.position = some 1) ∧
      (u.move (.request .older none)).settle.feed.items.map Post.id = [2, 1, 2, 1] := by
  have hdistinct : (([⟨1, none, none, none, none⟩] : List Post).map Identified.id).Nodup := by
    decide
  let page : Page Post := .ofItems [⟨2, none, none, none, none⟩, ⟨1, none, none, none, none⟩]
  let down : Result Post := .error (.source "down")
  refine ⟨?_, ?_⟩
  · have hsteady : ¬ Derailed ([] ++ [(⟨0, .refresh, none⟩, .ok page)] ++
        [(⟨1, .older, some 1⟩, down)]) := by
      intro h
      rcases (derailed_of_failure _).1 h with ⟨-, hk⟩ | h
      · cases hk
      · rcases since_concat.1 h with ⟨-, -, hfailed⟩ | ⟨-, hfailed⟩
        · cases hfailed
        · cases hfailed rfl
    have h := (paging_after_failures (κ := Nat) (rfl : Settings.standard.refresh = .gated)
      hdistinct 2 [.move (.push ⟨2, none, none, none, none⟩), .move (.request .refresh none),
        .settle, .move (.request .older none), .move (.answer 1 down), .move (.release 1),
        .move .applyNext]
      (by decide +kernel) (by decide +kernel) (by decide +kernel) ⟨page.items, 2⟩
      (by decide +kernel) .older (by decide) none).1
      (Eq.subst (motive := fun answers => ¬ Derailed answers) (by decide +kernel) hsteady)
    exact ⟨_, h.1, by decide +kernel⟩
  · have hadrift : Adrift ([(⟨0, .refresh, none⟩, .ok page)] ++ [(⟨1, .refresh, none⟩, down)]) :=
      (adrift_of_failure _).2 (Or.inl rfl)
    have h := (paging_after_failures (κ := Nat) (rfl : Settings.standard.refresh = .gated)
      hdistinct 2 [.move (.push ⟨2, none, none, none, none⟩), .move (.request .refresh none),
        .settle, .move (.request .refresh none), .move (.answer 1 down), .move (.release 1),
        .move .applyNext]
      (by decide +kernel) (by decide +kernel) (by decide +kernel) ⟨page.items, 2⟩
      (by decide +kernel) .older (by decide) none).2
      (Eq.subst (motive := Adrift) (by decide +kernel) hadrift)
    exact (congrArg (List.map Post.id) h.2.1).trans (by decide +kernel)

end Session

end Newsfeed
