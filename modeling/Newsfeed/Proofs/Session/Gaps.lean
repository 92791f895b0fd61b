import Newsfeed.Proofs.Session.Exchange

/-!
# Gaps in the list

A page of newer items has the newest ones there are.  If more were published than a page takes, it
passes over the others, which then lie between two items of the list, and no later page has them,
since every page lies beyond one end of the list.  Nothing else leaves a gap: between its ends, the
list lacks just the items that a page of newer items has passed over since the last refresh
(`mem_items_iff_not_passedOver`).
-/

namespace Newsfeed

variable {α κ : Type} [Identified α]

/-- The answer is a full page of newer items that passes over an id: the id lies above the one from
which the items were wanted, and below all of them. -/
structure PassesOver (size : Nat) (answer : Fetch × Result α) (n : Int64) : Prop where
  kind : answer.1.kind = .newer
  above : ∃ since, answer.1.position = some since ∧ since < n
  full : ∃ page, answer.2 = .ok page ∧ page.items.length = size ∧
    ∀ item ∈ page.items, n < Identified.id item

/-- Some page since the last refresh passes over the id. -/
def PassedOver (size : Nat) (answers : List (Fetch × Result α)) (n : Int64) : Prop :=
  ∃ answer ∈ leg answers, PassesOver size answer n

theorem not_passedOver_refresh (size : Nat) (answers : List (Fetch × Result α))
    {answer : Fetch × Result α} (hk : answer.1.kind = .refresh) (n : Int64) :
    ¬ PassedOver size (answers ++ [answer]) n := by
  rintro ⟨x, hx, -⟩
  rw [leg_concat, if_pos hk] at hx
  cases hx

theorem passedOver_concat {size : Nat} {answers : List (Fetch × Result α)}
    {answer : Fetch × Result α} (hk : answer.1.kind ≠ .refresh) {n : Int64} :
    PassedOver size (answers ++ [answer]) n ↔
      PassedOver size answers n ∨ PassesOver size answer n := by
  unfold PassedOver
  rw [leg_concat, if_neg hk]
  simp [or_and_right, exists_or]

namespace Feed

/-- The id lies between those of two items on the list. -/
def Spans (f : Feed α κ) (n : Int64) : Prop :=
  (∃ item ∈ f.items, Identified.id item ≤ n) ∧ ∃ item ∈ f.items, n ≤ Identified.id item

theorem Spans.mono {f g : Feed α κ} (h : ∀ item ∈ f.items, item ∈ g.items) {n : Int64}
    (hn : f.Spans n) : g.Spans n := by
  obtain ⟨⟨x, hx, hxn⟩, y, hy, hyn⟩ := hn
  exact ⟨⟨x, h x hx, hxn⟩, y, h y hy, hyn⟩

section Exchange

variable {f : Feed α κ} {a : Archive α}

/-- What the list spans after an exchange it has spanned before, or the page may have it and lies
about it or above it. -/
theorem Tracks.spans_or_admits (h : f.Tracks a) (hpending : f.pending = []) {kind : RequestKind}
    {callback : Option κ} {n : Int64}
    (hn : (f.exchange kind callback (.ok (f.pageFrom a kind))).Spans n) :
    (kind ≠ .refresh ∧ f.Spans n) ∨
      (kind.admits (f.paging.bound kind) n = true ∧
        ((∃ item ∈ (f.pageFrom a kind).items, Identified.id item ≤ n) ∨
          (kind = .newer ∧ f.items ≠ []))) := by
  obtain ⟨⟨x, hx, hxn⟩, y, hy, hyn⟩ := hn
  have hmem := h.mem_items_exchange hpending kind callback
  rw [hmem] at hx hy
  cases kind with
  | refresh =>
    have hx : x ∈ (f.pageFrom a .refresh).items := by simpa using hx
    exact Or.inr ⟨rfl, Or.inl ⟨x, hx, hxn⟩⟩
  | newer =>
    by_cases hall : ∀ old ∈ f.items, Identified.id old < n
    · refine Or.inr ⟨h.newer_iff.2 hall, hx.imp (fun hx => ⟨x, hx, hxn⟩) fun hx => ⟨rfl, ?_⟩⟩
      exact List.ne_nil_of_mem hx.2
    · obtain ⟨old, ho, hle⟩ : ∃ old ∈ f.items, n ≤ Identified.id old := by
        simpa only [not_forall, exists_prop, Int64.not_lt] using hall
      -- the page is above the whole list
      have hx : x ∈ f.items := by
        refine (hx.resolve_left fun hx => ?_).2
        have hlt := h.newer_iff.1 (Source.mem_pageOf hx).2 old ho
        exact Int64.not_lt.2 (Int64.le_trans hxn hle) hlt
      exact Or.inl ⟨by decide, ⟨x, hx, hxn⟩, old, ho, hle⟩
  | older =>
    by_cases hall : ∀ old ∈ f.items, n < Identified.id old
    · refine Or.inr ⟨h.older_of_lt hall, Or.inl ⟨x, hx.resolve_right fun hx => ?_, hxn⟩⟩
      exact Int64.not_lt.2 hxn (hall x hx.2)
    · obtain ⟨old, ho, hle⟩ : ∃ old ∈ f.items, Identified.id old ≤ n := by
        simpa only [not_forall, exists_prop, Int64.not_lt] using hall
      refine Or.inl ⟨by decide, ⟨old, ho, hle⟩, ?_⟩
      rcases hy with hy | ⟨-, hy⟩
      · -- the page is not above anything on the list
        exact ⟨old, ho, Int64.le_trans hyn (h.le_of_older (Source.mem_pageOf hy).2 old ho)⟩
      · exact ⟨y, hy, hyn⟩

/-- No page has anything between the ends of the list that the list lacks. -/
theorem Tracks.not_mem_page (h : f.Tracks a) {kind : RequestKind} (hk : kind ≠ .refresh) {n : Int64}
    (hn : f.Spans n) (hne : ∀ item ∈ f.items, Identified.id item ≠ n) :
    ∀ item ∈ (f.pageFrom a kind).items, Identified.id item ≠ n := by
  rintro item hi rfl
  obtain ⟨⟨x, hx, hxn⟩, y, hy, hyn⟩ := hn
  have hadmits := (Source.mem_pageOf hi).2
  cases kind with
  | refresh => exact hk rfl
  | newer => exact Int64.not_lt.2 hyn (h.newer_iff.1 hadmits y hy)
  | older => exact hne x hx (Int64.le_antisymm hxn (h.le_of_older hadmits x hx))

/-- A page of newer items passes over what it may have and has not. -/
theorem Tracks.passesOver_iff (h : f.Tracks a) {n : Int64} :
    PassesOver a.pageSize (f.nextFetch .newer, (.ok (f.pageFrom a .newer) : Result α)) n ↔
      f.items ≠ [] ∧ (∀ old ∈ f.items, Identified.id old < n) ∧
        (f.pageFrom a .newer).items.length = a.pageSize ∧
          ∀ item ∈ (f.pageFrom a .newer).items, n < Identified.id item := by
  have hposition : (f.nextFetch .newer).position = f.items.head?.map Identified.id :=
    h.anchored.newer
  refine ⟨fun hp => ?_, fun ⟨hne, hall, hfull, habove⟩ => ?_⟩
  · obtain ⟨since, hsince, hlt⟩ := hp.above
    obtain ⟨page, hpage, hfull, habove⟩ := hp.full
    cases hpage
    refine ⟨?_, h.newer_iff.1 ?_, hfull, habove⟩
    · rintro hnil
      rw [hposition, hnil] at hsince
      cases hsince
    · have hbound : f.paging.newerThan = some since := hsince
      show f.paging.newerThan.all (· < n) = true
      rw [hbound]
      simpa using hlt
  · obtain ⟨first, rest, hitems⟩ := List.exists_cons_of_ne_nil hne
    refine ⟨rfl, ⟨Identified.id first, ?_, hall first (by simp [hitems])⟩, _, rfl, hfull, habove⟩
    rw [hposition, hitems]
    rfl

end Exchange

/-- The list is in step with the archive, and between its ends it lacks what was passed over and
nothing else. -/
structure Covers (f : Feed α κ) (a : Archive α) (answers : List (Fetch × Result α)) : Prop where
  tracks : f.Tracks a
  lacks : ∀ item ∈ a.items, f.Spans (Identified.id item) → item ∉ f.items →
    PassedOver a.pageSize answers (Identified.id item)
  passed : ∀ n, PassedOver a.pageSize answers n →
    f.Spans n ∧ ∀ item ∈ f.items, Identified.id item ≠ n

theorem covers_create (settings : Settings) {items : List α}
    (distinct : (items.map Identified.id).Nodup) (n : Nat) :
    (create settings [] .initial : Feed α κ).Covers ((Archive.ofList items).withPageSize n) [] := by
  refine ⟨tracks_create_ofList settings distinct n, ?_, ?_⟩
  · rintro item - ⟨⟨x, hx, -⟩, -⟩
    cases hx
  · rintro m ⟨x, hx, -⟩
    cases hx

namespace Covers

variable {f : Feed α κ} {a : Archive α} {answers : List (Fetch × Result α)}

theorem push (h : f.Covers a answers) {item : α}
    (hnew : ∀ other ∈ a.items, Identified.id other < Identified.id item) :
    f.Covers (a.push item) answers := by
  refine ⟨h.tracks.push hnew, fun other ho hspans hnot => ?_, h.passed⟩
  rw [Archive.items_push_of_newest hnew] at ho
  rcases List.mem_cons.1 ho with rfl | ho
  · obtain ⟨-, y, hy, hle⟩ := hspans
    exact absurd (hnew y (h.tracks.held y hy)) (Int64.not_lt.2 hle)
  · exact h.lacks other ho hspans hnot

theorem exchange (h : f.Covers a answers) (hpending : f.pending = []) (kind : RequestKind)
    (callback : Option κ) :
    (f.exchange kind callback (.ok (f.pageFrom a kind))).Covers a
      (answers ++ [(f.nextFetch kind, .ok (f.pageFrom a kind))]) := by
  have hmem := h.tracks.mem_items_exchange hpending kind callback
  refine ⟨h.tracks.exchange hpending kind callback, fun item hi hspans hnot => ?_, fun n hn => ?_⟩
  · obtain ⟨hpage, hlist⟩ := not_or.1 (mt (hmem item).2 hnot)
    rcases h.tracks.spans_or_admits hpending hspans with ⟨hk, hold⟩ | ⟨hadmits, hlow⟩
    · exact (passedOver_concat hk).2 (Or.inl (h.lacks item hi hold fun hf => hlist ⟨hk, hf⟩))
    · obtain ⟨hfull, habove⟩ :=
        Source.full_of_not_mem_pageOf h.tracks.ordered hi hadmits hpage
      rcases hlow with ⟨x, hx, hle⟩ | ⟨rfl, hne⟩
      · exact absurd (habove x hx) (Int64.not_lt.2 hle)
      · refine (passedOver_concat (by decide : RequestKind.newer ≠ .refresh)).2 (Or.inr ?_)
        exact h.tracks.passesOver_iff.2 ⟨hne, h.tracks.newer_iff.1 hadmits, hfull, habove⟩
  · by_cases hk : kind = .refresh
    · exact absurd hn (not_passedOver_refresh _ _ hk n)
    · have hsub : ∀ item ∈ f.items,
          item ∈ (f.exchange kind callback (.ok (f.pageFrom a kind))).items :=
        fun item hi => (hmem item).2 (Or.inr ⟨hk, hi⟩)
      rcases (passedOver_concat hk).1 hn with hn | hn
      · obtain ⟨hspans, hne⟩ := h.passed n hn
        refine ⟨hspans.mono hsub, fun item hi => ?_⟩
        exact ((hmem item).1 hi).elim (h.tracks.not_mem_page hk hspans hne item) fun hi =>
          hne item hi.2
      · obtain rfl : kind = .newer := hn.kind
        obtain ⟨hne, hall, hfull, habove⟩ := h.tracks.passesOver_iff.1 hn
        obtain ⟨x, hx⟩ := List.exists_mem_of_ne_nil _ hne
        have hpage : (f.pageFrom a .newer).items ≠ [] := by
          rintro hnil
          rw [hnil] at hfull
          exact h.tracks.size hfull.symm
        obtain ⟨y, hy⟩ := List.exists_mem_of_ne_nil _ hpage
        refine ⟨⟨⟨x, hsub x hx, Int64.le_of_lt (hall x hx)⟩, y, (hmem y).2 (Or.inl hy),
          Int64.le_of_lt (habove y hy)⟩, fun item hi => ?_⟩
        rcases (hmem item).1 hi with hi | ⟨-, hi⟩
        · exact (Int64.ne_of_lt (habove item hi)).symm
        · exact Int64.ne_of_lt (hall item hi)

end Covers

end Feed

namespace Session

/-- At rest, an item of the archive between the ends of the list is on the list exactly if no page
of newer items has passed over it since the last refresh. -/
theorem mem_items_iff_not_passedOver {settings : Settings} (gated : settings.refresh = .gated)
    {items : List α} (distinct : (items.map Identified.id).Nodup) (n : Nat) :
    let s : Session α κ :=
      create settings [] .initial (.plain ((Archive.ofList items).withPageSize n))
    ∀ actions, s.Orderly actions →
      let t := s.run actions
      t.feed.paging.inFlight = false →
      ∀ a ∈ t.source.archive, ∀ item ∈ a.items, ∀ first ∈ t.feed.items.head?,
        ∀ last ∈ t.feed.items.getLast?, Identified.id last ≤ Identified.id item →
          Identified.id item ≤ Identified.id first →
          (item ∈ t.feed.items ↔
            ¬ PassedOver (max n 1) (s.answers actions) (Identified.id item)) := by
  intro s actions horderly t free
  obtain ⟨a, hpage, h⟩ := orderly_exchange_induction
    (Q := fun a answers f => Feed.Covers f a answers)
    (fun a answers f item hnew hf => hf.push hnew)
    (fun a answers f kind callback idle hf => hf.exchange idle.pending kind callback) gated
    (Feed.covers_create settings distinct n) horderly
  have hpage : a.pageSize = max n 1 := hpage
  obtain ⟨-, hcovers, -⟩ := h.at_rest free
  intro b hb item hi first hfirst last hlast hlow hhigh
  obtain rfl : a = b := Option.some.inj (h.archive.symm.trans hb)
  have hspans : t.feed.Spans (Identified.id item) :=
    ⟨⟨last, List.mem_of_getLast? hlast, hlow⟩, first, List.mem_of_head? hfirst, hhigh⟩
  rw [← hpage]
  refine ⟨fun hmem hpassed => (hcovers.passed _ hpassed).2 item hmem rfl, fun hnot => ?_⟩
  exact Classical.byContradiction fun hmem => hnot (hcovers.lacks item hi hspans hmem)

/-- A burst of two items fits a page of two, and none is passed over. -/
theorem mem_items_of_page_two :
    let s : Session Post Nat := create .standard [] .initial
      (.plain ((Archive.ofList [⟨1, none, none, none, none⟩]).withPageSize 2))
    let actions : List (Action Post Nat) := [.move (.request .refresh none), .settle,
      .move (.push ⟨2, none, none, none, none⟩), .move (.push ⟨3, none, none, none, none⟩),
      .move (.request .newer none), .settle]
    (s.run actions).feed.items.map Post.id = [3, 2, 1] ∧ ¬ PassedOver 2 (s.answers actions) 2 := by
  refine ⟨by decide +kernel, ?_⟩
  have hdistinct : (([⟨1, none, none, none, none⟩] : List Post).map Identified.id).Nodup := by
    decide
  refine (mem_items_iff_not_passedOver (rfl : Settings.standard.refresh = .gated) hdistinct 2 _ ?_
    ?_ ⟨[⟨3, none, none, none, none⟩, ⟨2, none, none, none, none⟩, ⟨1, none, none, none, none⟩], 2⟩
    ?_ ⟨2, none, none, none, none⟩ ?_ ⟨3, none, none, none, none⟩ ?_ ⟨1, none, none, none, none⟩ ?_
    ?_ ?_).1 ?_
  all_goals decide +kernel

/-- A page of one passes over the first item of the burst, which lies between two of the list. -/
theorem not_mem_items_of_page_one :
    let s : Session Post Nat := create .standard [] .initial
      (.plain ((Archive.ofList [⟨1, none, none, none, none⟩]).withPageSize 1))
    let actions : List (Action Post Nat) := [.move (.request .refresh none), .settle,
      .move (.push ⟨2, none, none, none, none⟩), .move (.push ⟨3, none, none, none, none⟩),
      .move (.request .newer none), .settle]
    let t := s.run actions
    s.Orderly actions ∧ t.feed.paging.inFlight = false ∧
      ¬ ∀ a ∈ t.source.archive, ∀ item ∈ a.items, ∀ first ∈ t.feed.items.head?,
        ∀ last ∈ t.feed.items.getLast?, last.id ≤ item.id → item.id ≤ first.id →
          item ∈ t.feed.items := by
  refine ⟨?_, ?_, ?_⟩ <;> decide +kernel

end Session

end Newsfeed
