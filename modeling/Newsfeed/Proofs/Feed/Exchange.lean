import Newsfeed.Proofs.Feed.Anchored

/-!
# One request at a time

A feed that makes one request at a time changes by exchanges: a request goes out when nothing else
is out, and its result is applied before the next one goes out (`Feed.exchange`).  Over an archive
that serves its pages, the ids that a page may have are known from the list alone: newer items are
those above the whole list, and older ones those below it (`Tracks.newer_iff`,
`Tracks.older_of_lt`).  The order of the list is a weak one, because a bound made of the least id
does not exclude that id.
-/

namespace Newsfeed

variable {α κ : Type}

/-! ## Pages of a kind -/

/-- The ids that a page of some kind may have, given where its request starts. -/
def RequestKind.admits (kind : RequestKind) (bound : Option Int64) (n : Int64) : Bool :=
  match kind with
  | .refresh | .newer => bound.all (· < n)
  | .older => (inclusiveBound bound).all (n ≤ ·)

namespace Source

variable [Identified α] {a : Archive α} {kind : RequestKind} {bound : Option Int64}

theorem cursor_pageOf (a : Archive α) (kind : RequestKind) (bound : Option Int64) :
    (pageOf a kind bound).cursor = .ofItems (pageOf a kind bound).items := by
  cases kind <;> rfl

theorem descending_pageOf (ha : Descending a.items) :
    Descending (pageOf a kind bound).items := by
  cases kind <;> exact ha.sublist (Archive.sublist_query a _ _)

theorem mem_pageOf {item : α} (h : item ∈ (pageOf a kind bound).items) :
    item ∈ a.items ∧ kind.admits bound (Identified.id item) = true := by
  cases kind with
  | refresh | newer =>
    obtain ⟨hi, -, hsince⟩ := Archive.mem_query a _ _ h
    exact ⟨hi, hsince⟩
  | older =>
    obtain ⟨hi, hup, -⟩ := Archive.mem_query a _ _ h
    exact ⟨hi, hup⟩

/-- What a page may have and has not is older than a full page. -/
theorem full_of_not_mem_pageOf (ha : Descending a.items) {item : α} (hi : item ∈ a.items)
    (hadmits : kind.admits bound (Identified.id item) = true)
    (hnot : item ∉ (pageOf a kind bound).items) :
    (pageOf a kind bound).items.length = a.pageSize ∧
      ∀ other ∈ (pageOf a kind bound).items, Identified.id item < Identified.id other := by
  cases kind with
  | refresh | newer => exact Archive.full_of_not_mem_query ha hi rfl hadmits hnot
  | older => exact Archive.full_of_not_mem_query ha hi hadmits rfl hnot

/-- A page that may have something is not empty. -/
theorem pageOf_ne_nil (ha : Descending a.items) (hsize : a.pageSize ≠ 0) {item : α}
    (hi : item ∈ a.items) (hadmits : kind.admits bound (Identified.id item) = true) :
    (pageOf a kind bound).items ≠ [] := by
  intro hnil
  have hnot : item ∉ (pageOf a kind bound).items := by simp [hnil]
  have hfull := (full_of_not_mem_pageOf ha hi hadmits hnot).1
  rw [hnil] at hfull
  exact hsize hfull.symm

end Source

namespace Feed

/-! ## Exchanges -/

/-- Nothing is pending and no request is out. -/
structure Idle (f : Feed α κ) : Prop where
  pending : f.pending = []
  free : f.paging.inFlight = false

/-- The feed after a request has gone out and its result has been applied. -/
def exchange (f : Feed α κ) (kind : RequestKind) (callback : Option κ) (result : Result α) :
    Feed α κ :=
  ((f.sent kind callback).complete f.nextRequest result).1

section Exchange

variable {f : Feed α κ} (h : f.pending = []) (kind : RequestKind) (callback : Option κ)

include h in
theorem find?_pending_sent : (f.sent kind callback).pending.find? (·.id = f.nextRequest) =
    some ⟨f.nextRequest, kind, callback⟩ := by
  simp [sent, h]

include h in
theorem idle_exchange (result : Result α) : (f.exchange kind callback result).Idle := by
  refine ⟨?_, inFlight_complete (find?_pending_sent h kind callback) result⟩
  rw [exchange, pending_complete]
  simp [sent, h]

@[simp]
theorem settings_exchange (result : Result α) :
    (f.exchange kind callback result).settings = f.settings := settings_complete _ _ _

include h in
/-- A page is merged. -/
theorem exchange_ok (page : Page α) :
    f.exchange kind callback (.ok page) =
      let g := { f.sent kind callback with pending := [] }.merge kind page
      { g with paging := g.paging.finish } := by
  have hrest : (f.sent kind callback).pending.filter (·.id ≠ f.nextRequest) = [] := by
    simp [sent, h]
  have hcomplete := complete_ok (find?_pending_sent h kind callback) page
  rw [hrest] at hcomplete
  exact hcomplete

include h in
/-- A failure leaves the list alone, but not what the request has done to the cursors. -/
theorem exchange_error (why : Failure) :
    f.exchange kind callback (.error why) =
      { f.sent kind callback with pending := [], paging := (f.paging.requested kind).finish } := by
  have hrest : (f.sent kind callback).pending.filter (·.id ≠ f.nextRequest) = [] := by
    simp [sent, h]
  rw [exchange, complete_error (find?_pending_sent h kind callback), hrest]
  rfl

include h in
theorem items_exchange_error (why : Failure) :
    (f.exchange kind callback (.error why)).items = f.items := by
  rw [exchange_error h]
  rfl

variable (page : Page α)

include h in
/-- An empty page joins nothing, which for a refresh is right only if the list is empty. -/
theorem items_exchange (hrefresh : kind = .refresh → page.items = [] → f.items = []) :
    (f.exchange kind callback (.ok page)).items = kind.join page.items f.items := by
  rw [exchange_ok h]
  exact items_merge _ page kind hrefresh

include h in
theorem olderEdge_exchange : (f.exchange kind callback (.ok page)).paging.olderEdge =
    if kind = .older then if page.isEmpty then .exhausted else .hasMore
    else (f.paging.requested kind).olderEdge := by
  rw [exchange_ok h]
  exact olderEdge_merge _ page kind

end Exchange

section Cursors

variable [Identified α] {f : Feed α κ} (h : f.pending = []) {kind : RequestKind}
  (callback : Option κ)

include h in
/-- A page leaves the cursors at the ends of the list. -/
theorem anchored_exchange {page : Page α} (hcursor : page.cursor = .ofItems page.items)
    (hrefresh : kind = .refresh → page.items = [] → f.items = [])
    (hends : kind ≠ .refresh → f.Anchored) :
    (f.exchange kind callback (.ok page)).Anchored := by
  let g : Feed α κ := { f.sent kind callback with pending := [] }
  have hmerged : (g.merge kind page).Anchored := by
    refine anchored_merge_of_cursor hcursor ?_ fun hk => ?_
    · rintro rfl
      exact ⟨⟨rfl, rfl⟩, hrefresh rfl⟩
    · have hf := hends hk
      cases kind with
      | refresh => exact absurd rfl hk
      | newer | older => exact ⟨hf.newer, hf.older, hf.unset⟩
  rw [exchange_ok h]
  exact ⟨hmerged.newer, hmerged.older, hmerged.unset⟩

include h in
/-- A failure leaves the cursors where they are, unless a refresh has forgotten them. -/
theorem anchored_exchange_error (hk : kind ≠ .refresh) (hf : f.Anchored) (why : Failure) :
    (f.exchange kind callback (.error why)).Anchored := by
  rw [exchange_error h]
  cases kind with
  | refresh => exact absurd rfl hk
  | newer | older => exact ⟨hf.newer, hf.older, hf.unset⟩

end Cursors

/-- The item of the list next to which a request of some kind wants others. -/
def nearest (f : Feed α κ) : RequestKind → Option α
  | .refresh => none
  | .newer => f.items.head?
  | .older => f.items.getLast?

/-! ## Exchanges with an archive -/

variable [Identified α]

theorem Anchored.bound_eq {f : Feed α κ} (h : f.Anchored) (kind : RequestKind) :
    f.paging.bound kind = (f.nearest kind).map Identified.id := by
  cases kind with
  | refresh => rfl
  | newer => exact h.newer
  | older => exact h.older

/-- The archive is in order and has what is on the list. -/
structure Follows (f : Feed α κ) (a : Archive α) : Prop where
  size : a.pageSize ≠ 0
  ordered : Descending a.items
  held : ∀ item ∈ f.items, item ∈ a.items

/-- The list is in order as well, with the cursors at its ends. -/
structure Tracks (f : Feed α κ) (a : Archive α) : Prop extends f.Follows a where
  sorted : NewestFirst f.items
  anchored : f.Anchored

/-- The page that an archive has for a feed. -/
abbrev pageFrom (f : Feed α κ) (a : Archive α) (kind : RequestKind) : Page α :=
  Source.pageOf a kind (f.paging.bound kind)

section Archive

variable {f : Feed α κ} {a : Archive α}

theorem follows_create (settings : Settings) (ha : Descending a.items) (hsize : a.pageSize ≠ 0) :
    (create settings [] .initial : Feed α κ).Follows a :=
  ⟨hsize, ha, by simp [create]⟩

theorem tracks_create (settings : Settings) (ha : Descending a.items) (hsize : a.pageSize ≠ 0) :
    (create settings [] .initial : Feed α κ).Tracks a :=
  ⟨follows_create settings ha hsize, .nil, rfl, rfl, fun _ => ⟨rfl, rfl⟩⟩

theorem tracks_create_ofList (settings : Settings) {items : List α}
    (distinct : (items.map Identified.id).Nodup) (n : Nat) :
    (create settings [] .initial : Feed α κ).Tracks ((Archive.ofList items).withPageSize n) :=
  tracks_create settings (Archive.descending_ofList distinct) (Nat.ne_of_gt (Nat.le_max_right n 1))

theorem Follows.push (h : f.Follows a) {item : α}
    (hnew : ∀ other ∈ a.items, Identified.id other < Identified.id item) :
    f.Follows (a.push item) := by
  have hitems := Archive.items_push_of_newest hnew
  refine ⟨h.size, ?_, fun other ho => ?_⟩
  · rw [hitems]
    exact List.pairwise_cons.2 ⟨hnew, h.ordered⟩
  · rw [hitems]
    exact List.mem_cons_of_mem item (h.held other ho)

theorem Tracks.push (h : f.Tracks a) {item : α}
    (hnew : ∀ other ∈ a.items, Identified.id other < Identified.id item) :
    f.Tracks (a.push item) :=
  ⟨h.toFollows.push hnew, h.sorted, h.anchored⟩

/-- The newest page is empty only if the list is. -/
theorem Follows.items_eq_nil (h : f.Follows a) (hnil : (f.pageFrom a .refresh).items = []) :
    f.items = [] :=
  List.eq_nil_iff_forall_not_mem.2 fun item hi =>
    Source.pageOf_ne_nil h.ordered h.size (h.held item hi) rfl hnil

theorem Follows.items_exchange (h : f.Follows a) (hpending : f.pending = []) (kind : RequestKind)
    (callback : Option κ) : (f.exchange kind callback (.ok (f.pageFrom a kind))).items =
      kind.join (f.pageFrom a kind).items f.items := by
  refine Feed.items_exchange hpending kind callback _ ?_
  rintro rfl
  exact h.items_eq_nil

/-- After an exchange the list has what is on the page, and unless it was a refresh, what it had. -/
theorem Follows.mem_items_exchange (h : f.Follows a) (hpending : f.pending = [])
    (kind : RequestKind) (callback : Option κ) (item : α) :
    item ∈ (f.exchange kind callback (.ok (f.pageFrom a kind))).items ↔
      item ∈ (f.pageFrom a kind).items ∨ (kind ≠ .refresh ∧ item ∈ f.items) := by
  rw [h.items_exchange hpending]
  cases kind <;> simp [RequestKind.join, or_comm]

theorem Follows.exchange (h : f.Follows a) (hpending : f.pending = []) (kind : RequestKind)
    (callback : Option κ) : (f.exchange kind callback (.ok (f.pageFrom a kind))).Follows a := by
  refine ⟨h.size, h.ordered, fun item hi => ?_⟩
  rcases (h.mem_items_exchange hpending kind callback item).1 hi with hi | ⟨-, hi⟩
  · exact (Source.mem_pageOf hi).1
  · exact h.held item hi

theorem Follows.exchange_error (h : f.Follows a) (hpending : f.pending = []) (kind : RequestKind)
    (callback : Option κ) (why : Failure) : (f.exchange kind callback (.error why)).Follows a := by
  refine ⟨h.size, h.ordered, ?_⟩
  rw [items_exchange_error hpending]
  exact h.held

/-- Newer items are those above the whole list. -/
theorem Tracks.newer_iff (h : f.Tracks a) {n : Int64} :
    RequestKind.newer.admits (f.paging.bound .newer) n = true ↔
      ∀ old ∈ f.items, Identified.id old < n := by
  show f.paging.newerThan.all (· < n) = true ↔ _
  rw [h.anchored.newer]
  cases hfirst : f.items.head? with
  | none => simp [List.head?_eq_none_iff.1 hfirst]
  | some first =>
    simp only [Option.map_some, Option.all_some, decide_eq_true_eq]
    exact ⟨fun hn old ho => Int64.lt_of_le_of_lt (h.sorted.le_head hfirst old ho) hn,
      fun hall => hall first (List.mem_of_head? hfirst)⟩

/-- Older items are not above anything on the list. -/
theorem Tracks.le_of_older (h : f.Tracks a) {n : Int64}
    (hn : RequestKind.older.admits (f.paging.bound .older) n = true) :
    ∀ old ∈ f.items, n ≤ Identified.id old := by
  intro old ho
  obtain ⟨last, hlast⟩ : ∃ last, f.items.getLast? = some last :=
    ⟨_, List.getLast?_eq_some_getLast (List.ne_nil_of_mem ho)⟩
  have hn : (inclusiveBound f.paging.olderThan).all (n ≤ ·) = true := hn
  rw [h.anchored.older, hlast] at hn
  exact Int64.le_trans (le_of_le_inclusiveBound hn) (h.sorted.last_le hlast old ho)

/-- Whatever is below the whole list is an older item. -/
theorem Tracks.older_of_lt (h : f.Tracks a) {n : Int64}
    (hn : ∀ old ∈ f.items, n < Identified.id old) :
    RequestKind.older.admits (f.paging.bound .older) n = true := by
  show (inclusiveBound f.paging.olderThan).all (n ≤ ·) = true
  rw [h.anchored.older]
  cases hlast : f.items.getLast? with
  | none => rfl
  | some last => exact all_le_inclusiveBound_of_lt (hn last (List.mem_of_getLast? hlast))

/-- A refresh puts the list and the cursors in step, whatever they were before. -/
theorem Follows.tracks_exchange (h : f.Follows a) (hpending : f.pending = []) {kind : RequestKind}
    (hf : kind ≠ .refresh → f.Tracks a) (callback : Option κ) :
    (f.exchange kind callback (.ok (f.pageFrom a kind))).Tracks a := by
  have hrefresh : kind = .refresh → (f.pageFrom a kind).items = [] → f.items = [] := by
    rintro rfl
    exact h.items_eq_nil
  have hanchored := anchored_exchange hpending callback (Source.cursor_pageOf _ _ _) hrefresh
    fun hk => (hf hk).anchored
  refine ⟨h.exchange hpending kind callback, ?_, hanchored⟩
  have hpage : NewestFirst (f.pageFrom a kind).items :=
    (Source.descending_pageOf h.ordered).newestFirst
  rw [h.items_exchange hpending]
  cases kind with
  | refresh => exact hpage
  | newer =>
    have hf := hf (by decide)
    refine hpage.append hf.sorted fun item hi old ho => ?_
    exact Int64.le_of_lt (hf.newer_iff.1 (Source.mem_pageOf hi).2 old ho)
  | older =>
    have hf := hf (by decide)
    exact hf.sorted.append hpage fun old ho item hi =>
      hf.le_of_older (Source.mem_pageOf hi).2 old ho

theorem Tracks.exchange (h : f.Tracks a) (hpending : f.pending = []) (kind : RequestKind)
    (callback : Option κ) : (f.exchange kind callback (.ok (f.pageFrom a kind))).Tracks a :=
  h.toFollows.tracks_exchange hpending (fun _ => h) callback

theorem Tracks.exchange_error (h : f.Tracks a) (hpending : f.pending = []) {kind : RequestKind}
    (hk : kind ≠ .refresh) (callback : Option κ) (why : Failure) :
    (f.exchange kind callback (.error why)).Tracks a := by
  refine ⟨h.toFollows.exchange_error hpending kind callback why, ?_,
    anchored_exchange_error hpending callback hk h.anchored why⟩
  rw [items_exchange_error hpending]
  exact h.sorted

end Archive

end Feed

end Newsfeed
