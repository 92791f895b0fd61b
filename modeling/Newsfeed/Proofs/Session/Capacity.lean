import Newsfeed.Proofs.Session.Replay
import Newsfeed.Proofs.Session.SingleFlight

/-!
# How long a list grows

Whether there is room is asked when a request goes out, but the page is merged whole when the result
is applied.  Under the gated policy nothing else is pending meanwhile, so the list is still as it
was when the request went out (`Traffic.Guarded`).  A list therefore grows beyond the capacity by at
most one page, less one item, and once it is full only the page of a refresh changes it.
-/

namespace Newsfeed

variable {α κ : Type}

/-- The number of items that an answer brings. -/
def Deed.load : Deed α κ → Nat
  | .answered _ (.ok page) => page.items.length
  | _ => 0

/-- A page makes a list no longer than one page beyond what had room. -/
theorem length_listWith_le {items : List α} {kind : RequestKind} {page : Page α}
    {capacity n size : Nat} (hlen : items.length ≤ max n (max capacity 1 - 1 + size))
    (hroom : kind ≠ .refresh → items.length < capacity) (hpage : page.items.length ≤ size) :
    (listWith items (kind, page)).length ≤ max n (max capacity 1 - 1 + size) := by
  have hgrown (hk : kind ≠ .refresh) :
      items.length + page.items.length ≤ max n (max capacity 1 - 1 + size) := by
    have := hroom hk
    omega
  unfold listWith
  dsimp only
  split
  · exact hlen
  · cases kind with
    | refresh =>
      show page.items.length ≤ _
      omega
    | newer =>
      rw [List.length_append, Nat.add_comm]
      exact hgrown (by decide)
    | older =>
      rw [List.length_append]
      exact hgrown (by decide)

namespace Traffic

/-- While a request for newer or older items is pending, there is room as there was when it went
out. -/
structure Guarded (t : Traffic α κ) (log : List (Deed α κ)) : Prop extends t.Ledger log where
  gated : t.feed.settings.refresh = .gated
  flight : t.feed.Flight
  room : ∀ p ∈ t.feed.pending, p.kind ≠ .refresh → t.feed.hasRoom = true

variable {t u : Traffic α κ} {log : List (Deed α κ)} {d : Option (Deed α κ)}

/-- While the list is full, only a refresh goes out. -/
theorem kind_of_issued (full : t.feed.settings.capacity ≤ t.feed.items.length)
    (hs : t.Step d u) {fetch : Fetch} {callback : Option κ}
    (hd : d = some (.issued fetch callback)) : fetch.kind = .refresh := by
  cases hs with
  | @issued kind callback hr =>
    cases hd
    exact Classical.byContradiction fun hk =>
      Nat.not_lt.2 full (Feed.hasRoom_iff.1 (hr.allowed.2 hk))
  | _ => cases hd

namespace Guarded

theorem step (h : t.Guarded log) (hs : t.Step d u) : u.Guarded (log ++ d.toList) := by
  have hledger := h.toLedger.step hs
  cases hs with
  | @issued kind callback hr =>
    refine ⟨hledger, h.gated, h.flight.of_responds hr, fun p hp hk => ?_⟩
    -- the new request is the only one
    have hp : p ∈ t.feed.pending ++ [⟨t.feed.nextRequest, kind, callback⟩] := hp
    rw [h.flight.pending_eq_nil h.gated hr, List.nil_append, List.mem_singleton] at hp
    subst hp
    exact hr.allowed.2 hk
  | @applied request result waiting p hw hp =>
    have hgated := (Feed.settings_complete t.feed request result).symm ▸ h.gated
    have hnil := h.flight.pending_complete_eq_nil h.gated hp result
    refine ⟨hledger, hgated, h.flight.complete request result, fun q hq => ?_⟩
    have hq : q ∈ (t.feed.complete request result).1.pending := hq
    rw [hnil] at hq
    cases hq
  | _ => exact ⟨hledger, h.gated, h.flight, h.room⟩

theorem length_step (h : t.Guarded log) (hs : t.Step d u) {n size : Nat}
    (hsize : ∀ e ∈ log ++ d.toList, e.load ≤ size)
    (hlen : t.feed.items.length ≤ max n (max t.feed.settings.capacity 1 - 1 + size)) :
    u.feed.items.length ≤ max n (max u.feed.settings.capacity 1 - 1 + size) := by
  have hbooks := h.toBooks.step hs
  cases hs with
  | @applied request result waiting p hw hp =>
    show (t.feed.complete request result).1.items.length ≤
      max n (max (t.feed.complete request result).1.settings.capacity 1 - 1 + size)
    rw [Feed.settings_complete]
    cases result with
    | error why =>
      rw [Feed.complete_error hp]
      exact hlen
    | ok page =>
      obtain ⟨fetch, -, -, hanswer⟩ := hbooks.exists_issued_of_applied
        (List.mem_append_right _ (List.mem_singleton_self _))
      have hpage : page.items.length ≤ size := hsize _ hanswer
      have hroom (hk : p.kind ≠ .refresh) : t.feed.items.length < t.feed.settings.capacity :=
        Feed.hasRoom_iff.1 (h.room p (List.mem_of_find?_eq_some hp) hk)
      rw [Feed.items_complete_ok hp]
      exact length_listWith_le hlen hroom hpage
  | _ => exact hlen

/-! ## Full lists -/

section Full

variable (h : t.Guarded log) (full : t.feed.settings.capacity ≤ t.feed.items.length)
include h full

theorem kind_of_pending {p : Pending κ} (hp : p ∈ t.feed.pending) : p.kind = .refresh :=
  Classical.byContradiction fun hk => Nat.not_lt.2 full (Feed.hasRoom_iff.1 (h.room p hp hk))

/-- While the list is full, only the call of a refresh is answered. -/
theorem kind_of_answered (hs : t.Step d u) {fetch : Fetch} {result : Result α}
    (hd : d = some (.answered fetch result)) : fetch.kind = .refresh := by
  cases hs with
  | answered hc =>
    cases hd
    obtain ⟨p, hp, -, hkind⟩ := h.kind_of_running (hc ▸ List.mem_append_right _ List.mem_cons_self)
    exact hkind.symm.trans (h.kind_of_pending full hp)
  | _ => cases hd

/-- What changes a full list is a page with items that a refresh has brought. -/
theorem page_of_items_ne (hs : t.Step d u) (hne : u.feed.items ≠ t.feed.items) :
    ∃ page, d.bind (Deed.page? log) = some (.refresh, page) ∧ page.isEmpty = false ∧
      u.feed.items = page.items := by
  have hfills : d.any Deed.fills = true :=
    Classical.byContradiction fun hn => hne (items_step hs (Bool.eq_false_iff.2 hn))
  cases hs with
  | @applied request result waiting p hw hp =>
    cases result with
    | error why => cases hfills
    | ok page =>
      have hkind := h.kind_of_pending full (List.mem_of_find?_eq_some hp)
      have hpage := h.page?_applied hp p.callback page []
      have hempty : page.isEmpty = false := by simpa [Deed.fills] using hfills
      rw [List.append_nil, hkind] at hpage
      refine ⟨page, hpage, hempty, (Feed.items_complete_ok hp page).trans ?_⟩
      rw [hkind, listWith, hempty]
      rfl
  | _ => cases hfills

end Full

end Guarded

end Traffic

namespace Session

variable [Identified α]

/-- Under the gated policy, a list is never longer than it was at first or than one page beyond the
last length with room, if no answer brings more than a page.  While it is full, neither a request
for newer items nor one for older items goes out or is answered, and only the page of a refresh
changes the list. -/
theorem length_items_run (settings : Settings) (items : List α) {paging : Paging}
    (gated : settings.refresh = .gated) (idle : paging.inFlight = false) (source : Source α)
    (actions : List (Action α κ)) :
    let s : Session α κ := create settings items paging source
    let t := s.run actions
    let log := s.log actions
    (∀ size, (∀ d ∈ log, d.load ≤ size) →
      t.feed.items.length ≤ max items.length (max settings.capacity 1 - 1 + size)) ∧
    (settings.capacity ≤ t.feed.items.length →
      ∀ m, (∀ fetch callback, t.deed m = some (.issued fetch callback) → fetch.kind = .refresh) ∧
        (∀ fetch result, t.deed m = some (.answered fetch result) → fetch.kind = .refresh) ∧
        ((t.move m).feed.items ≠ t.feed.items →
          ∃ page, (t.deed m).bind (Deed.page? log) = some (.refresh, page) ∧
            page.isEmpty = false ∧ (t.move m).feed.items = page.items)) := by
  intro s t log
  have hsettings : t.feed.settings = settings := settings_run s actions
  obtain ⟨hguarded, hlen⟩ : t.traffic.Guarded log ∧ ∀ size, (∀ d ∈ log, d.load ≤ size) →
      t.feed.items.length ≤ max items.length (max t.feed.settings.capacity 1 - 1 + size) := by
    refine log_induction (P := fun u log => u.traffic.Guarded log ∧
      ∀ size, (∀ d ∈ log, d.load ≤ size) →
        u.feed.items.length ≤ max items.length (max u.feed.settings.capacity 1 - 1 + size))
      ?_ ⟨⟨ledger_create settings items paging source, gated,
        Feed.flight_create settings items idle, fun _ hp => nomatch hp⟩,
        fun _ _ => Nat.le_max_left _ _⟩ actions
    rintro u log m ⟨hu, hlen⟩
    have hstep := step_move hu.nodup_running m
    refine ⟨hu.step hstep, fun size hsize => hu.length_step hstep hsize (hlen size ?_)⟩
    exact fun d hd => hsize d (List.mem_append_left _ hd)
  rw [hsettings] at hlen
  refine ⟨hlen, fun full m => ?_⟩
  have full : t.traffic.feed.settings.capacity ≤ t.traffic.feed.items.length := hsettings ▸ full
  have hstep := step_move hguarded.nodup_running m
  exact ⟨fun _ _ => Traffic.kind_of_issued full hstep,
    fun _ _ => hguarded.kind_of_answered full hstep, hguarded.page_of_items_ne full hstep⟩

/-- A page of three goes beyond a capacity of two, up to the bound, and a refresh replaces the full
list. -/
theorem length_items_overfull :
    let settings : Settings := { Settings.standard with capacity := 2 }
    let source : Source Post := .scripted [some (.page (.ofItems [⟨3, none, none, none, none⟩,
      ⟨2, none, none, none, none⟩, ⟨1, none, none, none, none⟩])),
      some (.page (.ofItems [⟨5, none, none, none, none⟩]))] true
    let s : Session Post Nat := create settings [⟨4, none, none, none, none⟩] .initial source
    let actions : List (Action Post Nat) := [.move (.request .older none), .settle,
      .move (.request .refresh none), .move (.reach 1), .move (.release 1)]
    let t := s.run actions
    t.feed.items.length = max 1 (max 2 1 - 1 + 3) ∧
      ∃ page, (t.deed .applyNext).bind (Deed.page? (s.log actions)) = some (.refresh, page) ∧
        page.isEmpty = false ∧ (t.move .applyNext).feed.items = page.items := by
  intro settings source s actions t
  have h := length_items_run settings [⟨4, none, none, none, none⟩]
    (rfl : settings.refresh = .gated) (rfl : Paging.initial.inFlight = false) source actions
  subst t s
  refine ⟨Nat.le_antisymm (h.1 3 ?_) ?_, (h.2 ?_ .applyNext).2.2 ?_⟩ <;> decide +kernel

end Session

end Newsfeed
