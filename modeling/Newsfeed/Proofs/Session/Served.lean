import Mathlib.Data.List.DropRight
import Newsfeed.Proofs.Session.Accounting

/-!
# The pages that were served

A result only says to which request it belongs; what the request was for is known since it was
issued.  `served` reads off a log the pages that were applied, each with what it was requested for,
and `Traffic.Ledger` says that a feed remembers this of every request that is pending.  Since the
numbers of requests are distinct, what a deed has served is not changed by later deeds
(`served_append`).
-/

namespace Newsfeed

variable {α κ : Type}

/-- What the request with a number was issued for. -/
def kindIn (log : List (Deed α κ)) (request : Nat) : Option RequestKind :=
  log.findSome? fun
    | .issued fetch _ => if fetch.id = request then some fetch.kind else none
    | _ => none

/-- The page that a deed applies, with what the log says that it was requested for. -/
def Deed.page? (log : List (Deed α κ)) : Deed α κ → Option (RequestKind × Page α)
  | .applied request _ (.ok page) => (kindIn log request).map (·, page)
  | _ => none

/-- The pages that some deeds of a log apply, in order. -/
def served (log deeds : List (Deed α κ)) : List (RequestKind × Page α) :=
  deeds.filterMap (Deed.page? log)

/-- A refresh goes out. -/
def Deed.isDeparture : Deed α κ → Bool
  | .issued fetch _ => fetch.kind = .refresh
  | _ => false

/-- The deeds since a refresh last went out. -/
def sinceDeparture (log : List (Deed α κ)) : List (Deed α κ) :=
  log.rtakeWhile fun d => !d.isDeparture

theorem sinceDeparture_concat (log : List (Deed α κ)) (d : Deed α κ) :
    sinceDeparture (log ++ [d]) = if d.isDeparture then [] else sinceDeparture log ++ [d] := by
  rw [sinceDeparture, List.rtakeWhile_concat]
  cases h : d.isDeparture <;> simp [sinceDeparture]

theorem mem_of_mem_sinceDeparture {log : List (Deed α κ)} {d : Deed α κ}
    (h : d ∈ sinceDeparture log) : d ∈ log :=
  (List.rtakeWhile_suffix _ log).subset h

theorem kindIn_append {log : List (Deed α κ)} {request : Nat} {kind : RequestKind}
    (h : kindIn log request = some kind) (more : List (Deed α κ)) :
    kindIn (log ++ more) request = some kind := by
  rw [kindIn] at h ⊢
  rw [List.findSome?_append, h]
  rfl

namespace Traffic

/-- The books of the traffic, in which the feed remembers what each pending request is for. -/
structure Ledger (t : Traffic α κ) (log : List (Deed α κ)) : Prop extends t.Books log where
  asked : ∀ p ∈ t.feed.pending, ∃ fetch, fetch.id = p.id ∧ fetch.kind = p.kind ∧
    .issued fetch p.callback ∈ log

section Books

variable {t : Traffic α κ} {log : List (Deed α κ)}

/-- The log knows what a request was issued for. -/
theorem Books.kindIn_issued (h : t.Books log) {fetch : Fetch} {callback : Option κ}
    (hf : .issued fetch callback ∈ log) : kindIn log fetch.id = some fetch.kind := by
  cases hk : kindIn log fetch.id with
  | none =>
    have := List.findSome?_eq_none_iff.1 hk _ hf
    simp at this
  | some kind =>
    obtain ⟨d, hd, hkind⟩ := List.exists_of_findSome?_eq_some hk
    cases d with
    | issued other c =>
      simp only [Option.ite_none_right_eq_some] at hkind
      obtain ⟨hid, hkind⟩ := hkind
      rw [← h.fetch_unique hd hf hid]
      exact hkind.symm
    | _ => cases hkind

theorem Books.kindIn_applied (h : t.Books log) {request : Nat} {callback : Option κ}
    {result : Result α} (ha : .applied request callback result ∈ log) :
    ∃ kind, kindIn log request = some kind := by
  obtain ⟨fetch, rfl, hf, -⟩ := h.exists_issued_of_applied ha
  exact ⟨_, h.kindIn_issued hf⟩

theorem Books.page?_append (h : t.Books log) {d : Deed α κ} (hd : d ∈ log)
    (more : List (Deed α κ)) : d.page? (log ++ more) = d.page? log := by
  cases d with
  | applied request callback result =>
    obtain ⟨kind, hk⟩ := h.kindIn_applied hd
    cases result with
    | ok page => rw [Deed.page?, Deed.page?, hk, kindIn_append hk]
    | error why => rfl
  | _ => rfl

/-- Later deeds serve their own pages, and change nothing about the earlier ones. -/
theorem Books.served_append (h : t.Books log) {deeds : List (Deed α κ)}
    (hsub : ∀ d ∈ deeds, d ∈ log) (more : List (Deed α κ)) :
    served (log ++ more) (deeds ++ more) = served log deeds ++ served (log ++ more) more := by
  rw [served, List.filterMap_append]
  refine congrArg (· ++ _) (List.filterMap_congr fun d hd => ?_)
  exact h.page?_append (hsub d hd) more

end Books

namespace Ledger

variable {t u : Traffic α κ} {log : List (Deed α κ)} {d : Option (Deed α κ)}

theorem kindIn_pending (h : t.Ledger log) {p : Pending κ} (hp : p ∈ t.feed.pending) :
    kindIn log p.id = some p.kind := by
  obtain ⟨fetch, hid, hkind, hf⟩ := h.asked p hp
  rw [← hid, ← hkind]
  exact h.kindIn_issued hf

/-- A running call asks for what its request is for. -/
theorem kind_of_running (h : t.Ledger log) {c : Call α} (hc : c ∈ t.running) :
    ∃ p ∈ t.feed.pending, p.id = c.fetch.id ∧ p.kind = c.fetch.kind := by
  have hid : c.fetch.id ∈ t.feed.pending.map Pending.id :=
    h.called.mem_iff.2 (List.mem_append_left _ (List.mem_map_of_mem hc))
  obtain ⟨p, hp, hid⟩ := List.mem_map.1 hid
  obtain ⟨callback, hf⟩ := h.issued c hc
  have hkind := h.kindIn_pending hp
  rw [hid, h.kindIn_issued hf] at hkind
  exact ⟨p, hp, hid, (Option.some.inj hkind).symm⟩

/-- A page that is applied was requested for what its pending request is for. -/
theorem page?_applied (h : t.Ledger log) {request : Nat} {p : Pending κ}
    (hp : t.feed.pending.find? (·.id = request) = some p) (callback : Option κ) (page : Page α)
    (more : List (Deed α κ)) :
    (Deed.applied request callback (.ok page)).page? (log ++ more) = some (p.kind, page) := by
  have hid : p.id = request := by simpa using List.find?_some hp
  have hkind := h.kindIn_pending (List.mem_of_find?_eq_some hp)
  rw [Deed.page?, ← hid, kindIn_append hkind]
  rfl

/-- The result of a pending request serves its page. -/
theorem served_applied (h : t.Ledger log) {request : Nat} {p : Pending κ}
    (hp : t.feed.pending.find? (·.id = request) = some p) (callback : Option κ) (page : Page α)
    (more : List (Deed α κ)) :
    served (log ++ more) [.applied request callback (.ok page)] = [(p.kind, page)] := by
  rw [served, List.filterMap_cons_some (h.page?_applied hp callback page more)]
  rfl

theorem asked_step (h : t.Ledger log) (hs : t.Step d u) : ∀ p ∈ u.feed.pending,
    ∃ fetch, fetch.id = p.id ∧ fetch.kind = p.kind ∧
      .issued fetch p.callback ∈ log ++ d.toList := by
  have old {p : Pending κ} (hp : p ∈ t.feed.pending) : ∃ fetch, fetch.id = p.id ∧
      fetch.kind = p.kind ∧ .issued fetch p.callback ∈ log ++ d.toList := by
    obtain ⟨fetch, hid, hkind, hf⟩ := h.asked p hp
    exact ⟨fetch, hid, hkind, List.mem_append_left _ hf⟩
  intro p hp
  cases hs with
  | @issued kind callback =>
    rcases List.mem_append.1 hp with hp | hp
    · exact old hp
    · obtain rfl := List.mem_singleton.1 hp
      exact ⟨t.feed.nextFetch kind, rfl, rfl,
        List.mem_append_right _ (List.mem_singleton_self _)⟩
  | @applied request result =>
    have hp : p ∈ (t.feed.complete request result).1.pending := hp
    rw [Feed.pending_complete] at hp
    exact old (List.mem_filter.1 hp).1
  | _ => exact old hp

theorem step (h : t.Ledger log) (hs : t.Step d u) : u.Ledger (log ++ d.toList) :=
  ⟨h.toBooks.step hs, h.asked_step hs⟩

end Ledger

end Traffic

namespace Session

theorem ledger_create (settings : Settings) (items : List α) (paging : Paging) (source : Source α) :
    (create settings items paging source : Session α κ).traffic.Ledger [] :=
  ⟨books_create settings items paging source, fun _ hp => nomatch hp⟩

end Session

end Newsfeed
