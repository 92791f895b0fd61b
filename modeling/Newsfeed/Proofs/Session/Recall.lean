import Newsfeed.Proofs.Feed.Anchored
import Newsfeed.Proofs.Session.Served

/-!
# Cursors and edges out of history

What a feed knows about its two ends can be read off the pages that have been applied since a
refresh last went out, in the order in which they were: for each end the cursor of the last
page with items that came for it or, failing that, of the first page with items at all, and
whether the last page that came for it had items.  Refusals, failures and pages that are
still under way leave no trace.
-/

namespace Newsfeed

variable {α κ : Type}

/-- The pages that were requested for some purposes. -/
def pagesFor (side : RequestKind → Bool) (pages : List (RequestKind × Page α)) :
    List (RequestKind × Page α) := pages.filter (side ·.1)

/-- The pages with items. -/
def filledPages (pages : List (RequestKind × Page α)) : List (RequestKind × Page α) :=
  pages.filter (!·.2.isEmpty)

/-- What some pages say about the end that pages for some purposes extend. -/
def Edge.recall (side : RequestKind → Bool) (pages : List (RequestKind × Page α)) : Edge :=
  match (pagesFor side pages).getLast? with
  | none => .unknown
  | some (_, page) => if page.isEmpty then .exhausted else .hasMore

/-- The cursor that some pages leave at the end that pages for some purposes extend. -/
def Cursor.recall (side : RequestKind → Bool) (pages : List (RequestKind × Page α)) :
    Option Cursor :=
  ((pagesFor side (filledPages pages)).getLast? <|> (filledPages pages).head?).map (·.2.cursor)

/-- What some pages leave behind, with the flag as given. A refresh and a request for newer items
bring pages for the newer end. -/
def Paging.recall (pages : List (RequestKind × Page α)) (inFlight : Bool) : Paging where
  newer := Cursor.recall (· ≠ .older) pages
  older := Cursor.recall (· = .older) pages
  newerEdge := Edge.recall (· ≠ .older) pages
  olderEdge := Edge.recall (· = .older) pages
  inFlight := inFlight

section Recall

variable (side : RequestKind → Bool) (pages : List (RequestKind × Page α)) (kind : RequestKind)
  (page : Page α)

theorem Edge.recall_concat : Edge.recall side (pages ++ [(kind, page)]) =
    if side kind then if page.isEmpty then .exhausted else .hasMore
    else Edge.recall side pages := by
  unfold Edge.recall pagesFor
  cases h : side kind <;> simp [List.filter_append, h]

/-- Without a page for the end itself, the first page with items gives the cursor. -/
theorem Cursor.recall_concat : Cursor.recall side (pages ++ [(kind, page)]) =
    if page.isEmpty then Cursor.recall side pages
    else if side kind then some page.cursor
    else Cursor.recall side pages <|> some page.cursor := by
  unfold Cursor.recall pagesFor filledPages
  cases he : page.isEmpty with
  | true => simp [List.filter_append, he]
  | false =>
    cases h : side kind with
    | true => simp [List.filter_append, he, h]
    | false =>
      simp only [List.filter_append, List.filter_cons, he, h, List.filter_nil, List.append_nil,
        List.head?_append, Bool.not_false, if_true, Bool.false_eq_true, if_false]
      cases ((pages.filter (!·.2.isEmpty)).filter (side ·.1)).getLast? with
      | some x => rfl
      | none => cases (pages.filter (!·.2.isEmpty)).head? <;> rfl

theorem Cursor.recall_eq_none_iff :
    Cursor.recall side pages = none ↔ filledPages pages = [] := by
  unfold Cursor.recall
  cases h : filledPages pages with
  | nil => simp [pagesFor]
  | cons x xs =>
    cases (pagesFor side (x :: xs)).getLast? <;> simp

end Recall

/-- The state of paging recalls one page more once it is merged. -/
theorem Feed.paging_merge {f : Feed α κ} {pages : List (RequestKind × Page α)} {inFlight : Bool}
    (h : f.paging = .recall pages inFlight) (kind : RequestKind) (page : Page α) :
    (f.merge kind page).paging = .recall (pages ++ [(kind, page)]) inFlight := by
  unfold merge Paging.recall
  rw [Cursor.recall_concat, Cursor.recall_concat, Edge.recall_concat, Edge.recall_concat]
  cases he : page.isEmpty <;> cases kind <;>
    simp [h, Paging.recall, Paging.setNewer, Paging.setOlder, Paging.fill]

namespace Traffic

/-- The state of paging recalls the pages that were applied since a refresh last went out. -/
structure Recalls (t : Traffic α κ) (log : List (Deed α κ)) : Prop extends t.Ledger log where
  paging : t.feed.paging = .recall (served log (sinceDeparture log)) t.feed.paging.inFlight

variable {t u : Traffic α κ} {log : List (Deed α κ)} {d : Option (Deed α κ)}

/-- A deed that is no departure adds to the pages what it serves. -/
theorem Books.served_sinceDeparture (h : t.Books log) {d : Deed α κ} (hd : d.isDeparture = false) :
    served (log ++ [d]) (sinceDeparture (log ++ [d])) =
      served log (sinceDeparture log) ++ served (log ++ [d]) [d] := by
  rw [sinceDeparture_concat, hd]
  exact h.served_append (fun _ he => mem_of_mem_sinceDeparture he) [d]

theorem Recalls.step (h : t.Recalls log) (hs : t.Step d u) : u.Recalls (log ++ d.toList) := by
  refine ⟨h.toLedger.step hs, ?_⟩
  -- a deed that serves nothing and is no departure changes nothing to recall
  have same {e : Deed α κ} (hdeparture : e.isDeparture = false)
      (hpage : served (log ++ [e]) [e] = []) :
      served (log ++ [e]) (sinceDeparture (log ++ [e])) = served log (sinceDeparture log) := by
    rw [h.served_sinceDeparture hdeparture, hpage, List.append_nil]
  cases hs with
  | still => simpa using h.paging
  | released => simpa using h.paging
  | refused =>
    rw [Option.toList_some, same rfl rfl]
    exact h.paging
  | answered =>
    rw [Option.toList_some, same rfl rfl]
    exact h.paging
  | stray hw hp => exact absurd hp (h.not_stray hw)
  | @issued kind callback hr =>
    show t.feed.paging.requested kind = .recall _ (t.feed.paging.requested kind).inFlight
    cases kind with
    | refresh =>
      have hnone : sinceDeparture (log ++ [.issued (t.feed.nextFetch .refresh) callback]) = [] :=
        sinceDeparture_concat log _
      rw [Option.toList_some, hnone]
      rfl
    | newer | older =>
      rw [Option.toList_some, same rfl rfl]
      show t.feed.paging.depart = _
      rw [h.paging]
      rfl
  | @applied request result waiting p hw hp =>
    show (t.feed.complete request result).1.paging =
      .recall _ (t.feed.complete request result).1.paging.inFlight
    rw [Option.toList_some, Feed.inFlight_complete hp]
    cases result with
    | error why =>
      rw [same rfl rfl, Feed.complete_error hp]
      show t.feed.paging.finish = _
      rw [h.paging]
      rfl
    | ok page =>
      have hmerge := Feed.paging_merge (f := { t.feed with
        pending := t.feed.pending.filter (·.id ≠ request) }) h.paging p.kind page
      rw [h.served_sinceDeparture rfl, h.served_applied hp, Feed.complete_ok hp]
      dsimp only
      rw [hmerge]
      rfl

end Traffic

namespace Session

variable [Identified α]

/-- What is known about the ends of the list is what the pages since the last departure of a refresh
leave behind, and the two cursors are set together. -/
theorem paging_run_eq_recall (settings : Settings) (items : List α) (source : Source α)
    (actions : List (Action α κ)) :
    let s : Session α κ := create settings items .initial source
    let t := s.run actions
    let log := s.log actions
    t.feed.paging = .recall (served log (sinceDeparture log)) t.feed.paging.inFlight ∧
      (t.feed.paging.newer = none ↔ t.feed.paging.older = none) := by
  intro s t log
  have h : t.traffic.Recalls log :=
    log_induction (P := fun u log => u.traffic.Recalls log)
      (fun u log m hu => hu.step (step_move hu.nodup_running m))
      ⟨ledger_create settings items .initial source, rfl⟩ actions
  refine ⟨h.paging, ?_⟩
  have hpaging : t.feed.paging = _ := h.paging
  rw [hpaging]
  exact (Cursor.recall_eq_none_iff _ _).trans (Cursor.recall_eq_none_iff _ _).symm

end Session

end Newsfeed
