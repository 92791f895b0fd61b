import Mathlib.Data.List.Basic
import Newsfeed.Proofs.Feed.Pages
import Newsfeed.Proofs.Feed.Requests

/-!
# Cursors at the ends of the list

Between requests the cursors of a feed that pages through an archive are the ids of the two ends
of its list.  While a request is out they say less: a refresh has forgotten them, so its page may
be empty only if the list is, and a page for either end must lie beyond the whole list, whatever
has been published in the meantime.  `Feed.Awaits` and `Feed.Suits` say this of the feed and of
the page that is on its way.
-/

namespace Newsfeed

variable {α κ : Type} [Identified α]

/-- Puts a page where its request wants it. -/
def RequestKind.join (kind : RequestKind) (page items : List α) : List α :=
  match kind with
  | .refresh => page
  | .newer => page ++ items
  | .older => items ++ page

namespace Feed

/-- The cursors stand at the ends of the list. -/
structure Anchored (f : Feed α κ) : Prop where
  newer : f.paging.newerThan = f.items.head?.map Identified.id
  older : f.paging.olderThan = f.items.getLast?.map Identified.id
  unset : f.items = [] → f.paging.newer = none ∧ f.paging.older = none

theorem Anchored.newer_ne_none {f : Feed α κ} (h : f.Anchored) (hne : f.items ≠ []) :
    f.paging.newer ≠ none := by
  intro hnone
  have hhead : none = f.items.head?.map Identified.id := by
    rw [← h.newer, Paging.newerThan, hnone]
    rfl
  exact hne (List.head?_eq_none_iff.1 (Option.map_eq_none_iff.1 hhead.symm))

theorem Anchored.older_ne_none {f : Feed α κ} (h : f.Anchored) (hne : f.items ≠ []) :
    f.paging.older ≠ none := by
  intro hnone
  have hlast : none = f.items.getLast?.map Identified.id := by
    rw [← h.older, Paging.olderThan, hnone]
    rfl
  exact hne (List.getLast?_eq_none_iff.1 (Option.map_eq_none_iff.1 hlast.symm))

/-- What the cursors are while a request of some kind is out. -/
def Awaits (f : Feed α κ) : RequestKind → Prop
  | .refresh => f.paging.newer = none ∧ f.paging.older = none
  | .newer => f.Anchored
  | .older => f.Anchored ∧ f.paging.olderThan ≠ some Int64.minValue

/-- The page is fit to be merged for a request of some kind. -/
structure Suits (f : Feed α κ) (a : Archive α) (kind : RequestKind) (page : Page α) : Prop where
  cursor : page.cursor = .ofItems page.items
  descending : Descending page.items
  held : ∀ item ∈ page.items, item ∈ a.items
  refresh : kind = .refresh → page.items = [] → f.items = []
  newer : kind = .newer →
    ∀ item ∈ page.items, ∀ old ∈ f.items, Identified.id old < Identified.id item
  older : kind = .older →
    ∀ old ∈ f.items, ∀ item ∈ page.items, Identified.id item < Identified.id old

section Congr

variable {f g : Feed α κ} (hi : g.items = f.items) (hp : g.paging = f.paging)

include hi hp in
theorem Anchored.congr (h : f.Anchored) : g.Anchored := by
  refine ⟨?_, ?_, ?_⟩ <;> rw [hi, hp]
  exacts [h.newer, h.older, h.unset]

include hi hp in
theorem Awaits.congr {kind : RequestKind} (h : f.Awaits kind) : g.Awaits kind := by
  cases kind with
  | refresh => exact ⟨by rw [hp]; exact h.1, by rw [hp]; exact h.2⟩
  | newer => exact Anchored.congr hi hp h
  | older => exact ⟨Anchored.congr hi hp h.1, by rw [hp]; exact h.2⟩

include hi in
theorem Suits.congr {a : Archive α} {kind : RequestKind} {page : Page α}
    (h : f.Suits a kind page) : g.Suits a kind page := by
  refine ⟨h.cursor, h.descending, h.held, ?_, ?_, ?_⟩ <;> rw [hi]
  exacts [h.refresh, h.newer, h.older]

end Congr

/-! ## Requests -/

omit [Identified α] in
theorem bound_sent (f : Feed α κ) (kind : RequestKind) (callback : Option κ) :
    (f.sent kind callback).paging.bound kind = f.paging.bound kind := by
  cases kind <;> rfl

/-- A feed whose cursors stand at the ends of its list is ready for any request. -/
theorem Anchored.awaits_sent {f : Feed α κ} (h : f.Anchored) {kind : RequestKind}
    (hleast : kind = .older → f.paging.olderThan ≠ some Int64.minValue) (callback : Option κ) :
    (f.sent kind callback).Awaits kind := by
  have hsent : kind ≠ .refresh → (f.sent kind callback).Anchored := by
    intro hk
    cases kind with
    | refresh => exact absurd rfl hk
    | newer | older => exact ⟨h.newer, h.older, h.unset⟩
  cases kind with
  | refresh => exact ⟨rfl, rfl⟩
  | newer => exact hsent (by decide)
  | older => exact ⟨hsent (by decide), hleast rfl⟩

/-- The page that the archive has for a request is fit for it. -/
theorem suits_pageOf {f : Feed α κ} {a : Archive α} {kind : RequestKind}
    (hsize : a.pageSize ≠ 0) (ha : Descending a.items) (hf : Descending f.items)
    (hheld : ∀ item ∈ f.items, item ∈ a.items) (h : f.Awaits kind) :
    f.Suits a kind (Source.pageOf a kind (f.paging.bound kind)) := by
  have hpage : ∃ since upTo, Source.pageOf a kind (f.paging.bound kind) = a.query since upTo := by
    cases kind <;> exact ⟨_, _, rfl⟩
  obtain ⟨since, upTo, hq⟩ := hpage
  refine ⟨?_, ?_, ?_, ?_, ?_, ?_⟩
  · rw [hq, Archive.cursor_query]
  · rw [hq]
    exact ha.sublist (Archive.sublist_query a since upTo)
  · rw [hq]
    exact fun item hi => (Archive.mem_query a since upTo hi).1
  · rintro rfl hnil
    have hnil : (a.query none none).items = [] := hnil
    refine List.eq_nil_iff_forall_not_mem.2 fun item hi => ?_
    exact Archive.not_mem_of_query_eq_nil hsize hnil (hheld item hi) rfl rfl
  · rintro rfl item hi old ho
    have hi : f.paging.newerThan.all (· < Identified.id item) := (Archive.mem_query a _ _ hi).2.2
    rw [Anchored.newer h] at hi
    cases hfirst : f.items.head? with
    | none => rw [List.head?_eq_none_iff.1 hfirst] at ho; cases ho
    | some first =>
      rw [hfirst] at hi
      exact Int64.lt_of_le_of_lt (hf.le_head hfirst old ho) (by simpa using hi)
  · rintro rfl old ho item hi
    have hi : (inclusiveBound f.paging.olderThan).all (Identified.id item ≤ ·) :=
      (Archive.mem_query a _ _ hi).2.1
    have hleast := h.2
    rw [h.1.older] at hi hleast
    cases hlast : f.items.getLast? with
    | none => rw [List.getLast?_eq_none_iff.1 hlast] at ho; cases ho
    | some last =>
      rw [hlast] at hi hleast
      have hlt := lt_of_le_inclusiveBound (fun he => hleast (congrArg some he)) hi
      exact Int64.lt_of_lt_of_le hlt (hf.last_le hlast old ho)

/-! ## Pages -/

omit [Identified α] in
theorem olderThan_setNewer (p : Paging) (c : Cursor) :
    (p.setNewer (some c)).olderThan = if p.older = none then c.oldest else p.olderThan := by
  cases h : p.older <;> simp [Paging.setNewer, Paging.fill, Paging.olderThan, h]

omit [Identified α] in
theorem newerThan_setOlder (p : Paging) (c : Cursor) :
    (p.setOlder (some c)).newerThan = if p.newer = none then c.newest else p.newerThan := by
  cases h : p.newer <;> simp [Paging.setOlder, Paging.fill, Paging.newerThan, h]

/-- A page leaves the cursors at the ends of the list if its own cursor stands at its ends. -/
theorem anchored_merge_of_cursor {f : Feed α κ} {kind : RequestKind} {page : Page α}
    (hcursor : page.cursor = .ofItems page.items)
    (hrefresh : kind = .refresh → (f.paging.newer = none ∧ f.paging.older = none) ∧
      (page.items = [] → f.items = []))
    (hends : kind ≠ .refresh → f.Anchored) : (f.merge kind page).Anchored := by
  unfold merge
  by_cases hempty : page.isEmpty = true
  · rw [if_pos hempty]
    cases kind with
    | refresh =>
      obtain ⟨hnone, hnil⟩ := hrefresh rfl
      have hitems : f.items = [] := hnil (List.isEmpty_iff.1 hempty)
      refine ⟨?_, ?_, fun _ => hnone⟩
      · simp [Paging.newerThan, hnone.1, hitems]
      · simp [Paging.olderThan, hnone.2, hitems]
    | newer | older =>
      have h := hends (by decide)
      exact ⟨h.newer, h.older, h.unset⟩
  · rw [if_neg hempty]
    have hne : page.items ≠ [] := fun he => hempty (List.isEmpty_iff.2 he)
    have hnewest : page.cursor.newest = page.items.head?.map Identified.id := by
      rw [hcursor]; rfl
    have holdest : page.cursor.oldest = page.items.getLast?.map Identified.id := by
      rw [hcursor]; rfl
    cases kind with
    | refresh =>
      refine ⟨hnewest, ?_, fun he => absurd he hne⟩
      show (f.paging.setNewer (some page.cursor)).olderThan = _
      rw [olderThan_setNewer, if_pos (hrefresh rfl).1.2, holdest]
    | newer =>
      have h := hends (by decide)
      refine ⟨?_, ?_, fun he => absurd (List.append_eq_nil_iff.1 he).1 hne⟩
      · show page.cursor.newest = _
        rw [hnewest, List.head?_append_of_ne_nil _ hne]
      · show (f.paging.setNewer (some page.cursor)).olderThan = _
        rw [olderThan_setNewer]
        by_cases hitems : f.items = []
        · rw [if_pos (h.unset hitems).2, holdest, hitems, List.append_nil]
        · rw [if_neg (h.older_ne_none hitems), h.older, List.getLast?_append_of_ne_nil _ hitems]
    | older =>
      have h := hends (by decide)
      refine ⟨?_, ?_, fun he => absurd (List.append_eq_nil_iff.1 he).2 hne⟩
      · show (f.paging.setOlder (some page.cursor)).newerThan = _
        rw [newerThan_setOlder]
        by_cases hitems : f.items = []
        · rw [if_pos (h.unset hitems).1, hnewest, hitems, List.nil_append]
        · rw [if_neg (h.newer_ne_none hitems), h.newer, List.head?_append_of_ne_nil _ hitems]
      · show page.cursor.oldest = _
        rw [holdest, List.getLast?_append_of_ne_nil _ hne]

/-- A fit page leaves the cursors at the ends of the list. -/
theorem anchored_merge {f : Feed α κ} {a : Archive α} {kind : RequestKind} {page : Page α}
    (h : f.Awaits kind) (hs : f.Suits a kind page) : (f.merge kind page).Anchored := by
  refine anchored_merge_of_cursor hs.cursor ?_ fun hk => ?_
  · rintro rfl
    exact ⟨h, hs.refresh rfl⟩
  · cases kind with
    | refresh => exact absurd rfl hk
    | newer => exact h
    | older => exact h.1

theorem descending_merge {f : Feed α κ} {a : Archive α} {kind : RequestKind} {page : Page α}
    (h : Descending f.items) (hs : f.Suits a kind page) :
    Descending (f.merge kind page).items := by
  unfold merge
  split
  · cases kind <;> exact h
  · cases kind with
    | refresh => exact hs.descending
    | newer => exact hs.descending.append h (hs.newer rfl)
    | older => exact h.append hs.descending (hs.older rfl)

omit [Identified α] in
theorem mem_items_merge {f : Feed α κ} {kind : RequestKind} {page : Page α} {item : α}
    (h : item ∈ (f.merge kind page).items) : item ∈ f.items ∨ item ∈ page.items := by
  unfold merge at h
  split at h
  · cases kind <;> exact Or.inl h
  · cases kind with
    | refresh => exact Or.inr h
    | newer => exact (List.mem_append.1 h).symm
    | older => exact List.mem_append.1 h

section Merge

variable (f : Feed α κ) (page : Page α)

omit [Identified α]

/-- An empty page joins nothing, which for a refresh is right only if the list is empty. -/
theorem items_merge (kind : RequestKind)
    (hrefresh : kind = .refresh → page.items = [] → f.items = []) :
    (f.merge kind page).items = kind.join page.items f.items := by
  unfold merge
  split
  next hempty =>
    have hnil := List.isEmpty_iff.1 hempty
    rw [hnil]
    cases kind with
    | refresh => exact hrefresh rfl hnil
    | newer => rfl
    | older => exact (List.append_nil _).symm
  next => cases kind <;> rfl

/-- Only a page of older items says anything about the older end. -/
theorem olderEdge_merge (kind : RequestKind) : (f.merge kind page).paging.olderEdge =
    if kind = .older then if page.isEmpty then .exhausted else .hasMore
    else f.paging.olderEdge := by
  unfold merge
  cases kind <;> split <;> simp_all [Paging.setNewer, Paging.fill]

end Merge

omit [Identified α] in
/-- A page that comes for a pending request is merged, and then no request is out. -/
theorem complete_ok {f : Feed α κ} {id : Nat} {request : Pending κ}
    (h : f.pending.find? (·.id = id) = some request) (page : Page α) :
    (f.complete id (.ok page)).1 =
      let g := { f with pending := f.pending.filter (·.id ≠ id) }.merge request.kind page
      { g with paging := g.paging.finish } := by
  unfold complete
  rw [h]

omit [Identified α] in
/-- A failure ends its pending request and changes nothing else. -/
theorem complete_error {f : Feed α κ} {id : Nat} {request : Pending κ}
    (h : f.pending.find? (·.id = id) = some request) (why : Failure) :
    (f.complete id (.error why)).1 =
      { f with pending := f.pending.filter (·.id ≠ id), paging := f.paging.finish } := by
  unfold complete
  rw [h]

end Feed

end Newsfeed
