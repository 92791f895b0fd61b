import Newsfeed.Proofs.Feed.Pages

/-!
# What an archive holds and answers

An archive holds what it was made of and what was pushed to it since, newest first, also where
ids repeat or an item is pushed late (`Archive.Holds`).  The order is what the rest stands on:
it makes the place of a pushed item one that a binary search finds (`Archive.Divides`), and it
makes a page of the first items between two bounds a page of the newest, which the ids of its
two ends span (`Page.Answers`).
-/

namespace Newsfeed

variable {α : Type} [Identified α]

/-! ## The ends of a page -/

instance lawfulOrderLeftLeaningMaxInt64 : Std.LawfulOrderLeftLeaningMax Int64 where
  max_eq_left a b hba := by
    show (if a ≤ b then b else a) = a
    split
    next hab => exact Int64.le_antisymm hba hab
    next => rfl
  max_eq_right a b hba := if_pos ((Int64.le_total a b).resolve_right hba)

section Ends

variable {items : List α} (h : NewestFirst items)

include h

theorem NewestFirst.min?_map_id :
    (items.map Identified.id).min? = items.getLast?.map Identified.id := by
  cases hlast : items.getLast? with
  | none => rw [List.getLast?_eq_none_iff.1 hlast]; rfl
  | some last =>
    refine List.min?_eq_some_iff.2 ⟨List.mem_map_of_mem (List.mem_of_getLast? hlast), ?_⟩
    exact List.forall_mem_map.2 (h.last_le hlast)

theorem NewestFirst.max?_map_id :
    (items.map Identified.id).max? = items.head?.map Identified.id := by
  cases hfirst : items.head? with
  | none => rw [List.head?_eq_none_iff.1 hfirst]; rfl
  | some first =>
    refine List.max?_eq_some_iff.2 ⟨List.mem_map_of_mem (List.mem_of_head? hfirst), ?_⟩
    exact List.forall_mem_map.2 (h.le_head hfirst)

end Ends

namespace Archive

/-! ## Pushing -/

/-- The place divides the items that are newer than a given one from those that are not. -/
structure Divides (a : Archive α) (item : α) (k : Nat) : Prop where
  le_length : k ≤ a.items.length
  newer : ∀ other ∈ a.items.take k, Identified.id item < Identified.id other
  older : ∀ other ∈ a.items.drop k, Identified.id other ≤ Identified.id item

/-- An archive in order has a place that divides it. -/
theorem exists_divides {a : Archive α} (h : NewestFirst a.items) (item : α) :
    ∃ k, a.Divides item k := by
  let newer (other : α) : Bool := Identified.id item < Identified.id other
  have hrest := h.sublist (List.dropWhile_sublist newer)
  refine ⟨a.items.findIdx fun other => !newer other, List.findIdx_le_length, ?_, ?_⟩
  · rw [← List.takeWhile_eq_take_findIdx_not]
    intro other ho
    have hall := List.all_eq_true.1 (List.all_takeWhile (p := newer) (l := a.items)) other ho
    simpa [newer] using hall
  · rw [← List.dropWhile_eq_drop_findIdx_not]
    have hfirst := List.head?_dropWhile_not newer a.items
    intro other ho
    cases hhead : (a.items.dropWhile newer).head? with
    | none =>
      rw [List.head?_eq_none_iff.1 hhead] at ho
      cases ho
    | some first =>
      rw [hhead] at hfirst
      have hle : Identified.id first ≤ Identified.id item := by simpa [newer] using hfirst
      exact Int64.le_trans (NewestFirst.le_head hrest hhead other ho) hle

/-- A pushed item is put where the archive is divided. -/
theorem Divides.items_push {a : Archive α} {item : α} {k : Nat} (h : a.Divides item k) :
    (a.push item).items = a.items.take k ++ item :: a.items.drop k := by
  let newer (other : α) : Bool := Identified.id item < Identified.id other
  have hnone : (a.items.drop k).takeWhile newer = [] := by
    cases hdrop : a.items.drop k with
    | nil => rfl
    | cons first rest =>
      have hle := h.older first (by rw [hdrop]; exact List.mem_cons_self)
      exact List.takeWhile_cons_of_neg (by simpa [newer] using hle)
  have htake : a.items.takeWhile newer = a.items.take k := by
    have hpos : ∀ other ∈ a.items.take k, newer other := fun other ho =>
      decide_eq_true (h.newer other ho)
    rw [← List.take_append_drop k a.items, List.takeWhile_append_of_pos hpos, hnone,
      List.append_nil, List.take_append_drop]
  have hlength : (a.items.take k).length = k := by
    rw [List.length_take, Nat.min_eq_left h.le_length]
  show a.items.takeWhile newer ++ item :: a.items.drop (a.items.takeWhile newer).length = _
  rw [htake, hlength]

/-! ## Holding -/

/-- The archive holds some items and what was pushed to it since, newest first. Of the items
with one id those that were pushed come first, the last one before the others, and then the
given ones in their order. -/
structure Holds (a : Archive α) (initial pushed : List α) : Prop where
  newestFirst : NewestFirst a.items
  perm : a.items.Perm (pushed ++ initial)
  equal : ∀ n, a.items.filter (Identified.id · = n) =
    (pushed.filter (Identified.id · = n)).reverse ++ initial.filter (Identified.id · = n)

theorem newestFirst_filter_id (items : List α) (n : Int64) :
    NewestFirst (items.filter (Identified.id · = n)) := by
  refine List.pairwise_of_forall_mem_list fun a ha b hb => ?_
  have ha : Identified.id a = n := by simpa using (List.mem_filter.1 ha).2
  have hb : Identified.id b = n := by simpa using (List.mem_filter.1 hb).2
  rw [ha, hb]
  exact Int64.le_rfl

theorem holds_ofList (initial : List α) (size : Nat) :
    ((ofList initial).withPageSize size).Holds initial [] where
  newestFirst := newestFirst_ofList initial
  perm := perm_items_ofList initial
  equal n := by
    have hsub := sublist_items_ofList (newestFirst_filter_id initial n) List.filter_sublist
    have hfilter := hsub.filter (Identified.id · = n)
    simp only [List.filter_filter, Bool.and_self] at hfilter
    exact (hfilter.eq_of_length ((perm_items_ofList initial).filter _).length_eq.symm).symm

/-- A pushed item joins what is held, before the others of its id. -/
theorem Holds.push {a : Archive α} {initial pushed : List α} (h : a.Holds initial pushed)
    (item : α) : (a.push item).Holds initial (pushed ++ [item]) := by
  obtain ⟨k, hk⟩ := exists_divides h.newestFirst item
  have hitems := hk.items_push
  have hsplit := List.take_append_drop k a.items
  have horder := h.newestFirst
  rw [← hsplit] at horder
  obtain ⟨hnewer, holder, -⟩ := List.pairwise_append.1 horder
  refine ⟨?_, ?_, fun n => ?_⟩
  · rw [hitems]
    refine NewestFirst.append hnewer (List.pairwise_cons.2 ⟨hk.older, holder⟩) fun x hx y hy => ?_
    have hitem := Int64.le_of_lt (hk.newer x hx)
    rcases List.mem_cons.1 hy with rfl | hy
    · exact hitem
    · exact Int64.le_trans (hk.older y hy) hitem
  · rw [hitems, List.append_assoc]
    refine List.perm_middle.trans (.trans ?_ List.perm_middle.symm)
    rw [hsplit]
    exact h.perm.cons item
  · have hequal := h.equal n
    rw [← hsplit, List.filter_append] at hequal
    rw [hitems, List.filter_append, List.filter_append, List.reverse_append, List.append_assoc]
    by_cases hn : Identified.id item = n
    · -- nothing of this id stands before the item, so it comes first of its id
      have hnone : (a.items.take k).filter (Identified.id · = n) = [] := by
        refine List.filter_eq_nil_iff.2 fun x hx hid => ?_
        have hlt := hk.newer x hx
        rw [hn, of_decide_eq_true hid] at hlt
        exact Int64.lt_irrefl hlt
      rw [hnone, List.nil_append] at hequal
      rw [hnone, List.filter_cons_of_pos (by simpa using hn), hequal]
      simp [hn]
    · rw [List.filter_cons_of_neg (by simpa using hn), hequal]
      simp [hn]

theorem holds_foldl_push {a : Archive α} {initial : List α} {before : List α}
    (h : a.Holds initial before) (pushed : List α) :
    (pushed.foldl Archive.push a).Holds initial (before ++ pushed) := by
  induction pushed generalizing a before with
  | nil => simpa using h
  | cons item pushed ih => simpa using ih (h.push item)

/-! ## Answering -/

/-- The item lies between two bounds, of which the newer one is included. -/
def Admits (since upTo : Option Int64) (item : α) : Prop :=
  (∀ n ∈ since, n < Identified.id item) ∧ ∀ n ∈ upTo, Identified.id item ≤ n

instance (since upTo : Option Int64) (item : α) : Decidable (Admits since upTo item) :=
  inferInstanceAs (Decidable (_ ∧ _))

/-- The items between two bounds. -/
def between (a : Archive α) (since upTo : Option Int64) : List α :=
  a.items.filter (Admits since upTo ·)

theorem items_query_eq_take (a : Archive α) (since upTo : Option Int64) :
    (a.query since upTo).items = (a.between since upTo).take a.pageSize := by
  refine congrArg (List.take a.pageSize) (List.filter_congr fun item _ => ?_)
  cases since <;> cases upTo <;> simp [Admits, Bool.and_comm]

end Archive

/-- The page has the newest of some items, up to a number of them, is empty only if there are none,
leaves out none that is newer than its last, and its cursor spans its ids. -/
structure Page.Answers (page : Page α) (size : Nat) (range : List α) : Prop where
  items : page.items = range.take size
  empty : page.items = [] → range = []
  rest : ∀ item ∈ range.drop size, ∀ last ∈ page.items.getLast?,
    Identified.id item ≤ Identified.id last
  cursor : page.cursor =
    ⟨(page.items.map Identified.id).min?, (page.items.map Identified.id).max?⟩

namespace Archive

theorem answers_query {a : Archive α} (h : NewestFirst a.items) (hsize : a.pageSize ≠ 0)
    (since upTo : Option Int64) :
    (a.query since upTo).Answers a.pageSize (a.between since upTo) := by
  have hitems := items_query_eq_take a since upTo
  have hrange : NewestFirst (a.between since upTo) := h.sublist List.filter_sublist
  have hpage : NewestFirst (a.query since upTo).items := h.sublist (sublist_query a since upTo)
  refine ⟨hitems, fun hnil => ?_, fun item hi last hl => ?_, ?_⟩
  · exact (List.take_eq_nil_iff.1 (hitems ▸ hnil)).resolve_left hsize
  · rw [← List.take_append_drop a.pageSize (a.between since upTo)] at hrange
    refine (List.pairwise_append.1 hrange).2.2 last ?_ item hi
    exact hitems ▸ List.mem_of_getLast? hl
  · rw [cursor_query, hpage.min?_map_id, hpage.max?_map_id]
    rfl

theorem pageSize_foldl_push (pushed : List α) (a : Archive α) :
    (pushed.foldl push a).pageSize = a.pageSize := by
  induction pushed generalizing a with
  | nil => rfl
  | cons item pushed ih => exact ih (a.push item)

/-- However an archive came about, it holds what it was given, newest first, so that a place to push
an item to is found by halving, and it answers every query with a page of the newest items between
the bounds. -/
theorem held_and_answered (initial pushed : List α) (size : Nat) :
    let a := pushed.foldl push ((ofList initial).withPageSize size)
    a.Holds initial pushed ∧
      (∀ item, (∃ k, a.Divides item k) ∧ ∀ k, a.Divides item k →
        (a.push item).items = a.items.take k ++ item :: a.items.drop k) ∧
      ∀ since upTo, (a.query since upTo).Answers (max 1 size) (a.between since upTo) := by
  intro a
  have holds : a.Holds initial pushed := holds_foldl_push (holds_ofList initial size) pushed
  have hsize : a.pageSize = max 1 size := by
    rw [pageSize_foldl_push, Nat.max_comm]
    rfl
  refine ⟨holds, fun item => ⟨exists_divides holds.newestFirst item, fun k hk => hk.items_push⟩,
    fun since upTo => ?_⟩
  rw [← hsize]
  exact answers_query holds.newestFirst (by omega) since upTo

end Archive

end Newsfeed
