import Newsfeed.Feed.Source

/-!
# Pages of an archive in order

An archive is in order if its ids descend strictly.  Then so do those of every page that it answers
with, and a page spans the newest of the items that lie between its bounds.  The bound of a page of
older items excludes the id it is made of, unless that is the least of all ids
(`lt_of_le_inclusiveBound`).
-/

namespace Newsfeed

variable {α : Type} [Identified α]

/-- The ids of the items descend strictly. -/
def Descending (items : List α) : Prop :=
  items.Pairwise fun a b => Identified.id b < Identified.id a

theorem Descending.nil : Descending ([] : List α) := List.Pairwise.nil

theorem Descending.sublist {items others : List α} (h : Descending others)
    (hs : items.Sublist others) : Descending items := List.Pairwise.sublist hs h

theorem Descending.append {newer older : List α} (hn : Descending newer) (ho : Descending older)
    (h : ∀ a ∈ newer, ∀ b ∈ older, Identified.id b < Identified.id a) :
    Descending (newer ++ older) := List.pairwise_append.2 ⟨hn, ho, h⟩

/-- The ids of the items do not ascend. -/
def NewestFirst (items : List α) : Prop :=
  items.Pairwise fun a b => Identified.id b ≤ Identified.id a

theorem Descending.newestFirst {items : List α} (h : Descending items) : NewestFirst items :=
  List.Pairwise.imp Int64.le_of_lt h

theorem NewestFirst.append {newer older : List α} (hn : NewestFirst newer) (ho : NewestFirst older)
    (h : ∀ a ∈ newer, ∀ b ∈ older, Identified.id b ≤ Identified.id a) :
    NewestFirst (newer ++ older) := List.pairwise_append.2 ⟨hn, ho, h⟩

theorem NewestFirst.le_head {items : List α} (h : NewestFirst items) {first : α}
    (hf : items.head? = some first) : ∀ a ∈ items, Identified.id a ≤ Identified.id first := by
  intro a ha
  obtain ⟨rest, rfl⟩ := List.head?_eq_some_iff.1 hf
  rcases List.mem_cons.1 ha with rfl | ha
  · exact Int64.le_rfl
  · exact List.rel_of_pairwise_cons h ha

theorem NewestFirst.last_le {items : List α} (h : NewestFirst items) {last : α}
    (hl : items.getLast? = some last) : ∀ a ∈ items, Identified.id last ≤ Identified.id a := by
  intro a ha
  obtain ⟨rest, rfl⟩ := List.getLast?_eq_some_iff.1 hl
  rcases List.mem_append.1 ha with ha | ha
  · exact (List.pairwise_append.1 h).2.2 a ha last (List.mem_singleton_self _)
  · rw [List.mem_singleton.1 ha]
    exact Int64.le_rfl

theorem Descending.le_head {items : List α} (h : Descending items) {first : α}
    (hf : items.head? = some first) : ∀ a ∈ items, Identified.id a ≤ Identified.id first :=
  h.newestFirst.le_head hf

theorem Descending.last_le {items : List α} (h : Descending items) {last : α}
    (hl : items.getLast? = some last) : ∀ a ∈ items, Identified.id last ≤ Identified.id a :=
  h.newestFirst.last_le hl

/-- A bound made of an id that is not the least one excludes it. -/
theorem lt_of_le_inclusiveBound {b n : Int64} (hb : b ≠ Int64.minValue)
    (hn : (inclusiveBound (some b)).all (n ≤ ·)) : n < b := by
  have hn : n ≤ Word.clamp (b.toInt - 1) := by simpa [inclusiveBound] using hn
  have hleast : b.toInt ≠ Word.least := fun h => hb (Int64.toInt_inj.1 h)
  have hlow := Word.least_le_toInt b
  have hhigh := Word.toInt_le_greatest b
  rw [Int64.le_iff_toInt_le, Word.toInt_clamp_of_mem (by omega) (by omega)] at hn
  rw [Int64.lt_iff_toInt_lt]
  omega

/-- Any other bound takes all ids below it. -/
theorem all_le_inclusiveBound_iff {b n : Int64} (hb : b ≠ Int64.minValue) :
    (inclusiveBound (some b)).all (n ≤ ·) = true ↔ n < b := by
  refine ⟨lt_of_le_inclusiveBound hb, fun hn => ?_⟩
  have hlow := Word.least_le_toInt n
  have hhigh := Word.toInt_le_greatest b
  rw [Int64.lt_iff_toInt_lt] at hn
  show decide (n ≤ Word.clamp (b.toInt - 1)) = true
  rw [decide_eq_true_eq, Int64.le_iff_toInt_le, Word.toInt_clamp_of_mem (by omega) (by omega)]
  omega

/-- Whatever a bound is made of, it takes all ids below that one and none above. -/
theorem all_le_inclusiveBound_of_lt {b n : Int64} (hn : n < b) :
    (inclusiveBound (some b)).all (n ≤ ·) = true := by
  refine (all_le_inclusiveBound_iff ?_).2 hn
  rintro rfl
  exact Int64.not_lt.2 (Int64.minValue_le n) hn

theorem le_of_le_inclusiveBound {b n : Int64} (hn : (inclusiveBound (some b)).all (n ≤ ·)) :
    n ≤ b := by
  by_cases hb : b = Int64.minValue
  · have hn : n ≤ Word.clamp (b.toInt - 1) := by simpa [inclusiveBound] using hn
    have hclamp : Word.clamp (b.toInt - 1) = b := by
      subst hb
      rfl
    exact hclamp ▸ hn
  · exact Int64.le_of_lt (lt_of_le_inclusiveBound hb hn)

/-- A bound made of the least id does not exclude it. -/
theorem least_le_inclusiveBound {n : Int64} (h : n = Int64.minValue) :
    (inclusiveBound (some n)).all (n ≤ ·) := by
  subst h
  simp [inclusiveBound]

namespace Archive

theorem decide_id_le_trans (a b c : α) (hab : decide (Identified.id b ≤ Identified.id a) = true)
    (hbc : decide (Identified.id c ≤ Identified.id b) = true) :
    decide (Identified.id c ≤ Identified.id a) = true := by
  rw [decide_eq_true_eq] at hab hbc ⊢
  exact Int64.le_trans hbc hab

theorem decide_id_le_total (a b : α) : (decide (Identified.id b ≤ Identified.id a) ||
    decide (Identified.id a ≤ Identified.id b)) = true := by
  simpa using Int64.le_total (Identified.id b) (Identified.id a)

theorem perm_items_ofList (items : List α) : (ofList items).items.Perm items :=
  List.mergeSort_perm items _

theorem newestFirst_ofList (items : List α) : NewestFirst (ofList items).items :=
  (List.pairwise_mergeSort decide_id_le_trans decide_id_le_total items).imp of_decide_eq_true

/-- Items that are in order keep their order. -/
theorem sublist_items_ofList {items others : List α} (h : NewestFirst others)
    (hs : others.Sublist items) : others.Sublist (ofList items).items :=
  List.sublist_mergeSort decide_id_le_trans decide_id_le_total (h.imp decide_eq_true) hs

theorem descending_ofList {items : List α} (h : (items.map Identified.id).Nodup) :
    Descending (ofList items).items := by
  have hdistinct : (ofList items).items.Pairwise fun a b => Identified.id a ≠ Identified.id b := by
    have hperm := (perm_items_ofList items).map Identified.id
    exact List.pairwise_map.1 (hperm.symm.nodup h)
  refine ((newestFirst_ofList items).and hdistinct).imp fun ⟨hle, hne⟩ => ?_
  exact Int64.lt_of_le_of_ne hle hne.symm

theorem mem_items_ofList {items : List α} {a : α} : a ∈ (ofList items).items ↔ a ∈ items :=
  (perm_items_ofList items).mem_iff

/-- An item newer than all others comes first. -/
theorem items_push_of_newest {a : Archive α} {item : α}
    (h : ∀ other ∈ a.items, Identified.id other < Identified.id item) :
    (a.push item).items = item :: a.items := by
  have htake : (a.items.takeWhile fun other => Identified.id item < Identified.id other) = [] := by
    cases hi : a.items with
    | nil => rfl
    | cons first rest =>
      refine List.takeWhile_cons_of_neg ?_
      have := Int64.lt_asymm (h first (by simp [hi]))
      simpa using Int64.not_lt.1 this
  simp only [push, htake, List.nil_append, List.length_nil, List.drop_zero]

/-! ## Queries -/

variable (a : Archive α) (since upTo : Option Int64)

theorem sublist_query : (a.query since upTo).items.Sublist a.items :=
  (List.take_sublist _ _).trans List.filter_sublist

theorem mem_query {item : α} (h : item ∈ (a.query since upTo).items) :
    item ∈ a.items ∧ upTo.all (Identified.id item ≤ ·) ∧ since.all (· < Identified.id item) := by
  simpa using List.mem_filter.1 (List.mem_of_mem_take h)

theorem cursor_query : (a.query since upTo).cursor = .ofItems (a.query since upTo).items := rfl

variable {a since upTo}

/-- A page is empty only if no item lies between the bounds. -/
theorem not_mem_of_query_eq_nil (hsize : a.pageSize ≠ 0) (h : (a.query since upTo).items = [])
    {item : α} (hi : item ∈ a.items) (hup : upTo.all (Identified.id item ≤ ·)) :
    ¬ since.all (· < Identified.id item) := by
  intro hsince
  have hnil := (List.take_eq_nil_iff.1 h).resolve_left hsize
  exact List.filter_eq_nil_iff.1 hnil item hi (by simp [hup, hsince])

/-- What lies between the bounds and is not on the page is older than a full page. -/
theorem full_of_not_mem_query (ha : Descending a.items) {item : α} (hi : item ∈ a.items)
    (hup : upTo.all (Identified.id item ≤ ·)) (hsince : since.all (· < Identified.id item))
    (hnot : item ∉ (a.query since upTo).items) :
    (a.query since upTo).items.length = a.pageSize ∧
      ∀ other ∈ (a.query since upTo).items, Identified.id item < Identified.id other := by
  let between := a.items.filter fun item =>
    upTo.all (Identified.id item ≤ ·) && since.all (· < Identified.id item)
  have hbetween : Descending between := ha.sublist List.filter_sublist
  have hmem : item ∈ between := List.mem_filter.2 ⟨hi, by simp [hup, hsince]⟩
  have hnot : item ∉ between.take a.pageSize := hnot
  rw [← List.take_append_drop a.pageSize between] at hbetween hmem
  have hdrop := (List.mem_append.1 hmem).resolve_left hnot
  refine ⟨?_, fun other ho => (List.pairwise_append.1 hbetween).2.2 other ho item hdrop⟩
  show (between.take a.pageSize).length = a.pageSize
  have := List.length_pos_of_mem hdrop
  rw [List.length_drop] at this
  rw [List.length_take]
  omega

theorem query_singleton {item : α} {n : Nat} (hsize : n ≠ 0)
    (hup : upTo.all (Identified.id item ≤ ·)) :
    (⟨[item], n⟩ : Archive α).query none upTo = .ofItems [item] := by
  obtain ⟨m, rfl⟩ := Nat.exists_eq_succ_of_ne_zero hsize
  simp [query, hup]

end Archive

end Newsfeed
