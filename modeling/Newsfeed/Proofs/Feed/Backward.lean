import Newsfeed.Proofs.Feed.Holdings

/-!
# Reading an archive backwards

A page of older items begins below an id, and a reader who always asks for what is older than the
page before comes from the newest items to the oldest.  `Archive.Excludes` is what the reader relies
on: a page has nothing but items below the id, and is empty only where there are none.  The archive
keeps to this for every id but the least one, for which it does as long as no item has it
(`excludes_iff`): there is no word below the least one to take for the last id that is included.

Where no item has the least id, each page lies below the ones before, and since each has an item of
its own, the reader comes to an empty page (`exists_pagesBack_eq`).  Where an item has it, the
reader never does (`ne_nil_of_mem_pagesBack`).
-/

namespace Newsfeed

variable {α : Type} [Identified α]

/-- All items of a page have lesser ids than those of another one. -/
def Page.IsBelow (q p : Page α) : Prop :=
  ∀ x ∈ p.items, ∀ y ∈ q.items, Identified.id y < Identified.id x

namespace Archive

/-- The items with an id below a bound. -/
def below (a : Archive α) (bound : Option Int64) : List α :=
  a.items.filter fun item => bound.all (Identified.id item < ·)

/-- What is asked for as older than an id is older, and the answer is empty only if there is nothing
older. -/
structure Excludes (a : Archive α) (m : Int64) : Prop where
  older : ∀ item ∈ (a.older (some m)).items, Identified.id item < m
  empty : (a.older (some m)).items = [] ↔ ∀ item ∈ a.items, ¬ Identified.id item < m

/-- No item that is held or will be pushed has the least id. -/
def Ordinary (a : Archive α) (fetches : List (List α)) : Prop :=
  ∀ item ∈ a.items ++ fetches.flatten, Identified.id item ≠ Int64.minValue

/-- The pages of a reader who first asks for what is older than `bound`, then each time for what is
older than the page before, and stops at an empty page. Before each page some items are pushed. -/
def pagesBack (a : Archive α) (bound : Option Int64) : List (List α) → List (Page α)
  | [] => []
  | pushed :: later =>
    let a := pushed.foldl push a
    let page := a.older bound
    page :: if page.items = [] then []
      else pagesBack a (page.items.map Identified.id).min? later

/-! ## One page -/

/-- The bound is an exclusive one, unless it is the least id and an item has that. -/
theorem items_older {a : Archive α} {bound : Option Int64}
    (h : bound = some Int64.minValue → ∀ item ∈ a.items, Identified.id item ≠ Int64.minValue) :
    (a.older bound).items = (a.below bound).take a.pageSize := by
  refine congrArg (List.take a.pageSize) (List.filter_congr fun item hi => ?_)
  rw [Option.all_none, Bool.and_true]
  cases bound with
  | none => rfl
  | some m =>
    rw [Bool.eq_iff_iff, Option.all_some, decide_eq_true_eq]
    by_cases hm : m = Int64.minValue
    · subst hm
      have hne := h rfl item hi
      have hnot : ¬ Identified.id item < Int64.minValue := Int64.not_lt.2 (Int64.minValue_le _)
      refine iff_of_false (fun hle => hne ?_) hnot
      exact Int64.le_antisymm (le_of_le_inclusiveBound hle) (Int64.minValue_le _)
    · exact all_le_inclusiveBound_iff hm

/-- An item with the least id is on the page of what is older, whatever that is older than, unless
others fill it. -/
theorem older_ne_nil {a : Archive α} (hsize : a.pageSize ≠ 0) {item : α} (hi : item ∈ a.items)
    (hleast : Identified.id item = Int64.minValue) (bound : Option Int64) :
    (a.older bound).items ≠ [] := by
  intro hnil
  refine not_mem_of_query_eq_nil hsize hnil hi ?_ rfl
  cases bound with
  | none => rfl
  | some m =>
    by_cases hm : m = Int64.minValue
    · rw [hleast, hm]
      exact least_le_inclusiveBound rfl
    · refine all_le_inclusiveBound_of_lt ?_
      rw [hleast]
      exact Int64.lt_of_le_of_ne (Int64.minValue_le m) (Ne.symm hm)

theorem excludes_iff {a : Archive α} (hsize : a.pageSize ≠ 0) {m : Int64} :
    a.Excludes m ↔ (m = Int64.minValue → ∀ item ∈ a.items, Identified.id item ≠ m) := by
  constructor
  · rintro h rfl item hi hleast
    refine older_ne_nil hsize hi hleast (some Int64.minValue) (h.empty.2 fun other _ => ?_)
    exact Int64.not_lt.2 (Int64.minValue_le _)
  · intro h
    have hpage : (a.older (some m)).items = (a.below (some m)).take a.pageSize :=
      items_older fun hm => Option.some.inj hm ▸ h (Option.some.inj hm)
    refine ⟨fun item hi => ?_, ?_⟩
    · rw [hpage] at hi
      simpa [below] using (List.mem_filter.1 (List.mem_of_mem_take hi)).2
    · simp [hpage, below, List.take_eq_nil_iff, hsize]

/-! ## Pushing -/

theorem perm_push (a : Archive α) (item : α) : (a.push item).items.Perm (item :: a.items) := by
  let newer := a.items.takeWhile fun other => Identified.id item < Identified.id other
  have hsplit : newer ++ a.items.drop newer.length = a.items :=
    List.prefix_iff_eq_append.1 (List.takeWhile_prefix _)
  show (newer ++ item :: a.items.drop newer.length).Perm (item :: a.items)
  exact List.perm_middle.trans (.of_eq (congrArg (item :: ·) hsplit))

theorem perm_foldl_push (pushed : List α) (a : Archive α) :
    (pushed.foldl push a).items.Perm (pushed ++ a.items) := by
  induction pushed generalizing a with
  | nil => exact .refl _
  | cons item pushed ih =>
    refine (ih (a.push item)).trans ?_
    exact ((perm_push a item).append_left pushed).trans List.perm_middle

theorem length_below_foldl_push_le (pushed : List α) (a : Archive α) (bound : Option Int64) :
    ((pushed.foldl push a).below bound).length ≤ pushed.length + (a.below bound).length := by
  rw [below, ((perm_foldl_push pushed a).filter _).length_eq, List.filter_append,
    List.length_append]
  exact Nat.add_le_add_right (List.length_filter_le _ _) _

/-! ## One page after the other -/

theorem exists_least {items : List α} (h : items ≠ []) :
    ∃ least ∈ items, (items.map Identified.id).min? = some (Identified.id least) ∧
      ∀ item ∈ items, Identified.id least ≤ Identified.id item := by
  cases hm : (items.map Identified.id).min? with
  | none => exact absurd (List.map_eq_nil_iff.1 (List.min?_eq_none_iff.1 hm)) h
  | some m =>
    obtain ⟨hmem, hle⟩ := List.min?_eq_some_iff.1 hm
    obtain ⟨least, hi, rfl⟩ := List.mem_map.1 hmem
    exact ⟨least, hi, rfl, fun item hi => hle _ (List.mem_map_of_mem hi)⟩

section Reader

variable {a : Archive α} {bound : Option Int64} {fetches : List (List α)}

theorem all_lt_of_lt {n n' : Int64} (h : n < n') (hb : bound.all (n' < ·)) : bound.all (n < ·) := by
  cases bound with
  | none => rfl
  | some b => exact decide_eq_true (Int64.lt_trans h (of_decide_eq_true hb))

/-- What is below an item leaves that one out. -/
theorem length_below_lt {item : α} (hi : item ∈ a.below bound) :
    (a.below (some (Identified.id item))).length < (a.below bound).length := by
  have hbelow : a.below (some (Identified.id item)) =
      (a.below bound).filter (Identified.id · < Identified.id item) := by
    rw [below, below, List.filter_filter]
    refine List.filter_congr fun other _ => ?_
    rw [Option.all_some, Bool.eq_iff_iff, Bool.and_eq_true, decide_eq_true_eq, iff_self_and]
    exact fun hlt => all_lt_of_lt hlt (List.mem_filter.1 hi).2
  rw [hbelow, List.length_filter_lt_length_iff_exists]
  exact ⟨item, hi, by simp⟩

theorem Ordinary.foldl_push {pushed : List α} {later : List (List α)}
    (h : a.Ordinary (pushed :: later)) : (pushed.foldl push a).Ordinary later := by
  intro item hi
  apply h item
  rw [List.mem_append, (perm_foldl_push pushed a).mem_iff, List.mem_append] at hi
  rw [List.flatten_cons, List.mem_append, List.mem_append]
  exact or_assoc.1 (hi.imp_left Or.symm)

theorem Ordinary.mem_below (h : a.Ordinary fetches) {item : α}
    (hi : item ∈ (a.older bound).items) : item ∈ a.below bound := by
  rw [items_older fun _ item hi => h item (List.mem_append_left _ hi)] at hi
  exact List.mem_of_mem_take hi

variable (bound)

/-- The reader goes down from the bound, from page to page. -/
theorem pairwise_pagesBack (h : a.Ordinary fetches) :
    (∀ page ∈ a.pagesBack bound fetches, ∀ item ∈ page.items, bound.all (Identified.id item < ·)) ∧
      (a.pagesBack bound fetches).Pairwise fun p q => q.IsBelow p := by
  induction fetches generalizing a bound with
  | nil => simp [pagesBack]
  | cons pushed later ih =>
    let page := (pushed.foldl push a).older bound
    have hpage : ∀ item ∈ page.items, bound.all (Identified.id item < ·) := fun item hi =>
      (List.mem_filter.1 (h.foldl_push.mem_below hi)).2
    by_cases hnil : page.items = []
    · rw [pagesBack, if_pos hnil]
      exact ⟨List.forall_mem_singleton.2 hpage, List.pairwise_singleton _ _⟩
    · obtain ⟨least, hleast, hmin, hle⟩ := exists_least hnil
      obtain ⟨hbelow, hpairwise⟩ := ih (some (Identified.id least)) h.foldl_push
      have hlt : ∀ p ∈ (pushed.foldl push a).pagesBack (some (Identified.id least)) later,
          ∀ item ∈ p.items, Identified.id item < Identified.id least := fun p hp item hi =>
        of_decide_eq_true (hbelow p hp item hi)
      rw [pagesBack, if_neg hnil, hmin]
      refine ⟨List.forall_mem_cons.2 ⟨hpage, fun p hp item hi => ?_⟩,
        List.pairwise_cons.2 ⟨fun p hp x hx y hy => ?_, hpairwise⟩⟩
      · exact all_lt_of_lt (hlt p hp item hi) (hpage least hleast)
      · exact Int64.lt_of_lt_of_le (hlt p hp y hy) (hle x hx)

variable (hsize : a.pageSize ≠ 0)

include hsize

/-- The reader comes to an empty page, after one fetch for each item at most. -/
theorem exists_pagesBack_eq (h : a.Ordinary fetches)
    (hlength : (a.below bound).length + fetches.flatten.length < fetches.length) :
    ∃ full last, a.pagesBack bound fetches = full ++ [last] ∧ last.items = [] ∧
      (∀ page ∈ full, page.items ≠ []) ∧
      full.length ≤ (a.below bound).length + fetches.flatten.length := by
  induction fetches generalizing a bound with
  | nil => exact absurd hlength (Nat.not_lt_zero _)
  | cons pushed later ih =>
    let a' := pushed.foldl push a
    have hsize' : a'.pageSize ≠ 0 := by rwa [pageSize_foldl_push]
    have hpushed : (a'.below bound).length ≤ pushed.length + (a.below bound).length :=
      length_below_foldl_push_le pushed a bound
    rw [List.flatten_cons, List.length_append] at hlength ⊢
    by_cases hnil : (a'.older bound).items = []
    · refine ⟨[], a'.older bound, ?_, hnil, nofun, Nat.zero_le _⟩
      rw [pagesBack, if_pos hnil]
      rfl
    · obtain ⟨least, hleast, hmin, -⟩ := exists_least hnil
      have hfewer : (a'.below (some (Identified.id least))).length < (a'.below bound).length :=
        length_below_lt (h.foldl_push.mem_below hleast)
      have hlater : (a'.below (some (Identified.id least))).length + later.flatten.length <
          later.length := by
        rw [List.length_cons] at hlength
        omega
      obtain ⟨full, last, hpages, hlast, hfull, hle⟩ :=
        ih (some (Identified.id least)) hsize' h.foldl_push hlater
      refine ⟨a'.older bound :: full, last, ?_, hlast, List.forall_mem_cons.2 ⟨hnil, hfull⟩, ?_⟩
      · rw [pagesBack, if_neg hnil, hmin, hpages]
        rfl
      · rw [List.length_cons]
        omega

/-- Where an item has the least id the reader never comes to an end. -/
theorem ne_nil_of_mem_pagesBack (hleast : ∃ item ∈ a.items, Identified.id item = Int64.minValue) :
    (a.pagesBack bound fetches).length = fetches.length ∧
      ∀ page ∈ a.pagesBack bound fetches, page.items ≠ [] := by
  induction fetches generalizing a bound with
  | nil => simp [pagesBack]
  | cons pushed later ih =>
    obtain ⟨item, hi, hid⟩ := hleast
    let a' := pushed.foldl push a
    have hi' : item ∈ a'.items :=
      (perm_foldl_push pushed a).mem_iff.2 (List.mem_append_right _ hi)
    have hsize' : a'.pageSize ≠ 0 := by rwa [pageSize_foldl_push]
    have hne := older_ne_nil hsize' hi' hid bound
    obtain ⟨hlength, hrest⟩ := ih ((a'.older bound).items.map Identified.id).min? hsize'
      ⟨item, hi', hid⟩
    rw [pagesBack, if_neg hne]
    exact ⟨congrArg (· + 1) hlength, List.forall_mem_cons.2 ⟨hne, hrest⟩⟩

end Reader

/-- However an archive came about, what it answers when asked for what is older than an id is older,
and empty only if there is nothing older, unless the id is the least one and an item has it.  So a
reader who begins anywhere and goes on from the least id of each page goes down strictly and comes
to an empty page after one fetch for each item at most, also if items are pushed meanwhile, unless
an item has the least id: then no page is empty. -/
theorem older_excludes_bound (initial pushed : List α) (size : Nat) :
    let a := pushed.foldl push ((ofList initial).withPageSize size)
    (∀ m, a.Excludes m ↔ (m = Int64.minValue → ∀ item ∈ a.items, Identified.id item ≠ m)) ∧
    ∀ bound fetches,
      (a.Ordinary fetches →
        (∀ page ∈ a.pagesBack bound fetches, ∀ item ∈ page.items,
          bound.all (Identified.id item < ·)) ∧
        (a.pagesBack bound fetches).Pairwise (fun p q => q.IsBelow p) ∧
        (a.items.length + fetches.flatten.length < fetches.length →
          ∃ full last, a.pagesBack bound fetches = full ++ [last] ∧ last.items = [] ∧
            (∀ page ∈ full, page.items ≠ []) ∧
            full.length ≤ a.items.length + fetches.flatten.length)) ∧
      ((∃ item ∈ a.items, Identified.id item = Int64.minValue) →
        (a.pagesBack bound fetches).length = fetches.length ∧
        ∀ page ∈ a.pagesBack bound fetches, page.items ≠ []) := by
  intro a
  have hsize : a.pageSize ≠ 0 := by
    rw [pageSize_foldl_push]
    show max size 1 ≠ 0
    omega
  refine ⟨fun m => excludes_iff hsize, fun bound fetches => ⟨fun h => ?_, fun hleast => ?_⟩⟩
  · obtain ⟨hbound, hpairwise⟩ := pairwise_pagesBack bound h
    refine ⟨hbound, hpairwise, fun hlength => ?_⟩
    have hbelow : (a.below bound).length ≤ a.items.length := List.length_filter_le _ _
    obtain ⟨full, last, hpages, hlast, hfull, hle⟩ :=
      exists_pagesBack_eq bound hsize h (by omega)
    exact ⟨full, last, hpages, hlast, hfull, by omega⟩
  · exact ne_nil_of_mem_pagesBack bound hsize hleast

/-- From the greatest word to the word above the least one, past an id that two items have and with
an item pushed on the way. -/
theorem older_excludes_bound_greatest :
    let post (id : Int64) : Post := ⟨id, none, none, none, none⟩
    let a := [post Int64.maxValue, post 5, post 5].foldl push
      ((ofList [post (Int64.minValue + 1)]).withPageSize 1)
    let fetches := [[], [post 7], [], [], [], []]
    (a.pagesBack none fetches).map (·.items.map Post.id) =
      [[Int64.maxValue], [7], [5], [Int64.minValue + 1], []] ∧
    a.Excludes Int64.minValue ∧
    ∃ full last, a.pagesBack none fetches = full ++ [last] ∧ last.items = [] ∧
      (∀ page ∈ full, page.items ≠ []) ∧ full.length ≤ 5 := by
  intro post a fetches
  have hordinary : ∀ item ∈ a.items ++ fetches.flatten, Identified.id item ≠ Int64.minValue := by
    decide +kernel
  have hlength : a.items.length + fetches.flatten.length = 5 := by decide +kernel
  obtain ⟨hexcludes, hreader⟩ := older_excludes_bound [post (Int64.minValue + 1)]
    [post Int64.maxValue, post 5, post 5] 1
  refine ⟨by decide +kernel, ?_, ?_⟩
  · exact (hexcludes _).2 fun _ item hi => hordinary item (List.mem_append_left _ hi)
  · exact hlength ▸ ((hreader none fetches).1 hordinary).2.2 (hlength ▸ by decide)

end Archive

end Newsfeed
