import Newsfeed.Annotated.Reconcile

/-!
# Pairs before a place

The scan for surrogate pairs stops at the first one behind a place and uses the number of pairs so
far to tell where the next one stands in characters.  It counts exactly the supplementary
characters up to the place, that of the place itself included (`pairShift_pairIndices`).
-/

namespace Newsfeed.Text

/-- The number of supplementary characters of a text. -/
def supplements (cs : List Char) : Nat := cs.countP fun c => width c = 2

@[simp]
theorem supplements_nil : supplements [] = 0 := rfl

theorem supplements_cons (c : Char) (cs : List Char) :
    supplements (c :: cs) = supplements cs + if width c = 2 then 1 else 0 := by
  simp [supplements, List.countP_cons]

@[simp]
theorem supplements_append (as bs : List Char) :
    supplements (as ++ bs) = supplements as + supplements bs := List.countP_append

theorem supplements_take_le (cs : List Char) {i j : Nat} (hij : i ≤ j) :
    supplements (cs.take i) ≤ supplements (cs.take j) :=
  (List.take_sublist_take_left hij).countP_le

theorem supplements_eq_zero_iff {cs : List Char} :
    supplements cs = 0 ↔ ∀ c ∈ cs, width c = 1 := by
  rw [supplements, List.countP_eq_zero]
  refine forall₂_congr fun c _ => ?_
  rcases width_eq_one_or_two c with h | h <;> simp [h]

/-- A text has a unit for each character and one more for each supplementary one. -/
theorem length_eq_add_supplements (cs : List Char) : length cs = cs.length + supplements cs := by
  induction cs with
  | nil => rfl
  | cons c cs ih =>
    rw [length_cons, ih, supplements_cons, List.length_cons]
    rcases width_eq_one_or_two c with h | h <;> simp [h] <;> omega

/-- After `passed` pairs among `k` characters the scan counts on, up to the place. -/
theorem pairShift_pairIndicesFrom (cs : List Char) (k passed : Nat) (start : Int) :
    pairShift passed start ((pairIndicesFrom (k + passed) cs).map Int.ofNat) =
      passed + supplements (cs.take (start + 1 - k).toNat) := by
  induction cs generalizing k passed with
  | nil => simp [pairIndicesFrom, pairShift]
  | cons c cs ih =>
    have hnext : (start + 1 - (k + 1 : Nat)).toNat = (start + 1 - k).toNat - 1 := by omega
    rcases width_eq_one_or_two c with hc | hc
    · have hplace : k + passed + 1 = k + 1 + passed := by omega
      rw [pairIndicesFrom, hc, if_neg (by decide), hplace, ih, hnext]
      cases hm : (start + 1 - k).toNat with
      | zero => simp
      | succ m => simp [supplements_cons, hc]
    · have hplace : k + passed + 2 = k + 1 + (passed + 1) := by omega
      rw [pairIndicesFrom, hc, if_pos rfl, List.map_cons, pairShift, hplace]
      by_cases hk : (k : Int) ≤ start
      · have hpair : Int.ofNat (k + passed) - passed ≤ start := by simp; omega
        obtain ⟨m, hm⟩ : ∃ m, (start + 1 - k).toNat = m + 1 :=
          ⟨(start - k).toNat, by omega⟩
        rw [if_pos hpair, ih, hnext, hm, List.take_succ_cons, supplements_cons, if_pos hc,
          Nat.add_sub_cancel]
        omega
      · have hpair : ¬ Int.ofNat (k + passed) - passed ≤ start := by simp; omega
        have hm : (start + 1 - k).toNat = 0 := by omega
        rw [if_neg hpair, hm, List.take_zero, supplements_nil, Nat.add_zero]

/-- The scan counts the supplementary characters up to a place. -/
theorem pairShift_pairIndices (cs : List Char) (start : Int) :
    pairShift 0 start ((pairIndices cs).map Int.ofNat) =
      supplements (cs.take (start + 1).toNat) := by
  have h := pairShift_pairIndicesFrom cs 0 0 start
  simpa [pairIndices] using h

end Newsfeed.Text

namespace Newsfeed

/-- Where a stretch of characters is put among the units of a text. -/
def Span.inUnits (text : List Char) (span : Span .raw) : Span .display :=
  span.followPairs ((Text.pairIndices text).map Int.ofNat)

end Newsfeed
