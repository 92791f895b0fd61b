import Newsfeed.Proofs.Text.Addressing

/-!
# Counting the pairs before an entity

The scan that gives the shift of an entity reads the pairs of a text in units, takes off one unit
for each pair that it has counted, and stops at the first pair behind the start of the entity.  Its
result is a plain count over the whole text, which knows neither units nor an end of the scan: how
many supplementary characters stand at the start of the entity or before it
(`followPairs_pairIndices`).
-/

namespace Newsfeed

namespace Text

/-- The number of supplementary characters that stand at a place of a text or before it, where the
place may lie outside the text. -/
def supplementaryUpTo (cs : List Char) (place : Int) : Nat :=
  cs.zipIdx.countP fun x => isSupplementary x.1 && decide ((x.2 : Int) ≤ place)

theorem countP_zipIdx_eq_supplements (cs : List Char) (k : Nat) (place : Int) :
    ((cs.zipIdx k).countP fun x => isSupplementary x.1 && decide ((x.2 : Int) ≤ place)) =
      supplements (cs.take (place + 1 - k).toNat) := by
  induction cs generalizing k with
  | nil => simp
  | cons c cs ih =>
    have hnext : (place + 1 - (k + 1 : Nat)).toNat = (place + 1 - k).toNat - 1 := by omega
    rw [List.zipIdx_cons, List.countP_cons, ih, hnext]
    by_cases hk : (k : Int) ≤ place
    · obtain ⟨m, hm⟩ : ∃ m, (place + 1 - k).toNat = m + 1 := ⟨(place - k).toNat, by omega⟩
      simp [hm, hk, supplements_cons, width_eq_two_iff]
    · have hm : (place + 1 - k).toNat = 0 := by omega
      simp [hm, hk]

theorem supplementaryUpTo_eq_supplements (cs : List Char) (place : Int) :
    supplementaryUpTo cs place = supplements (cs.take (place + 1).toNat) := by
  simpa [supplementaryUpTo] using countP_zipIdx_eq_supplements cs 0 place

/-- The scan counts what stands up to the start, although it stops early. -/
theorem pairShift_eq_supplementaryUpTo (cs : List Char) (start : Int) :
    pairShift 0 start ((pairIndices cs).map Int.ofNat) = supplementaryUpTo cs start := by
  rw [pairShift_pairIndices, supplementaryUpTo_eq_supplements]

theorem supplementaryUpTo_le (cs : List Char) {p q : Int} (hpq : p ≤ q) :
    supplementaryUpTo cs p ≤ supplementaryUpTo cs q := by
  refine List.countP_mono_left fun x _ hx => ?_
  simp only [Bool.and_eq_true, decide_eq_true_eq] at hx ⊢
  exact ⟨hx.1, Int.le_trans hx.2 hpq⟩

end Text

open Text

/-- The same stretch in units, moved right by `n`; both ends saturate. -/
def Span.movedRight (span : Span .raw) (n : Nat) : Span .display :=
  ⟨.ofInt (span.start.toInt + n), .ofInt (span.stop.toInt + n)⟩

/-- The shift of an entity is the number of supplementary characters that stand at its start or
before it, whatever its ends are, and both ends move by it.  A later start moves no less, and what
else is in the list does not matter. -/
theorem followPairs_pairIndices (text : List Char) :
    (∀ start : Int,
      pairShift 0 start ((pairIndices text).map Int.ofNat) = supplementaryUpTo text start) ∧
    (∀ entities : List (Entity .raw),
      followPairs ((pairIndices text).map Int.ofNat) entities = entities.map fun e =>
        e.place (e.span.movedRight (supplementaryUpTo text e.span.start.toInt))) ∧
    (∀ p q : Int, p ≤ q → supplementaryUpTo text p ≤ supplementaryUpTo text q) ∧
    ∀ (entities others : List (Entity .raw)) (i j : Nat), entities[i]? = others[j]? →
      (followPairs ((pairIndices text).map Int.ofNat) entities)[i]? =
        (followPairs ((pairIndices text).map Int.ofNat) others)[j]? := by
  have hshift := pairShift_eq_supplementaryUpTo text
  refine ⟨hshift, fun entities => ?_, fun p q => supplementaryUpTo_le text,
    fun entities others i j hij => ?_⟩
  · refine List.map_congr_left fun e _ => ?_
    rw [Span.followPairs, hshift]
    rfl
  · rw [followPairs, followPairs, List.getElem?_map, List.getElem?_map, hij]

/-- A text with three pairs. -/
def threePairs : List Char := "😀a😀😀b".toList

/-- A link before the first character of a text, one that starts at the last of its three pairs and
ends before the text, and one from an earlier pair to the greatest offset. -/
def amongPairs : List (Entity .raw) :=
  [⟨⟨⟨-1⟩, ⟨0⟩⟩, "before", none, none, .url⟩, ⟨⟨⟨3⟩, ⟨-9⟩⟩, "reversed", none, none, .url⟩,
    ⟨⟨⟨2⟩, ⟨0x7FFFFFFFFFFFFFFF⟩⟩, "greatest", none, none, .url⟩]

theorem followPairs_amongPairs :
    followPairs ((pairIndices threePairs).map Int.ofNat) amongPairs =
        [⟨⟨⟨-1⟩, ⟨0⟩⟩, "before", none, none, .url⟩, ⟨⟨⟨6⟩, ⟨-6⟩⟩, "reversed", none, none, .url⟩,
          ⟨⟨⟨4⟩, ⟨0x7FFFFFFFFFFFFFFF⟩⟩, "greatest", none, none, .url⟩] ∧
      supplementaryUpTo threePairs 2 ≤ supplementaryUpTo threePairs 3 ∧
      (followPairs ((pairIndices threePairs).map Int.ofNat) amongPairs)[2]? =
        (followPairs ((pairIndices threePairs).map Int.ofNat) (amongPairs.drop 2))[0]? := by
  obtain ⟨-, hmoved, hmono, hother⟩ := followPairs_pairIndices threePairs
  refine ⟨(hmoved amongPairs).trans ?_, hmono 2 3 (by decide), hother _ _ 2 0 rfl⟩
  decide +kernel

end Newsfeed
