import Newsfeed.Proofs.Annotated.Shifting

/-!
# Addressing a text in units

A text is measured character by character, its pairs are listed in another pass, and it is cut
between encoded units.  All three agree on where a character stands, which is at its `address`
(`addressed_in_units`).  A cut may fall anywhere among the units, also between the halves of a pair,
and always has the length that its ends say (`length_of_slice`).
-/

namespace Newsfeed.Text

/-- Whether a character lies beyond the basic plane. -/
def isSupplementary (c : Char) : Bool := 0x10000 ≤ c.toNat

/-- Where a character stands among the units: its number and one more for each
supplementary character before it. -/
def address (cs : List Char) (i : Nat) : Nat := i + (cs.take i).countP isSupplementary

theorem width_eq_two_iff {c : Char} : width c = 2 ↔ isSupplementary c = true := by
  unfold width isSupplementary
  split <;> simp <;> omega

theorem supplements_eq_countP (cs : List Char) : supplements cs = cs.countP isSupplementary :=
  List.countP_congr fun c _ => by simpa using width_eq_two_iff

theorem address_eq_unitAt {cs : List Char} {i : Nat} (hi : i ≤ cs.length) :
    address cs i = unitAt cs i := by
  rw [address, unitAt_eq_add_supplements hi, supplements_eq_countP]

/-! ## Pairs -/

theorem unitAt_cons_succ (c : Char) (cs : List Char) (i : Nat) :
    unitAt (c :: cs) (i + 1) = width c + unitAt cs i := rfl

/-- The pairs of a text stand where its supplementary characters begin. -/
theorem mem_pairIndicesFrom_iff {n k : Nat} {cs : List Char} :
    k ∈ pairIndicesFrom n cs ↔ ∃ i c, cs[i]? = some c ∧ width c = 2 ∧ n + unitAt cs i = k := by
  induction cs generalizing n with
  | nil => simp [pairIndicesFrom]
  | cons c cs ih =>
    -- a supplementary character is the first one or stands behind it
    have hcons : (∃ i d, (c :: cs)[i]? = some d ∧ width d = 2 ∧ n + unitAt (c :: cs) i = k) ↔
        (width c = 2 ∧ n = k) ∨
          ∃ i d, cs[i]? = some d ∧ width d = 2 ∧ n + width c + unitAt cs i = k := by
      constructor
      · rintro ⟨_ | i, d, hd, hw, hk⟩
        · obtain rfl := Option.some.inj hd
          exact .inl ⟨hw, hk⟩
        · rw [unitAt_cons_succ, ← Nat.add_assoc] at hk
          exact .inr ⟨i, d, hd, hw, hk⟩
      · rintro (⟨hw, hk⟩ | ⟨i, d, hd, hw, hk⟩)
        · exact ⟨0, c, rfl, hw, hk⟩
        · refine ⟨i + 1, d, hd, hw, ?_⟩
          rw [unitAt_cons_succ, ← Nat.add_assoc, hk]
    rw [hcons, ← ih, pairIndicesFrom]
    split
    next hw => simp [hw, eq_comm]
    next hw => simp [hw]

theorem pairwise_pairIndicesFrom (n : Nat) (cs : List Char) :
    (pairIndicesFrom n cs).Pairwise (· < ·) := by
  induction cs generalizing n with
  | nil => exact List.Pairwise.nil
  | cons c cs ih =>
    rw [pairIndicesFrom]
    split
    next hw =>
      refine List.pairwise_cons.2 ⟨fun k hk => ?_, ih (n + width c)⟩
      obtain ⟨i, -, -, -, rfl⟩ := mem_pairIndicesFrom_iff.1 hk
      omega
    next hw => exact ih (n + width c)

/-! ## Cuts -/

section Slice

variable {cs piece : List Char} {start stop : Offset .display}

/-- A text is cut just where the ends lie in it and in this order. -/
theorem slice_isSome_iff :
    (slice cs start stop).isSome ↔
      0 ≤ start.toInt ∧ start.toInt ≤ stop.toInt ∧ stop.toInt ≤ length cs := by
  rw [Option.isSome_iff_exists]
  constructor
  · rintro ⟨piece, h⟩
    exact (slice_eq_some_iff.1 h).1
  · intro h
    exact ⟨_, slice_eq_some_iff.2 ⟨h, rfl⟩⟩

/-- A cut has the length that its ends say, wherever among the units they lie. -/
theorem length_of_slice (h : slice cs start stop = some piece) :
    (length piece : Int) = stop.toInt - start.toInt := by
  obtain ⟨⟨hstart, hle, hstop⟩, rfl⟩ := slice_eq_some_iff.1 h
  have hi := Offset.count_eq hstart
  have hj := Offset.count_eq (Int.le_trans hstart hle)
  rw [length_decode, cut, List.length_take, List.length_drop, length_encode]
  omega

end Slice

/-- The pairs of a text are listed where its supplementary characters stand, in ascending order, the
text is as long as its end says, and what stands between two characters is cut out where they stand.
At any other ends a text is cut just where they lie in it in this order, to the length that they
say, also where one of them splits a pair. -/
theorem addressed_in_units (cs : List Char) :
    (∀ k, k ∈ pairIndices cs ↔
      ∃ i c, cs[i]? = some c ∧ isSupplementary c = true ∧ address cs i = k) ∧
    (pairIndices cs).Pairwise (· < ·) ∧
    length cs = address cs cs.length ∧ (encode cs).length = address cs cs.length ∧
    ∀ start stop : Offset .display,
      (∀ i j, i ≤ j → j ≤ cs.length → start.toInt = address cs i → stop.toInt = address cs j →
        slice cs start stop = some (cut cs i j)) ∧
      ((slice cs start stop).isSome ↔
        0 ≤ start.toInt ∧ start.toInt ≤ stop.toInt ∧ stop.toInt ≤ length cs) ∧
      ∀ piece, slice cs start stop = some piece →
        (length piece : Int) = stop.toInt - start.toInt := by
  have hlength : length cs = address cs cs.length := by
    rw [address_eq_unitAt (Nat.le_refl _), unitAt, List.take_length]
  refine ⟨fun k => ?_, pairwise_pairIndicesFrom 0 cs, hlength, (length_encode cs).trans hlength,
    fun start stop => ⟨fun i j hij hj hstart hstop => ?_, slice_isSome_iff,
      fun piece => length_of_slice⟩⟩
  · rw [pairIndices, mem_pairIndicesFrom_iff]
    refine exists₂_congr fun i c => and_congr_right fun hc => ?_
    obtain ⟨hi, -⟩ := List.getElem?_eq_some_iff.1 hc
    rw [width_eq_two_iff, Nat.zero_add, address_eq_unitAt (Nat.le_of_lt hi)]
  · rw [address_eq_unitAt (Nat.le_trans hij hj)] at hstart
    rw [address_eq_unitAt hj] at hstop
    exact slice_of_toInt_eq_unitAt hij hstart hstop

/-- An emoji between two letters is cut out at the units of its ends, and a cut
between these has half of it. -/
theorem addressed_in_units_halved :
    slice ['a', '😀', 'b'] ⟨1⟩ ⟨3⟩ = some ['😀'] ∧
      slice ['a', '😀', 'b'] ⟨2⟩ ⟨4⟩ = some ['\uFFFD', 'b'] ∧
      (length ['\uFFFD', 'b'] : Int) = 4 - 2 := by
  obtain ⟨-, -, -, -, hslice⟩ := addressed_in_units ['a', '😀', 'b']
  have hhalf : slice ['a', '😀', 'b'] ⟨2⟩ ⟨4⟩ = some ['\uFFFD', 'b'] := by decide
  exact ⟨(hslice ⟨1⟩ ⟨3⟩).1 1 2 (by decide) (by decide) (by decide) (by decide), hhalf,
    (hslice ⟨2⟩ ⟨4⟩).2.2 _ hhalf⟩

end Newsfeed.Text
