import Newsfeed.Proofs.Annotated.Slicing
import Newsfeed.Proofs.Text.Outside
import Newsfeed.Proofs.Text.Units

/-!
# From characters to units

The unit at which a character begins comes after a unit for each character before it and one more
for each supplementary one.  Both ends of an entity move by the pairs up to its first character, so
they reach these units exactly if the entity neither begins with nor covers a supplementary
character, and it cuts out what it covers exactly if it covers none (`followText_eq_unitAt_iff`).
-/

namespace Newsfeed

open Text

namespace Text

/-- The unit at which a character of a text begins. -/
def unitAt (cs : List Char) (i : Nat) : Nat := length (cs.take i)

theorem take_append_cut {β : Type} (xs : List β) {i j : Nat} (hij : i ≤ j) :
    xs.take i ++ cut xs i j = xs.take j := by
  obtain ⟨n, rfl⟩ := Nat.exists_eq_add_of_le hij
  rw [cut, Nat.add_sub_cancel_left, List.take_add]

@[simp]
theorem cut_self {β : Type} (xs : List β) (i : Nat) : cut xs i i = [] := by
  rw [cut, Nat.sub_self, List.take_zero]

theorem length_cut_le {β : Type} (xs : List β) (i j : Nat) : (cut xs i j).length ≤ j - i :=
  List.length_take_le _ _

section Cut

variable {cs : List Char} {i j : Nat}

theorem unitAt_eq_add_supplements (hi : i ≤ cs.length) :
    unitAt cs i = i + supplements (cs.take i) := by
  rw [unitAt, length_eq_add_supplements, List.length_take, Nat.min_eq_left hi]

theorem supplements_take_add_cut (cs : List Char) (hij : i ≤ j) :
    supplements (cs.take i) + supplements (cut cs i j) = supplements (cs.take j) := by
  rw [← supplements_append, take_append_cut cs hij]

theorem unitAt_le_length (cs : List Char) (i : Nat) : unitAt cs i ≤ length cs := by
  have h := congrArg length (List.take_append_drop i cs)
  rw [length_append] at h
  exact Nat.le_of_add_right_le (Nat.le_of_eq h)

theorem unitAt_add_length_cut (cs : List Char) (hij : i ≤ j) :
    unitAt cs i + length (cut cs i j) = unitAt cs j := by
  rw [unitAt, unitAt, ← length_append, take_append_cut cs hij]

/-- The units between those at which two characters begin are those of what stands between them. -/
theorem cut_encode_unitAt (hij : i ≤ j) :
    cut (encode cs) (unitAt cs i) (unitAt cs j) = encode (cut cs i j) := by
  have hcut := cut_encode_append (cs.take i) (cut cs i j) (cs.drop j)
  rw [← List.append_assoc, take_append_cut cs hij, List.take_append_drop] at hcut
  rw [← unitAt_add_length_cut cs hij]
  exact hcut

/-- The units at which two characters begin cut out what stands between them. -/
theorem slice_of_toInt_eq_unitAt {start stop : Offset .display} (hij : i ≤ j)
    (hstart : start.toInt = unitAt cs i) (hstop : stop.toInt = unitAt cs j) :
    slice cs start stop = some (cut cs i j) := by
  have hi : start.count = unitAt cs i := by rw [Offset.count, hstart, Int.toNat_natCast]
  have hj : stop.count = unitAt cs j := by rw [Offset.count, hstop, Int.toNat_natCast]
  have hle := unitAt_add_length_cut cs hij
  have hlength := unitAt_le_length cs j
  refine slice_eq_some_iff.2 ⟨by omega, ?_⟩
  rw [hi, hj, cut_encode_unitAt hij, decode_encode]

theorem toInt_ofInt_unitAt (hword : (length cs : Int) ≤ Word.greatest) (i : Nat) :
    (.ofInt (unitAt cs i) : Offset .display).toInt = unitAt cs i :=
  Offset.toInt_ofInt_of_le (Int.le_trans (Int.ofNat_le.2 (unitAt_le_length cs i)) hword)

theorem slice_unitAt (hij : i ≤ j) (hword : (length cs : Int) ≤ Word.greatest) :
    slice cs (.ofInt (unitAt cs i)) (.ofInt (unitAt cs j)) = some (cut cs i j) :=
  slice_of_toInt_eq_unitAt hij (toInt_ofInt_unitAt hword i) (toInt_ofInt_unitAt hword j)

end Cut

end Text

/-- The stretch lies in the text. -/
structure Span.LiesIn (span : Span .raw) (text : List Char) : Prop where
  nonneg : 0 ≤ span.start.toInt
  ordered : span.start ≤ span.stop
  inside : span.stop.toInt ≤ text.length

instance (span : Span .raw) (text : List Char) : Decidable (span.LiesIn text) :=
  decidable_of_iff (0 ≤ span.start.toInt ∧ span.start ≤ span.stop ∧ span.stop.toInt ≤ text.length)
    ⟨fun ⟨h₁, h₂, h₃⟩ => ⟨h₁, h₂, h₃⟩, fun h => ⟨h.1, h.2, h.3⟩⟩

namespace Span.LiesIn

variable {span : Span .raw} {text : List Char} (h : span.LiesIn text)

include h

theorem start_le_stop : span.start.count ≤ span.stop.count := Offset.count_le_count h.ordered

theorem stop_le_length : span.stop.count ≤ text.length := by
  have := h.inside
  simp only [Offset.count]
  omega

/-- Both ends move by the pairs up to the first character. -/
theorem inUnits_eq :
    span.inUnits text =
      let shift := supplements (text.take (span.start.count + 1))
      ⟨.ofInt (span.start.count + shift : Nat), .ofInt (span.stop.count + shift : Nat)⟩ := by
  have hstart := Offset.count_eq h.nonneg
  have hstop := Offset.count_eq (Int.le_trans h.nonneg (Offset.le_iff_toInt_le.1 h.ordered))
  rw [inUnits, followPairs, ← hstart, ← hstop, pairShift_pairIndices]
  rfl

variable (hword : (length text : Int) ≤ Word.greatest)

include hword

/-- The start is right unless the stretch begins with a pair. -/
theorem toInt_start_inUnits :
    (span.inUnits text).start.toInt =
      unitAt text span.start.count +
        supplements (cut text span.start.count (span.start.count + 1)) := by
  have hlength := Nat.le_trans h.start_le_stop h.stop_le_length
  have hunits := unitAt_eq_add_supplements hlength
  have hinside := add_supplements_take_succ_le (Nat.le_refl _) hlength
  have hsplit := supplements_take_add_cut text (Nat.le_add_right span.start.count 1)
  rw [h.inUnits_eq]
  dsimp only
  rw [Offset.toInt_ofInt_of_le (by omega)]
  omega

/-- The stop lacks the pairs of the stretch but the first character's. -/
theorem toInt_stop_inUnits :
    (span.inUnits text).stop.toInt =
      unitAt text span.stop.count +
        supplements (cut text span.start.count (span.start.count + 1)) -
          supplements (cut text span.start.count span.stop.count) := by
  have hunits := unitAt_eq_add_supplements h.stop_le_length
  have hinside := add_supplements_take_succ_le h.start_le_stop h.stop_le_length
  have hfirst := supplements_take_add_cut text (Nat.le_add_right span.start.count 1)
  have hsplit := supplements_take_add_cut text h.start_le_stop
  rw [h.inUnits_eq]
  dsimp only
  rw [Offset.toInt_ofInt_of_le (by omega)]
  omega

/-- Both ends reach their units exactly if no character of the stretch, nor the one it stands
before, is supplementary. -/
theorem inUnits_eq_unitAt_iff :
    span.inUnits text =
        ⟨.ofInt (unitAt text span.start.count), .ofInt (unitAt text span.stop.count)⟩ ↔
      ∀ c ∈ cut text span.start.count (max span.stop.count (span.start.count + 1)),
        width c = 1 := by
  have hstart := h.toInt_start_inUnits hword
  have hstop := h.toInt_stop_inUnits hword
  have hunit := toInt_ofInt_unitAt hword
  have hle := h.start_le_stop
  generalize span.inUnits text = placed at hstart hstop ⊢
  obtain ⟨start, stop⟩ := placed
  generalize span.start.count = i at hstart hstop hle ⊢
  generalize span.stop.count = j at hstart hstop hle ⊢
  have hnone : (⟨start, stop⟩ : Span .display) = ⟨.ofInt (unitAt text i), .ofInt (unitAt text j)⟩ ↔
      supplements (cut text i (i + 1)) = 0 ∧ supplements (cut text i j) = 0 := by
    rw [Span.mk.injEq, ← Offset.toInt_inj, ← Offset.toInt_inj, hunit, hunit, hstart, hstop]
    omega
  rw [hnone, ← supplements_eq_zero_iff]
  rcases Nat.eq_or_lt_of_le hle with rfl | hlt
  · rw [cut_self, supplements_nil, Nat.max_eq_right (Nat.le_succ i)]
    simp
  · have hfirst := supplements_take_le text hlt
    have hone := supplements_take_add_cut text (Nat.le_add_right i 1)
    have hall := supplements_take_add_cut text hle
    rw [Nat.max_eq_left hlt]
    simp only [Nat.succ_eq_add_one] at hfirst
    omega

/-- What is cut out is what the stretch covers exactly if that has no supplementary character. -/
theorem slice_inUnits_iff :
    slice text (span.inUnits text).start (span.inUnits text).stop =
        some (cut text span.start.count span.stop.count) ↔
      ∀ c ∈ cut text span.start.count span.stop.count, width c = 1 := by
  have hle := h.start_le_stop
  have hcovers : length (cut text span.start.count span.stop.count) =
      span.stop.count - span.start.count +
        supplements (cut text span.start.count span.stop.count) := by
    have := h.stop_le_length
    rw [length_eq_add_supplements, cut, List.length_take, List.length_drop]
    omega
  constructor
  · -- only as many units are cut out as the stretch has characters
    intro hslice
    have hinside := add_supplements_take_succ_le hle h.stop_le_length
    rw [h.inUnits_eq, slice_ofInt (by omega) hinside hword, Option.some.injEq] at hslice
    have hunits := length_decode (cut (encode text)
      (span.start.count + supplements (text.take (span.start.count + 1)))
      (span.stop.count + supplements (text.take (span.start.count + 1))))
    have hcut := length_cut_le (encode text)
      (span.start.count + supplements (text.take (span.start.count + 1)))
      (span.stop.count + supplements (text.take (span.start.count + 1)))
    rw [hslice, hcovers] at hunits
    rw [← supplements_eq_zero_iff]
    omega
  · intro hplain
    rcases Nat.eq_or_lt_of_le hle with heq | hlt
    · have hinside := add_supplements_take_le (heq ▸ h.stop_le_length)
      rw [h.inUnits_eq, ← heq, slice_ofInt (Nat.le_refl _) hinside hword, cut_self, cut_self]
      rfl
    · have hmax : max span.stop.count (span.start.count + 1) = span.stop.count :=
        Nat.max_eq_left hlt
      rw [(h.inUnits_eq_unitAt_iff hword).2 (by rwa [hmax])]
      exact slice_unitAt hle hword

end Span.LiesIn

/-- An entity that lies in the text stays itself; its start moves to the unit of its first
character, or into the middle of that character's pair, and its stop falls short by the other pairs
that the entity covers.  So both are right exactly if neither the first character nor one that the
entity covers is supplementary, and the entity cuts out what it covers exactly if it covers no
supplementary character.  The text is held in memory, so its length is a word. -/
theorem followText_eq_unitAt_iff {text : List Char}
    (hword : (length text : Int) ≤ Word.greatest) {entities : List (Entity .raw)} {k : Nat}
    {e : Entity .raw} (he : entities[k]? = some e) (hin : e.span.LiesIn text) :
    let i := e.span.start.count
    let j := e.span.stop.count
    ∃ placed, (followText text entities)[k]? = some (e.place placed) ∧
      placed.start.toInt = unitAt text i + supplements (cut text i (i + 1)) ∧
      placed.stop.toInt =
        unitAt text j + supplements (cut text i (i + 1)) - supplements (cut text i j) ∧
      (placed = ⟨.ofInt (unitAt text i), .ofInt (unitAt text j)⟩ ↔
        ∀ c ∈ cut text i (max j (i + 1)), width c = 1) ∧
      (slice text placed.start placed.stop = some (cut text i j) ↔
        ∀ c ∈ cut text i j, width c = 1) := by
  refine ⟨e.span.inUnits text, ?_, hin.toInt_start_inUnits hword, hin.toInt_stop_inUnits hword,
    hin.inUnits_eq_unitAt_iff hword, hin.slice_inUnits_iff hword⟩
  rw [followText, followPairs, List.getElem?_map, he]
  rfl

/-- A link over an emoji and one over the letter behind it. -/
def emojiAndLetter : List (Entity .raw) :=
  [⟨⟨⟨1⟩, ⟨2⟩⟩, "e", none, none, .url⟩, ⟨⟨⟨2⟩, ⟨3⟩⟩, "l", none, none, .url⟩]

/-- The link over the emoji starts inside the pair and cuts out something else; the other one is
right. -/
theorem followText_emojiAndLetter :
    (∃ placed, (followText ['a', '😀', 'b'] emojiAndLetter)[0]? =
        some ((⟨⟨⟨1⟩, ⟨2⟩⟩, "e", none, none, .url⟩ : Entity .raw).place placed) ∧
      placed.start.toInt = 2 ∧ placed.stop.toInt = 3 ∧
      slice ['a', '😀', 'b'] placed.start placed.stop ≠ some ['😀']) ∧
    ∃ placed, (followText ['a', '😀', 'b'] emojiAndLetter)[1]? =
        some ((⟨⟨⟨2⟩, ⟨3⟩⟩, "l", none, none, .url⟩ : Entity .raw).place placed) ∧
      placed = ⟨.ofInt 3, .ofInt 4⟩ ∧
      slice ['a', '😀', 'b'] placed.start placed.stop = some ['b'] := by
  have hword : (length ['a', '😀', 'b'] : Int) ≤ Word.greatest := by decide
  constructor
  · obtain ⟨placed, hplaced, hstart, hstop, -, hslice⟩ :=
      followText_eq_unitAt_iff hword (rfl : emojiAndLetter[0]? = some _) (by decide)
    refine ⟨placed, hplaced, hstart.trans (by decide), hstop.trans (by decide), fun hcut => ?_⟩
    exact absurd (supplements_eq_zero_iff.2 (hslice.1 hcut)) (by decide)
  · obtain ⟨placed, hplaced, -, -, hboth, hslice⟩ :=
      followText_eq_unitAt_iff hword (rfl : emojiAndLetter[1]? = some _) (by decide)
    exact ⟨placed, hplaced, hboth.2 (supplements_eq_zero_iff.1 (by decide)),
      hslice.2 (supplements_eq_zero_iff.1 (by decide))⟩

end Newsfeed
