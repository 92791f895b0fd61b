import Newsfeed.Proofs.Annotated.Pairs
import Newsfeed.Proofs.Annotated.Sweep
import Newsfeed.Proofs.Text.Pieces

/-!
# Where entities lie in the shown text

The place of a cut of the raw text, counted in characters of the unescaped text, is the length of
what stands before the cut (`placeAlone_unescape`).  The pairs take an entity without
supplementary characters to the same place counted in units (`followText_eq_relocate`).
-/

namespace Newsfeed

open Text

namespace Sweep

/-! ## Collapses of a text -/

theorem total_collapsesFrom {n : Nat} {ps : List Piece} (hpos : ∀ p ∈ ps, 0 < p.size)
    (hword : (n + sizes ps : Int) ≤ Word.greatest) :
    total (collapsesFrom n ps) = sizes ps - ps.length := by
  induction ps generalizing n with
  | nil => rfl
  | cons p ps ih =>
    obtain ⟨hp, hps⟩ := List.forall_mem_cons.1 hpos
    rw [sizes_cons] at hword ⊢
    cases p with
    | char c =>
      simp only [Piece.size] at hword
      rw [collapsesFrom, ih hps (by omega)]
      simp only [Piece.size, List.length_cons]
      omega
    | reference c size =>
      simp only [Piece.size] at hword hp
      have hshrinkage :
          (⟨.ofInt n, .ofInt (n + size - 1)⟩ : Collapse).shrinkage.toInt = size - 1 := by
        simp only [Collapse.shrinkage, Offset.distance, Word.toInt_clamp, Offset.toInt_ofInt,
          Word.least, Word.greatest] at hword ⊢
        omega
      rw [collapsesFrom, total_cons, hshrinkage, ih hps (by omega)]
      simp only [Piece.size, List.length_cons]
      omega

/-- The collapses that end before a cut are those of what stands before it. -/
theorem endingBefore_collapsesFrom {ps qs : List Piece} (hpos : ∀ q ∈ qs, 0 < q.size)
    {o : Offset .raw} (ho : o.toInt = sizes ps) :
    endingBefore (collapsesFrom 0 (ps ++ qs)) o = collapsesFrom 0 ps := by
  have hword : (sizes ps : Int) ≤ Word.greatest := ho ▸ o.toInt_le_greatest
  rw [collapsesFrom_append, endingBefore, List.filter_append, List.filter_eq_self.2,
    List.filter_eq_nil_iff.2, List.append_nil]
  · intro e he hlt
    have hle := le_last_of_mem_collapsesFrom hpos he
    rw [decide_eq_true_eq, Offset.lt_iff_toInt_lt] at hlt
    omega
  · intro e he
    have hlt := last_lt_of_mem_collapsesFrom he
    rw [decide_eq_true_eq, Offset.lt_iff_toInt_lt]
    omega

/-! ## Places -/

/-- A cut moves to the length of what stands before it. -/
theorem shift_endingBefore {raw : List Char} {p : Nat} (hp : IsCut raw p) {o : Offset .raw}
    (ho : o.toInt = p) :
    o.shift (-total (endingBefore (unescape raw).collapses o)) =
      .ofInt (unescape (raw.take p)).text.length := by
  obtain ⟨ps, qs, hps, rfl⟩ := hp
  have hpos : ∀ q ∈ ps ++ qs, 0 < q.size := hps ▸ size_pos_of_mem_pieces
  have hword := ho ▸ o.toInt_le_greatest
  have htotal := total_collapsesFrom (n := 0) (fun q hq => hpos q (List.mem_append_left qs hq))
    (by simpa using hword)
  have hbefore := endingBefore_collapsesFrom (fun q hq => hpos q (List.mem_append_right ps hq)) ho
  rw [unescape_take hps, unescape, hps, hbefore, htotal, Offset.shift, ho, List.length_map]
  congr 1
  omega

/-- Both ends of a stretch between cuts move to the lengths of what stands before them. -/
theorem placeAlone_unescape {raw : List Char} {span : Span .raw} {p q : Nat} (hp : IsCut raw p)
    (hq : IsCut raw q) (hpq : p ≤ q) (hstart : span.start.toInt = p) (hstop : span.stop.toInt = q) :
    placeAlone (unescape raw).collapses span =
      ⟨.ofInt (unescape (raw.take p)).text.length, .ofInt (unescape (raw.take q)).text.length⟩ := by
  have hle : span.start ≤ span.stop := by
    rw [Offset.le_iff_toInt_le]
    omega
  have hor : ((unescape raw).collapses.filter fun e => e.last < span.start ∨ e.last < span.stop) =
      endingBefore (unescape raw).collapses span.stop := by
    refine List.filter_congr fun e _ => ?_
    have himp : e.last < span.start → e.last < span.stop := fun h => Offset.lt_of_lt_of_le h hle
    simpa using himp
  rw [placeAlone, hor, shift_endingBefore hp hstart, shift_endingBefore hq hstop]

end Sweep

/-! ## Stretches that cut nothing in two -/

/-- The stretch lies in the text, and neither end lies inside a collapse. -/
structure Span.IsWhole (span : Span .raw) (raw : List Char) : Prop where
  nonneg : 0 ≤ span.start.toInt
  ordered : span.start ≤ span.stop
  inside : span.stop.toInt ≤ raw.length
  start : ∀ e ∈ (unescape raw).collapses, ¬ (e.first < span.start ∧ span.start ≤ e.last)
  stop : ∀ e ∈ (unescape raw).collapses, ¬ (e.first < span.stop ∧ span.stop ≤ e.last)

instance (span : Span .raw) (raw : List Char) : Decidable (span.IsWhole raw) :=
  decidable_of_iff
    (0 ≤ span.start.toInt ∧ span.start ≤ span.stop ∧ span.stop.toInt ≤ raw.length ∧
      (∀ e ∈ (unescape raw).collapses, ¬ (e.first < span.start ∧ span.start ≤ e.last)) ∧
      ∀ e ∈ (unescape raw).collapses, ¬ (e.first < span.stop ∧ span.stop ≤ e.last))
    ⟨fun ⟨h₁, h₂, h₃, h₄, h₅⟩ => ⟨h₁, h₂, h₃, h₄, h₅⟩, fun h => ⟨h.1, h.2, h.3, h.4, h.5⟩⟩

/-- The text that a stretch of the raw text is shown as. -/
def Span.shownText (span : Span .raw) (raw : List Char) : List Char :=
  (unescape (cut raw span.start.count span.stop.count)).text

/-- The number of units that are shown for what stands before a place. -/
def Text.unitsBefore (raw : List Char) (p : Nat) : Nat := length (unescape (raw.take p)).text

theorem isCut_count {raw : List Char} {o : Offset .raw} (h : 0 ≤ o.toInt)
    (hle : o.toInt ≤ raw.length)
    (hout : ∀ e ∈ (unescape raw).collapses, ¬ (e.first < o ∧ o ≤ e.last)) :
    IsCut raw o.count := by
  have hcount := Offset.count_eq h
  have hword := o.toInt_le_greatest
  refine isCut_of_not_inside (by omega) (by omega) fun e he => ?_
  rw [hcount, ← Offset.lt_iff_toInt_lt, ← Offset.le_iff_toInt_le]
  exact hout e he

namespace Span.IsWhole

variable {span : Span .raw} {raw : List Char} (h : span.IsWhole raw)

include h

theorem start_le_stop : span.start.toInt ≤ span.stop.toInt := Offset.le_iff_toInt_le.1 h.ordered

theorem isCut_start : IsCut raw span.start.count := by
  have := h.start_le_stop
  have := h.inside
  exact isCut_count h.nonneg (by omega) h.start

theorem isCut_stop : IsCut raw span.stop.count := by
  have := h.start_le_stop
  have := h.nonneg
  exact isCut_count (by omega) h.inside h.stop

theorem count_le_count : span.start.count ≤ span.stop.count := by
  have := h.start_le_stop
  simp only [Offset.count]
  omega

theorem placeAlone_eq :
    Sweep.placeAlone (unescape raw).collapses span =
      ⟨.ofInt (unescape (raw.take span.start.count)).text.length,
        .ofInt (unescape (raw.take span.stop.count)).text.length⟩ := by
  have hstart := Offset.count_eq h.nonneg
  have hstop := Offset.count_eq (Int.le_trans h.nonneg h.start_le_stop)
  exact Sweep.placeAlone_unescape h.isCut_start h.isCut_stop h.count_le_count hstart.symm hstop.symm

/-- Both ends of a stretch move by the pairs up to its first character. -/
theorem followPairs_placeAlone :
    (Sweep.placeAlone (unescape raw).collapses span).followPairs
        ((pairIndices (unescape raw).text).map Int.ofNat) =
      let i := (unescape (raw.take span.start.count)).text.length
      let j := (unescape (raw.take span.stop.count)).text.length
      let shift := supplements ((unescape raw).text.take (i + 1))
      ⟨.ofInt (i + shift : Nat), .ofInt (j + shift : Nat)⟩ := by
  have hword {o : Offset .raw} (ho : 0 ≤ o.toInt) :
      ((unescape (raw.take o.count)).text.length : Int) ≤ Word.greatest := by
    have hlen := length_unescape_le (raw.take o.count)
    have hcount := Offset.count_eq ho
    have := o.toInt_le_greatest
    rw [List.length_take] at hlen
    omega
  have hstart := hword h.nonneg
  have hstop := hword (Int.le_trans h.nonneg h.start_le_stop)
  rw [h.placeAlone_eq, followPairs]
  dsimp only
  rw [Offset.toInt_ofInt_of_le hstart, Offset.toInt_ofInt_of_le hstop, pairShift_pairIndices]
  rfl

theorem text_eq_append :
    (unescape raw).text =
      (unescape (raw.take span.start.count)).text ++ (span.shownText raw ++
        (unescape (cut raw span.stop.count raw.length)).text) := by
  have hlast := unescape_take_append h.isCut_stop (isCut_length raw) h.isCut_stop.le_length
  rw [List.take_length, unescape_take_append h.isCut_start h.isCut_stop h.count_le_count] at hlast
  rw [hlast, List.append_assoc]
  rfl

theorem shownText_ne_nil (hlt : span.start < span.stop) : span.shownText raw ≠ [] := by
  refine unescape_cut_ne_nil h.isCut_start h.isCut_stop ?_
  have := Offset.lt_iff_toInt_lt.1 hlt
  have := h.nonneg
  simp only [Offset.count]
  omega

/-- A stretch without supplementary characters covers in units what it covers in the raw text. -/
theorem followPairs_of_plain (hlt : span.start < span.stop)
    (plain : ∀ c ∈ span.shownText raw, width c = 1) :
    (Sweep.placeAlone (unescape raw).collapses span).followPairs
        ((pairIndices (unescape raw).text).map Int.ofNat) =
      ⟨.ofInt (unitsBefore raw span.start.count), .ofInt (unitsBefore raw span.stop.count)⟩ := by
  have hnone : supplements (span.shownText raw) = 0 := by
    refine List.countP_eq_zero.2 fun c hc => ?_
    simp [plain c hc]
  have hshift : supplements ((unescape raw).text.take
      ((unescape (raw.take span.start.count)).text.length + 1)) =
        supplements (unescape (raw.take span.start.count)).text := by
    obtain ⟨c, cs, hcs⟩ := List.exists_cons_of_ne_nil (h.shownText_ne_nil hlt)
    have hc : width c = 1 := plain c (by rw [hcs]; exact List.mem_cons_self)
    rw [h.text_eq_append, hcs, List.take_length_add_append, List.cons_append, List.take_succ_cons,
      List.take_zero, supplements_append, supplements_cons, hc]
    rfl
  have hstart : unitsBefore raw span.start.count =
      (unescape (raw.take span.start.count)).text.length +
        supplements (unescape (raw.take span.start.count)).text := length_eq_add_supplements _
  have hstop : unitsBefore raw span.stop.count =
      (unescape (raw.take span.stop.count)).text.length +
        supplements (unescape (raw.take span.start.count)).text := by
    rw [unitsBefore, length_eq_add_supplements,
      unescape_take_append h.isCut_start h.isCut_stop h.count_le_count, supplements_append]
    have : supplements (unescape (cut raw span.start.count span.stop.count)).text = 0 := hnone
    rw [this, Nat.add_zero]
  rw [h.followPairs_placeAlone]
  dsimp only
  rw [hshift, hstart, hstop]

end Span.IsWhole

/-! ## Units before a cut -/

section Units

variable {raw : List Char} {p q : Nat}

theorem unitsBefore_add (hp : IsCut raw p) (hq : IsCut raw q) (hpq : p ≤ q) :
    unitsBefore raw q = unitsBefore raw p + length (unescape (cut raw p q)).text := by
  rw [unitsBefore, unescape_take_append hp hq hpq, length_append]
  rfl

theorem unitsBefore_lt (hp : IsCut raw p) (hq : IsCut raw q) (hpq : p < q) :
    unitsBefore raw p < unitsBefore raw q := by
  have hne := unescape_cut_ne_nil hp hq hpq
  have hadd := unitsBefore_add hp hq (Nat.le_of_lt hpq)
  have hpos := List.length_pos_iff.2 hne
  rw [length_eq_add_supplements (unescape (cut raw p q)).text] at hadd
  omega

theorem unitsBefore_le_iff (hp : IsCut raw p) (hq : IsCut raw q) :
    unitsBefore raw p ≤ unitsBefore raw q ↔ p ≤ q := by
  constructor
  · intro h
    refine Nat.le_of_not_lt fun hqp => ?_
    have := unitsBefore_lt hq hp hqp
    omega
  · intro h
    rcases Nat.lt_or_eq_of_le h with h | rfl
    · exact Nat.le_of_lt (unitsBefore_lt hp hq h)
    · exact Nat.le_refl _

@[simp]
theorem unitsBefore_zero (raw : List Char) : unitsBefore raw 0 = 0 := by
  simp [unitsBefore, unescape, pieces]

theorem unitsBefore_length (raw : List Char) :
    unitsBefore raw raw.length = length (unescape raw).text := by
  rw [unitsBefore, List.take_length]

theorem unitsBefore_le_length (hp : IsCut raw p) :
    unitsBefore raw p ≤ length (unescape raw).text := by
  rw [← unitsBefore_length, unitsBefore_le_iff hp (isCut_length raw)]
  exact hp.le_length

/-- Unescaping makes no text longer. -/
theorem length_unescape_text_le (raw : List Char) : length (unescape raw).text ≤ length raw := by
  induction h : raw.length using Nat.strongRecOn generalizing raw with
  | ind m ih =>
    cases raw with
    | nil => simp [unescape, pieces]
    | cons c rest =>
      obtain ⟨p, hp⟩ := exists_begins c rest
      have hpos := hp.size_pos
      have hle := hp.size_le
      have hrest := ih _ (by simp [← h]; omega) ((c :: rest).drop p.size) rfl
      have hsplit : length (c :: rest) =
          length ((c :: rest).take p.size) + length ((c :: rest).drop p.size) := by
        rw [← length_append, List.take_append_drop]
      have hpiece : width p.value ≤ length ((c :: rest).take p.size) := by
        cases hp with
        | char => simp [Piece.value, Piece.size]
        | @reference d n =>
          have hchars := length_eq_add_supplements ((c :: rest).take (n + 2))
          have hwidth := width_eq_one_or_two d
          simp only [Piece.size, List.length_take, List.length_cons] at hchars hle ⊢
          simp only [Piece.value]
          omega
      have htext : length (unescape (c :: rest)).text =
          width p.value + length (unescape ((c :: rest).drop p.size)).text := by
        simp only [unescape, hp.pieces_eq, List.map_cons, length_cons]
      omega

/-- The units between two cuts are those of what stands between them. -/
theorem cut_encode (hp : IsCut raw p) (hq : IsCut raw q) (hpq : p ≤ q) :
    cut (encode (unescape raw).text) (unitsBefore raw p) (unitsBefore raw q) =
      encode (unescape (cut raw p q)).text := by
  have hrest := unescape_take_append hq (isCut_length raw) hq.le_length
  rw [List.take_length, unescape_take_append hp hq hpq, List.append_assoc] at hrest
  have hlen : unitsBefore raw p = (encode (unescape (raw.take p)).text).length :=
    (length_encode _).symm
  rw [hrest, cut, unitsBefore_add hp hq hpq, Nat.add_sub_cancel_left, encode_append, encode_append,
    hlen, List.drop_left, ← length_encode, List.take_left]

end Units

/-! ## Entities -/

/-- The entity at the place where what it covers is shown. -/
def Entity.relocate (raw : List Char) (e : Entity .raw) : Entity .display :=
  e.place ⟨.ofInt (unitsBefore raw e.span.start.count), .ofInt (unitsBefore raw e.span.stop.count)⟩

/-- Entities in ascending order are moved one by one. -/
theorem followText_followCollapses (raw : List Char) {entities : List (Entity .raw)}
    (hsorted : entities.Pairwise fun a b => a.span.start ≤ b.span.start) :
    followText (unescape raw).text (followCollapses (unescape raw).collapses entities) =
      entities.map fun e => e.place ((Sweep.placeAlone (unescape raw).collapses e.span).followPairs
        ((pairIndices (unescape raw).text).map Int.ofNat)) := by
  have hcollapses : (unescape raw).collapses.Pairwise fun a b => a.last ≤ b.last :=
    pairwise_collapsesFrom 0 size_pos_of_mem_pieces
  have hspans : (entities.map Entity.span).Pairwise fun a b => a.start ≤ b.start :=
    List.pairwise_map.2 hsorted
  rw [followText, followPairs, followCollapses, Sweep.run_start_eq_map hcollapses hspans,
    List.map_map, List.zipWith_map_right, List.zipWith_self, List.map_map]
  rfl

theorem followText_eq_relocate {raw : List Char} {entities : List (Entity .raw)}
    (hsorted : entities.Pairwise fun a b => a.span.start ≤ b.span.start)
    (hwhole : ∀ e ∈ entities, e.span.IsWhole raw)
    (hlt : ∀ e ∈ entities, e.span.start < e.span.stop)
    (hplain : ∀ e ∈ entities, ∀ c ∈ e.span.shownText raw, width c = 1) :
    followText (unescape raw).text (followCollapses (unescape raw).collapses entities) =
      entities.map (Entity.relocate raw) := by
  rw [followText_followCollapses raw hsorted]
  refine List.map_congr_left fun e he => ?_
  rw [(hwhole e he).followPairs_of_plain (hlt e he) (hplain e he)]
  rfl

/-- The entities of a post over its raw text. -/
def Post.staged (p : Post) : Annotated .raw := Annotated.empty.addEntities p

/-- A post with a text is shown as that text unescaped, and both lists of entities follow it. -/
theorem Post.annotated_eq_of_rawText_ne {p : Post} (htext : p.rawText ≠ "") :
    p.annotated = ⟨String.ofList (unescape p.rawText.toList).text,
      followText (unescape p.rawText.toList).text
        (followCollapses (unescape p.rawText.toList).collapses
          (Annotated.empty.addEntities p).links),
      followText (unescape p.rawText.toList).text
        (followCollapses (unescape p.rawText.toList).collapses
          (Annotated.empty.addEntities p).media)⟩ := by
  have hraw : ¬ p.rawText.toList.isEmpty = true := by
    rw [List.isEmpty_iff, String.toList_eq_nil_iff]
    exact htext
  rw [annotated, Annotated.reconcile]
  dsimp only
  rw [if_neg hraw]

end Newsfeed
