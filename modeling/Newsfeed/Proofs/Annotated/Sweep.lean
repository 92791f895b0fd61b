import Newsfeed.Annotated.Reconcile
import Newsfeed.Proofs.Offset

/-!
# One sweep over all entities

`Sweep.run` passes every collapse once and carries a running total.  If the collapses are in order
and the stretches ascend by their start, each stretch is nevertheless moved as if it looked at all
collapses by itself: its start by those that end before it, and its stop by those that end before
either bound (`run_start_eq_map`).
-/

namespace Newsfeed

namespace Sweep

/-! ## Totals -/

@[simp]
theorem total_nil : total [] = 0 := rfl

@[simp]
theorem total_cons (e : Collapse) (es : List Collapse) :
    total (e :: es) = e.shrinkage.toInt + total es := rfl

@[simp]
theorem total_append (es fs : List Collapse) : total (es ++ fs) = total es + total fs := by
  induction es with
  | nil => simp
  | cons e es ih => simp [ih, Int.add_assoc]

theorem total_filter_add (P Q : Collapse → Prop) [DecidablePred P] [DecidablePred Q]
    (es : List Collapse) :
    total (es.filter P) + total (es.filter fun e => ¬ P e ∧ Q e) =
      total (es.filter fun e => P e ∨ Q e) := by
  induction es with
  | nil => rfl
  | cons e es ih =>
    simp only [List.filter_cons, decide_eq_true_eq]
    by_cases hP : P e
    · simp only [hP, not_true_eq_false, false_and, true_or, if_true, if_false, total_cons, ← ih]
      omega
    · by_cases hQ : Q e
      · simp only [hP, hQ, not_false_eq_true, and_self, or_true, if_true, if_false, total_cons,
          ← ih]
        omega
      · simpa only [hP, hQ, and_false, or_self, if_false] using ih

/-! ## Collapses in order -/

/-- The collapses that end before a place. -/
def endingBefore (es : List Collapse) (p : Offset .raw) : List Collapse := es.filter (·.last < p)

/-- The sweep that has passed what ends before a place. -/
def upTo (es : List Collapse) (p : Offset .raw) : Sweep :=
  ⟨(endingBefore es p).length, total (endingBefore es p)⟩

/-- Where a stretch lies in the unescaped text, as all collapses together say. -/
def placeAlone (es : List Collapse) (span : Span .raw) : Span .raw :=
  ⟨span.start.shift (-total (endingBefore es span.start)),
    span.stop.shift (-total (es.filter fun e => e.last < span.start ∨ e.last < span.stop))⟩

variable {es : List Collapse} {p : Offset .raw} {span : Span .raw}

/-- In order, what ends before a place stands in front. -/
theorem endingBefore_append_filter (hes : es.Pairwise fun a b => a.last ≤ b.last)
    (p : Offset .raw) : endingBefore es p ++ es.filter (fun e => ¬ e.last < p) = es := by
  induction es with
  | nil => rfl
  | cons e es ih =>
    obtain ⟨he, hes⟩ := List.pairwise_cons.1 hes
    by_cases hp : e.last < p
    · simpa [endingBefore, hp] using ih hes
    · have hall : ∀ f ∈ e :: es, ¬ f.last < p :=
        List.forall_mem_cons.2 ⟨hp, fun f hf hlt => hp (Offset.lt_of_le_of_lt (he f hf) hlt)⟩
      rw [endingBefore, List.filter_eq_nil_iff.2 (by simpa using hall),
        List.filter_eq_self.2 (by simpa using hall), List.nil_append]

theorem drop_endingBefore (hes : es.Pairwise fun a b => a.last ≤ b.last) (p : Offset .raw) :
    es.drop (endingBefore es p).length = es.filter fun e => ¬ e.last < p := by
  have h := endingBefore_append_filter hes p
  generalize endingBefore es p = passed at h
  rw [← h, List.drop_left, h]

/-- What a sweep passes on its way to a stretch. -/
theorem endingBefore_append_before (hes : es.Pairwise fun a b => a.last ≤ b.last)
    (hp : p ≤ span.start) :
    endingBefore es p ++ (upTo es p).before es span = endingBefore es span.start := by
  have hpassed : (endingBefore es p).filter (·.last < span.start) = endingBefore es p := by
    refine List.filter_eq_self.2 fun e he => ?_
    have hlt : e.last < p := by simpa [endingBefore] using (List.mem_filter.1 he).2
    simpa only [decide_eq_true_eq] using Offset.lt_of_lt_of_le hlt hp
  calc endingBefore es p ++ (upTo es p).before es span
      = (endingBefore es p).filter (·.last < span.start) ++
          (es.filter fun e => ¬ e.last < p).filter (·.last < span.start) := by
        rw [hpassed, before, upTo, drop_endingBefore hes]
    _ = endingBefore es span.start := by
        rw [← List.filter_append, endingBefore_append_filter hes, endingBefore]

theorem advance_upTo (hes : es.Pairwise fun a b => a.last ≤ b.last) (hp : p ≤ span.start) :
    (upTo es p).advance es span = upTo es span.start := by
  have h := endingBefore_append_before hes hp
  rw [upTo, upTo, advance, ← h, List.length_append, total_append]
  rfl

theorem inside_upTo (hes : es.Pairwise fun a b => a.last ≤ b.last) (hp : p ≤ span.start) :
    (upTo es p).inside es span =
      es.filter fun e => ¬ e.last < span.start ∧ e.last < span.stop := by
  rw [inside, upTo, drop_endingBefore hes, List.filter_filter]
  refine List.filter_congr fun e _ => ?_
  have himp : ¬ e.last < span.start → ¬ e.last < p := fun h hlt =>
    h (Offset.lt_of_lt_of_le hlt hp)
  by_cases hstart : e.last < span.start
  · simp [hstart]
  · simp [hstart, himp hstart]

theorem place_upTo (hes : es.Pairwise fun a b => a.last ≤ b.last) (hp : p ≤ span.start) :
    (upTo es p).place es span = placeAlone es span := by
  have htotal := total_filter_add (·.last < span.start) (·.last < span.stop) es
  rw [place, advance_upTo hes hp, inside_upTo hes hp, placeAlone, ← htotal]
  rfl

theorem run_upTo (hes : es.Pairwise fun a b => a.last ≤ b.last) {spans : List (Span .raw)}
    (hspans : spans.Pairwise fun a b => a.start ≤ b.start) (hp : ∀ span ∈ spans, p ≤ span.start) :
    run es (upTo es p) spans = spans.map (placeAlone es) := by
  induction spans generalizing p with
  | nil => rfl
  | cons span spans ih =>
    obtain ⟨hspan, hspans⟩ := List.pairwise_cons.1 hspans
    have hfirst := hp span List.mem_cons_self
    rw [run, place_upTo hes hfirst, advance_upTo hes hfirst, ih hspans hspan, List.map_cons]

theorem upTo_minValue (es : List Collapse) : upTo es ⟨Int64.minValue⟩ = start := by
  have hnone : endingBefore es ⟨Int64.minValue⟩ = [] := by
    refine List.filter_eq_nil_iff.2 fun e _ => ?_
    rw [decide_eq_true_eq]
    exact Int64.not_lt.2 (Int64.minValue_le e.last.value)
  rw [upTo, hnone]
  rfl

/-- The sweep moves every stretch as if it were alone. -/
theorem run_start_eq_map (hes : es.Pairwise fun a b => a.last ≤ b.last) {spans : List (Span .raw)}
    (hspans : spans.Pairwise fun a b => a.start ≤ b.start) :
    run es .start spans = spans.map (placeAlone es) := by
  rw [← upTo_minValue es]
  exact run_upTo hes hspans fun span _ => Int64.minValue_le span.start.value

/-! ## Sums on the way -/

theorem shrinkage_nonneg {e : Collapse} (h : e.first ≤ e.last) : 0 ≤ e.shrinkage.toInt := by
  rw [Offset.le_iff_toInt_le] at h
  rw [Collapse.shrinkage, Offset.distance, Word.toInt_clamp]
  simp only [Word.least, Word.greatest]
  omega

theorem before_sublist (w : Sweep) (es : List Collapse) (span : Span .raw) :
    (w.before es span).Sublist es := List.filter_sublist.trans (List.drop_sublist w.passed es)

theorem inside_sublist (w : Sweep) (es : List Collapse) (span : Span .raw) :
    (w.inside es span).Sublist es := List.filter_sublist.trans (List.drop_sublist w.passed es)

section Sums

variable (hnonneg : ∀ e ∈ es, 0 ≤ e.shrinkage.toInt) {fs : List Collapse}

include hnonneg

theorem total_nonneg : 0 ≤ total es := by
  induction es with
  | nil => exact Int.le_refl 0
  | cons e es ih =>
    obtain ⟨he, hes⟩ := List.forall_mem_cons.1 hnonneg
    exact Int.add_nonneg he (ih hes)

theorem total_nonneg_of_sublist (h : fs.Sublist es) : 0 ≤ total fs :=
  total_nonneg fun e he => hnonneg e (h.mem he)

theorem total_le_of_sublist (h : fs.Sublist es) : total fs ≤ total es := by
  induction h with
  | slnil => exact Int.le_refl 0
  | cons e _ ih =>
    obtain ⟨he, hes⟩ := List.forall_mem_cons.1 hnonneg
    have := ih hes
    rw [total_cons]
    omega
  | cons_cons e _ ih => exact Int.add_le_add_left (ih (List.forall_mem_cons.1 hnonneg).2) _

/-- No collapse ends both before a stretch and inside it. -/
theorem total_before_add_inside_le (w : Sweep) (span : Span .raw) :
    total (w.before es span) + total (w.inside es span) ≤ total (es.drop w.passed) := by
  have hrest : ∀ e ∈ es.drop w.passed, 0 ≤ e.shrinkage.toInt :=
    fun e he => hnonneg e (List.mem_of_mem_drop he)
  rw [before, inside, total_filter_add]
  exact total_le_of_sublist hrest List.filter_sublist

end Sums

theorem take_passed_advance (hes : es.Pairwise fun a b => a.last ≤ b.last) (w : Sweep)
    (span : Span .raw) :
    es.take (w.advance es span).passed = es.take w.passed ++ w.before es span := by
  have hrest := endingBefore_append_filter (hes.sublist (List.drop_sublist w.passed es)) span.start
  have hfront : w.before es span <+: es.drop w.passed := ⟨_, hrest⟩
  rw [advance, List.take_add, ← List.prefix_iff_eq_take.1 hfront]

/-- The running total is that of the collapses in front, so none is counted twice. -/
structure Exact (es : List Collapse) (w : Sweep) : Prop where
  passed_le : w.passed ≤ es.length
  shortened_eq : w.shortened = total (es.take w.passed)

theorem exact_start (es : List Collapse) : start.Exact es := ⟨Nat.zero_le _, rfl⟩

theorem Exact.advance {w : Sweep} (h : w.Exact es) (hes : es.Pairwise fun a b => a.last ≤ b.last)
    (span : Span .raw) : (w.advance es span).Exact es where
  passed_le := by
    have hbefore : (w.before es span).length ≤ (es.drop w.passed).length :=
      List.length_filter_le _ _
    have hpassed := h.passed_le
    rw [List.length_drop] at hbefore
    simp only [Sweep.advance]
    omega
  shortened_eq := by
    rw [take_passed_advance hes, total_append, ← h.shortened_eq]
    rfl

theorem Exact.shortened_add_total_drop {w : Sweep} (h : w.Exact es) :
    w.shortened + total (es.drop w.passed) = total es := by
  rw [h.shortened_eq, ← total_append, List.take_append_drop]

/-- What is added up for the next stretch lies between zero and the total of all collapses. -/
theorem Exact.sums {w : Sweep} (h : w.Exact es) (hnonneg : ∀ e ∈ es, 0 ≤ e.shrinkage.toInt)
    (span : Span .raw) :
    0 ≤ (w.advance es span).shortened ∧ 0 ≤ total (w.inside es span) ∧
      (w.advance es span).shortened + total (w.inside es span) ≤ total es := by
  have hadvance : (w.advance es span).shortened = w.shortened + total (w.before es span) := rfl
  have htake := total_nonneg_of_sublist hnonneg (List.take_sublist w.passed es)
  have hbefore := total_nonneg_of_sublist hnonneg (w.before_sublist es span)
  have hinside := total_nonneg_of_sublist hnonneg (w.inside_sublist es span)
  have hrest := total_before_add_inside_le hnonneg w span
  have hall := h.shortened_add_total_drop
  rw [← h.shortened_eq] at htake
  exact ⟨by omega, hinside, by omega⟩

/-- A sweep over a text is one over its beginning as long as it passes nothing behind that. -/
theorem Exact.take {w : Sweep} (h : w.Exact es) (m : Nat) : w.Exact (es.take (w.passed + m)) where
  passed_le := by
    have := h.passed_le
    rw [List.length_take]
    omega
  shortened_eq := by
    rw [List.take_take, Nat.min_eq_left (Nat.le_add_right _ _), ← h.shortened_eq]

theorem Exact.of_take {w : Sweep} {m : Nat} (h : w.Exact (es.take m)) : w.Exact es where
  passed_le := Nat.le_trans h.passed_le (List.take_sublist m es).length_le
  shortened_eq := by
    have hpassed := h.passed_le
    rw [List.length_take] at hpassed
    rw [h.shortened_eq, List.take_take, Nat.min_eq_left (by omega)]

/-- The sweep once it has come over some stretches. -/
def after (es : List Collapse) (spans : List (Span .raw)) : Sweep :=
  spans.foldl (fun w span => w.advance es span) .start

theorem exact_after (hes : es.Pairwise fun a b => a.last ≤ b.last) (spans : List (Span .raw)) :
    (after es spans).Exact es := by
  have hstart := exact_start es
  rw [after]
  generalize start = w at hstart
  induction spans generalizing w with
  | nil => exact hstart
  | cons span spans ih => exact ih _ (hstart.advance hes span)

/-- What is added up for the next stretch lies between zero and the total of all collapses. -/
theorem sums_after (hes : es.Pairwise fun a b => a.last ≤ b.last)
    (hnonneg : ∀ e ∈ es, 0 ≤ e.shrinkage.toInt) (spans : List (Span .raw)) (span : Span .raw) :
    let w := after es spans
    0 ≤ (w.advance es span).shortened ∧ 0 ≤ total (w.inside es span) ∧
      (w.advance es span).shortened + total (w.inside es span) ≤ total es :=
  (exact_after hes spans).sums hnonneg span

end Sweep

/-! ## Entities -/

/-- Entities in order of their start are moved as if each of them looked at all collapses by itself,
and every sum that the sweep forms on the way is a word. -/
theorem followCollapses_eq_map {es : List Collapse} {entities : List (Entity .raw)}
    (hsorted : entities.Pairwise fun a b => a.span.start ≤ b.span.start)
    (hes : ∀ e ∈ es, e.first ≤ e.last) (hdisjoint : es.Pairwise fun a b => a.last < b.first)
    (hfits : Sweep.total es ≤ Word.greatest) :
    (followCollapses es entities = entities.map fun e => e.place
      ⟨e.span.start.shift (-Sweep.total (es.filter fun c => c.last < e.span.start)),
        e.span.stop.shift (-Sweep.total (es.filter fun c =>
          c.last < e.span.start ∨ c.last < e.span.stop))⟩) ∧
      ∀ k, ∀ e ∈ entities[k]?,
        let w := Sweep.after es ((entities.take k).map Entity.span)
        0 ≤ (w.advance es e.span).shortened ∧ 0 ≤ Sweep.total (w.inside es e.span) ∧
          (w.advance es e.span).shortened + Sweep.total (w.inside es e.span) ≤ Word.greatest := by
  have hordered : es.Pairwise fun a b => a.last ≤ b.last := by
    refine hdisjoint.imp_of_mem fun {a b} _ hb hab => ?_
    have hlast := Offset.lt_of_lt_of_le hab (hes b hb)
    rw [Offset.lt_iff_toInt_lt] at hlast
    exact Offset.le_iff_toInt_le.2 (Int.le_of_lt hlast)
  have hnonneg : ∀ e ∈ es, 0 ≤ e.shrinkage.toInt := fun e he => Sweep.shrinkage_nonneg (hes e he)
  constructor
  · have hspans : (entities.map Entity.span).Pairwise fun a b => a.start ≤ b.start :=
      List.pairwise_map.2 hsorted
    rw [followCollapses, Sweep.run_start_eq_map hordered hspans, List.map_map,
      List.zipWith_map_right, List.zipWith_self]
    rfl
  · intro k e _
    obtain ⟨hshortened, hinside, hsum⟩ := Sweep.sums_after hordered hnonneg
      ((entities.take k).map Entity.span) e.span
    exact ⟨hshortened, hinside, Int.le_trans hsum hfits⟩

/-- Entities in order of their start: two of them begin at one place, two are reversed, and two lie
at the ends of what a word can say. -/
def scattered : List (Entity .raw) :=
  [⟨⟨Int64.minValue⟩, ⟨3⟩⟩, ⟨⟨7⟩, ⟨40⟩⟩, ⟨⟨7⟩, ⟨-2⟩⟩, ⟨⟨12⟩, ⟨13⟩⟩, ⟨⟨26⟩, ⟨8⟩⟩,
    ⟨⟨Int64.maxValue⟩, ⟨Int64.minValue⟩⟩].map fun span => ⟨span, "u", none, none, .url⟩

theorem followCollapses_scattered :
    let es : List Collapse := [⟨⟨1⟩, ⟨5⟩⟩, ⟨⟨6⟩, ⟨9⟩⟩, ⟨⟨20⟩, ⟨24⟩⟩]
    (scattered.Pairwise fun a b => a.span.start ≤ b.span.start) ∧ (∀ e ∈ es, e.first ≤ e.last) ∧
      (es.Pairwise fun a b => a.last < b.first) ∧ Sweep.total es ≤ Word.greatest ∧
      (followCollapses es scattered).map Entity.span =
        [⟨⟨Int64.minValue⟩, ⟨3⟩⟩, ⟨⟨3⟩, ⟨29⟩⟩, ⟨⟨3⟩, ⟨-6⟩⟩, ⟨⟨5⟩, ⟨6⟩⟩, ⟨⟨15⟩, ⟨-3⟩⟩,
          ⟨⟨Int64.maxValue - 11⟩, ⟨Int64.minValue⟩⟩] := by
  intro es
  have hsorted : scattered.Pairwise fun a b => a.span.start ≤ b.span.start := by decide
  have hes : ∀ e ∈ es, e.first ≤ e.last := by decide
  have hdisjoint : es.Pairwise fun a b => a.last < b.first := by decide
  have hfits : Sweep.total es ≤ Word.greatest := by decide
  refine ⟨hsorted, hes, hdisjoint, hfits, ?_⟩
  rw [(followCollapses_eq_map hsorted hes hdisjoint hfits).1]
  decide

end Newsfeed
