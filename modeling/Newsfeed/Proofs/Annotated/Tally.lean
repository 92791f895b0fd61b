import Newsfeed.Proofs.Annotated.Shifting

/-!
# The sweep in words

A sweep looks at one collapse after the other and adds up in signed words, without a check.  `Tally`
is the sweep as it is carried out this way.  However far out of the text the stretches lie and in
whatever order they come, each collapse of a text is counted once at most and in one of the sums
only, so none of them exceeds the length of the raw text (`Tally.within_during`), the words are the
sums of `Sweep` (`Tally.reads_after`), and no entity moves by more than that length
(`Post.annotated_within_words`).
-/

namespace Newsfeed

open Text

theorem Word.toInt_add {a b : Int64} (h₁ : Word.least ≤ a.toInt + b.toInt)
    (h₂ : a.toInt + b.toInt ≤ Word.greatest) : (a + b).toInt = a.toInt + b.toInt := by
  rw [Int64.toInt_add]
  simp only [Word.least, Word.greatest] at h₁ h₂
  exact Int.bmod_eq_of_le (by omega) (by omega)

/-- What a sweep keeps while it goes through the collapses for one stretch. -/
structure Tally where
  /-- The number of collapses already passed. -/
  passed : Nat
  /-- By how much the passed collapses shortened the text. -/
  shortened : Int64
  /-- By how much the collapses inside the stretch shortened it. -/
  inside : Int64

namespace Tally

/-- Nothing is passed. -/
def start : Tally := ⟨0, 0, 0⟩

/-- Looks at one collapse. -/
def look (span : Span .raw) (t : Tally) (e : Collapse) : Tally :=
  if e.last < span.start then
    { t with passed := t.passed + 1, shortened := t.shortened + e.shrinkage }
  else if e.last < span.stop then { t with inside := t.inside + e.shrinkage }
  else t

/-- The first `m` of the collapses that are not passed yet. -/
def ahead (es : List Collapse) (t : Tally) (m : Nat) : List Collapse := (es.drop t.passed).take m

/-- What is kept for a stretch once these have been looked at. -/
def during (es : List Collapse) (t : Tally) (span : Span .raw) (m : Nat) : Tally :=
  (t.ahead es m).foldl (look span) { t with inside := 0 }

/-- What is kept for a stretch at the end. -/
def next (es : List Collapse) (t : Tally) (span : Span .raw) : Tally :=
  t.during es span es.length

/-- What is kept once some stretches are done. -/
def after (es : List Collapse) (spans : List (Span .raw)) : Tally :=
  spans.foldl (next es) start

/-- Where a stretch is put that some others come before. -/
def put (es : List Collapse) (before : List (Span .raw)) (span : Span .raw) : Span .raw :=
  let t := (after es before).next es span
  ⟨span.start.shift (-t.shortened.toInt), span.stop.shift (-(t.shortened + t.inside).toInt)⟩

/-- Once some collapses have been looked at for a stretch, each of those passed so far is counted
once, the others of these are counted if they end inside the stretch, and the sums, that of both
words included, lie between zero and `n`. -/
structure Within (es looked : List Collapse) (span : Span .raw) (n : Nat) (t : Tally) : Prop where
  passed_le : t.passed ≤ es.length
  shortened_eq : t.shortened.toInt = Sweep.total (es.take t.passed)
  shortened : 0 ≤ t.shortened.toInt ∧ t.shortened.toInt ≤ n
  inside_eq : t.inside.toInt =
    Sweep.total (looked.filter fun e => ¬ e.last < span.start ∧ e.last < span.stop)
  inside : 0 ≤ t.inside.toInt ∧ t.inside.toInt ≤ n
  sum_eq : (t.shortened + t.inside).toInt = t.shortened.toInt + t.inside.toInt
  sum : 0 ≤ (t.shortened + t.inside).toInt ∧ (t.shortened + t.inside).toInt ≤ n

/-- The words are the sums of a sweep. -/
structure Reads (t : Tally) (w : Sweep) : Prop where
  passed : t.passed = w.passed
  shortened : t.shortened.toInt = w.shortened

open Sweep (total)

/-- While the sums fit into words, each collapse is added to one of them, if to any. -/
theorem foldl_look (span : Span .raw) {es : List Collapse}
    (hnonneg : ∀ e ∈ es, 0 ≤ e.shrinkage.toInt) (passed : Nat) (shortened inside : Int64)
    (hshortened : 0 ≤ shortened.toInt) (hinside : 0 ≤ inside.toInt)
    (hfits : shortened.toInt + inside.toInt + total es ≤ Word.greatest) :
    let u := es.foldl (look span) ⟨passed, shortened, inside⟩
    u.passed = passed + (es.filter fun e => e.last < span.start).length ∧
    u.shortened.toInt = shortened.toInt + total (es.filter fun e => e.last < span.start) ∧
    u.inside.toInt =
      inside.toInt + total (es.filter fun e => ¬ e.last < span.start ∧ e.last < span.stop) := by
  induction es generalizing passed shortened inside with
  | nil => simp
  | cons e es ih =>
    obtain ⟨he, hes⟩ := List.forall_mem_cons.1 hnonneg
    have hrest := Sweep.total_nonneg hes
    have hadd {a : Int64} (ha : 0 ≤ a.toInt) (hle : a.toInt + e.shrinkage.toInt ≤ Word.greatest) :
        (a + e.shrinkage).toInt = a.toInt + e.shrinkage.toInt :=
      Word.toInt_add (by simp only [Word.least]; omega) hle
    rw [Sweep.total_cons] at hfits
    rw [List.foldl_cons, look]
    by_cases hbefore : e.last < span.start
    · have hsum := hadd hshortened (by omega)
      obtain ⟨hp, hs, hi⟩ := ih hes (passed + 1) (shortened + e.shrinkage) inside (by omega)
        hinside (by omega)
      rw [if_pos hbefore, List.filter_cons_of_pos (by simpa using hbefore),
        List.filter_cons_of_neg (by simp [hbefore]), List.length_cons, Sweep.total_cons]
      exact ⟨hp.trans (by omega), hs.trans (by omega), hi⟩
    · rw [if_neg hbefore, List.filter_cons_of_neg (by simpa using hbefore)]
      by_cases hstop : e.last < span.stop
      · have hsum := hadd hinside (by omega)
        obtain ⟨hp, hs, hi⟩ := ih hes passed shortened (inside + e.shrinkage) hshortened
          (by omega) (by omega)
        rw [if_pos hstop, List.filter_cons_of_pos (by simp [hbefore, hstop]), Sweep.total_cons]
        exact ⟨hp, hs, hi.trans (by omega)⟩
      · rw [if_neg hstop, List.filter_cons_of_neg (by simp [hstop])]
        exact ih hes passed shortened inside hshortened hinside (by omega)

section During

variable {es : List Collapse} {t : Tally} {w : Sweep} (hes : es.Pairwise fun a b => a.last ≤ b.last)
  (hnonneg : ∀ e ∈ es, 0 ≤ e.shrinkage.toInt) (hreads : t.Reads w) (hexact : w.Exact es)

include hnonneg hreads hexact

/-- Looking at some of the collapses makes the sums of a sweep over a text with these alone. -/
theorem reads_during (hfits : total es ≤ Word.greatest) (span : Span .raw) (m : Nat) :
    let fs := es.take (w.passed + m)
    t.ahead es m = fs.drop w.passed ∧ (t.during es span m).Reads (w.advance fs span) ∧
      (t.during es span m).inside.toInt = total (w.inside fs span) := by
  intro fs
  have hsub : fs.Sublist es := List.take_sublist _ _
  have hlook : t.ahead es m = fs.drop w.passed := by
    rw [ahead, hreads.passed, List.drop_take, Nat.add_sub_cancel_left]
  have hsum : w.shortened + total (fs.drop w.passed) = total fs :=
    (hexact.take m).shortened_add_total_drop
  have hle : total fs ≤ total es := Sweep.total_le_of_sublist hnonneg hsub
  have hshortened := hreads.shortened
  have hstart : 0 ≤ w.shortened :=
    hexact.shortened_eq ▸ Sweep.total_nonneg_of_sublist hnonneg (List.take_sublist w.passed es)
  have hzero : (0 : Int64).toInt = 0 := rfl
  have hrest : ∀ e ∈ fs.drop w.passed, 0 ≤ e.shrinkage.toInt :=
    fun e he => hnonneg e (hsub.mem (List.mem_of_mem_drop he))
  obtain ⟨hp, hs, hi⟩ := foldl_look span hrest w.passed t.shortened 0 (by omega) (Int.le_refl 0)
    (by omega)
  rw [during, hreads.passed, hlook]
  refine ⟨rfl, ⟨hp, hs.trans ?_⟩, hi.trans (Int.zero_add _)⟩
  rw [hshortened]
  rfl

/-- Looking at all of them makes the sums of the sweep. -/
theorem reads_next (hfits : total es ≤ Word.greatest) (span : Span .raw) :
    (t.next es span).Reads (w.advance es span) ∧
      (t.next es span).inside.toInt = total (w.inside es span) := by
  have hall : es.take (w.passed + es.length) = es := List.take_of_length_le (Nat.le_add_left _ _)
  have h := (reads_during hnonneg hreads hexact hfits span es.length).2
  rwa [hall] at h

include hes

/-- Nothing overflows on the way, as no collapse is counted twice. -/
theorem within_during {n : Nat} (hle : total es ≤ n) (hword : (n : Int) ≤ Word.greatest)
    (span : Span .raw) (m : Nat) :
    (t.during es span m).Within es (t.ahead es m) span n := by
  obtain ⟨hahead, hreads, hinside⟩ :=
    reads_during hnonneg hreads hexact (Int.le_trans hle hword) span m
  have hsub : (es.take (w.passed + m)).Sublist es := List.take_sublist _ _
  have hnext := ((hexact.take m).advance (hes.sublist hsub) span).of_take
  obtain ⟨hshortened, hnone, hboth⟩ :=
    (hexact.take m).sums (fun e he => hnonneg e (hsub.mem he)) span
  have htotal := Sweep.total_le_of_sublist hnonneg hsub
  have hread := hreads.shortened
  have hsum := Word.toInt_add (a := (t.during es span m).shortened)
    (b := (t.during es span m).inside) (by simp only [Word.least]; omega) (by omega)
  exact {
    passed_le := hreads.passed ▸ hnext.passed_le
    shortened_eq := by rw [hread, hreads.passed, hnext.shortened_eq]
    shortened := ⟨by omega, by omega⟩
    inside_eq := by rw [hinside, hahead, Sweep.inside]
    inside := ⟨by omega, by omega⟩
    sum_eq := hsum
    sum := ⟨by omega, by omega⟩ }

end During

section After

variable {es : List Collapse} (hes : es.Pairwise fun a b => a.last ≤ b.last)
  (hnonneg : ∀ e ∈ es, 0 ≤ e.shrinkage.toInt)

include hes hnonneg

/-- The words are right after any stretches, in whatever order these come. -/
theorem reads_after (hfits : total es ≤ Word.greatest) (spans : List (Span .raw)) :
    (after es spans).Reads (Sweep.after es spans) := by
  have hreads : start.Reads Sweep.start := ⟨rfl, rfl⟩
  have hexact := Sweep.exact_start es
  rw [after, Sweep.after]
  generalize start = t, Sweep.start = w at hreads hexact
  induction spans generalizing t w with
  | nil => exact hreads
  | cons span spans ih =>
    exact ih _ _ (reads_next hnonneg hreads hexact hfits span).1 (hexact.advance hes span)

/-- The words put every stretch where the sweep does. -/
theorem put_eq_place {n : Nat} (hle : total es ≤ n) (hword : (n : Int) ≤ Word.greatest)
    (spans : List (Span .raw)) (span : Span .raw) :
    put es spans span = (Sweep.after es spans).place es span := by
  have hreads := reads_after hes hnonneg (Int.le_trans hle hword) spans
  have hexact := Sweep.exact_after hes spans
  obtain ⟨hnext, hinside⟩ := reads_next hnonneg hreads hexact (Int.le_trans hle hword) span
  have hsum := (within_during hes hnonneg hreads hexact hle hword span es.length).sum_eq
  rw [← next] at hsum
  simp only [put, Sweep.place, hsum, hnext.shortened, hinside]

end After

end Tally

/-! ## Entities -/

theorem Sweep.getElem?_run (es : List Collapse) (w : Sweep) (spans : List (Span .raw)) (k : Nat) :
    (run es w spans)[k]? = spans[k]?.map fun span =>
      ((spans.take k).foldl (fun w span => w.advance es span) w).place es span := by
  induction spans generalizing w k with
  | nil => rfl
  | cons span spans ih =>
    cases k with
    | zero => rfl
    | succ k => exact ih (w.advance es span) k

/-- Every entity is put by the sweep that has come over those before it. -/
theorem getElem?_followCollapses {es : List Collapse} {entities : List (Entity .raw)} {k : Nat}
    {e : Entity .raw} (he : entities[k]? = some e) :
    (followCollapses es entities)[k]? =
      some (e.place ((Sweep.after es ((entities.take k).map Entity.span)).place es e.span)) := by
  simp [followCollapses, List.getElem?_zipWith, Sweep.getElem?_run, he, List.map_take, Sweep.after]

theorem Sweep.run_nil {w : Sweep} (hw : w.shortened = 0) (spans : List (Span .raw)) :
    run [] w spans = spans := by
  induction spans generalizing w with
  | nil => rfl
  | cons span spans ih =>
    have hplace : w.place [] span = span := by simp [place, advance, before, inside, hw]
    rw [run, hplace, ih (by simp [advance, before, hw])]

theorem followCollapses_nil (entities : List (Entity .raw)) :
    followCollapses [] entities = entities := by
  rw [followCollapses, Sweep.run_nil rfl, List.zipWith_map_right, List.zipWith_self]
  exact List.map_id _

/-! ## Posts -/

theorem Text.first_le_last_of_mem_collapsesFrom {n : Nat} {ps : List Piece}
    (hpos : ∀ p ∈ ps, 0 < p.size) {e : Collapse} (he : e ∈ collapsesFrom n ps) :
    e.first ≤ e.last := by
  induction ps generalizing n with
  | nil => cases he
  | cons p ps ih =>
    obtain ⟨hp, hps⟩ := List.forall_mem_cons.1 hpos
    cases p with
    | char c => exact ih hps he
    | reference c size =>
      rcases List.mem_cons.1 he with rfl | he
      · simp only [Piece.size] at hp
        exact Offset.ofInt_le_ofInt (by omega)
      · exact ih hps he

/-- A text does not become shorter by more than its length. -/
theorem Sweep.total_collapses_le {raw : List Char} (hword : (raw.length : Int) ≤ Word.greatest) :
    total (unescape raw).collapses ≤ raw.length := by
  have hsizes := sizes_pieces raw
  have hpos : ∀ p ∈ pieces raw, 0 < p.size := size_pos_of_mem_pieces
  have htotal := total_collapsesFrom (n := 0) hpos (by rw [hsizes]; omega)
  rw [unescape, htotal, hsizes]
  omega

/-- Pairs move a stretch right by their number at most. -/
theorem Text.pairShift_pairIndices_le (text : List Char) (start : Int) :
    pairShift 0 start ((pairIndices text).map Int.ofNat) ≤ supplements text := by
  rw [pairShift_pairIndices]
  exact (List.take_sublist _ _).countP_le

/-- What moves left and then right by at most `n` stays within `n`, saturated or not. -/
theorem Offset.natAbs_moved_le {o : Offset .raw} {left right : Int} {n : Nat}
    (hleft : 0 ≤ left ∧ left ≤ n) (hright : 0 ≤ right ∧ right ≤ n) :
    ((.ofInt ((o.shift (-left)).toInt + right) : Offset .display).toInt - o.toInt).natAbs ≤ n := by
  have hleast := Word.least_le_toInt o.value
  have hgreatest := o.toInt_le_greatest
  rw [toInt_ofInt, toInt_shift]
  simp only [toInt] at hgreatest ⊢
  omega

/-- The way of an entity from a raw text into the shown one, behind those over some stretches: no
sum overflows, pairs move it on by their number at most from where the sums have put it, and no end
moves by more than the raw text is long. -/
structure Entity.MovesWithin (raw text : List Char) (before : List (Span .raw)) (e : Entity .raw)
    (shown : Entity .display) : Prop where
  sums : ∀ m,
    let t := Tally.after (unescape raw).collapses before
    (t.during (unescape raw).collapses e.span m).Within (unescape raw).collapses
      (t.ahead (unescape raw).collapses m) e.span raw.length
  shown_eq : shown = e.place ((Tally.put (unescape raw).collapses before e.span).inUnits text)
  shift_le : pairShift 0 (Tally.put (unescape raw).collapses before e.span).start.toInt
    ((pairIndices text).map Int.ofNat) ≤ supplements text
  start_near : (shown.span.start.toInt - e.span.start.toInt).natAbs ≤ raw.length
  stop_near : (shown.span.stop.toInt - e.span.stop.toInt).natAbs ≤ raw.length

theorem movesWithin_followText {raw : List Char} (hword : (raw.length : Int) ≤ Word.greatest)
    {entities : List (Entity .raw)} {k : Nat} {e : Entity .raw} (he : entities[k]? = some e) :
    ∃ shown,
      (followText (unescape raw).text (followCollapses (unescape raw).collapses entities))[k]? =
        some shown ∧
      e.MovesWithin raw (unescape raw).text ((entities.take k).map Entity.span) shown := by
  have hes : (unescape raw).collapses.Pairwise fun a b => a.last ≤ b.last :=
    pairwise_collapsesFrom 0 size_pos_of_mem_pieces
  have hnonneg : ∀ c ∈ (unescape raw).collapses, 0 ≤ c.shrinkage.toInt := fun c hc =>
    Sweep.shrinkage_nonneg (first_le_last_of_mem_collapsesFrom size_pos_of_mem_pieces hc)
  have hle := Sweep.total_collapses_le hword
  have hreads := Tally.reads_after hes hnonneg (Int.le_trans hle hword)
    ((entities.take k).map Entity.span)
  have hsums := Tally.within_during hes hnonneg hreads (Sweep.exact_after hes _) hle hword e.span
  have hput := Tally.put_eq_place hes hnonneg hle hword ((entities.take k).map Entity.span) e.span
  have hshift := pairShift_pairIndices_le (unescape raw).text
    (Tally.put (unescape raw).collapses ((entities.take k).map Entity.span) e.span).start.toInt
  have hsupplements : supplements (unescape raw).text ≤ raw.length :=
    Nat.le_trans List.countP_le_length (length_unescape_le raw)
  have hall := hsums (unescape raw).collapses.length
  refine ⟨_, ?_, hsums, rfl, hshift, Offset.natAbs_moved_le hall.shortened (by omega),
    Offset.natAbs_moved_le hall.sum (by omega)⟩
  rw [followText, followPairs, List.getElem?_map, getElem?_followCollapses he, ← hput]
  rfl

namespace Post

/-- Every post is shown as its unescaped text, and both lists of entities follow it; a post without
a text has nothing to follow. -/
theorem annotated_eq_followText (p : Post) :
    p.annotated = ⟨String.ofList (unescape p.rawText.toList).text,
      followText (unescape p.rawText.toList).text
        (followCollapses (unescape p.rawText.toList).collapses p.staged.links),
      followText (unescape p.rawText.toList).text
        (followCollapses (unescape p.rawText.toList).collapses p.staged.media)⟩ := by
  by_cases htext : p.rawText = ""
  · have hnone : unescape [] = ⟨[], []⟩ := by simp [unescape, pieces, collapsesFrom]
    have hstaged : p.staged.text = "" := by
      rw [staged, Annotated.addEntities]
      cases p.entities <;> rfl
    have hraw : p.rawText.toList = [] := by rw [htext]; rfl
    rw [hraw, hnone, followCollapses_nil, followCollapses_nil, annotated, Annotated.reconcile, hraw]
    exact congrArg (Annotated.mk · _ _) hstaged
  · exact annotated_eq_of_rawText_ne htext

/-- However the entities of a post lie and in whatever order, none of the sums on the way to the
shown text overflows: with words, each collapse is counted once at most, no sum is negative or
exceeds the length of the raw text, and no place moves by more than that length.  The text is held
in memory, so its length is a word. -/
theorem annotated_within_words {p : Post}
    (hword : (p.rawText.toList.length : Int) ≤ Word.greatest) :
    ∀ lists ∈ [(p.staged.links, p.annotated.links), (p.staged.media, p.annotated.media)],
      lists.2.length = lists.1.length ∧
      ∀ k (e : Entity .raw), lists.1[k]? = some e → ∃ shown, lists.2[k]? = some shown ∧
        e.MovesWithin p.rawText.toList p.annotated.text.toList ((lists.1.take k).map Entity.span)
          shown := by
  have hlist (entities : List (Entity .raw)) :
      (followText (unescape p.rawText.toList).text
        (followCollapses (unescape p.rawText.toList).collapses entities)).length =
          entities.length := by
    rw [followText, length_followPairs, length_followCollapses]
  rw [annotated_eq_followText]
  dsimp only
  rw [String.toList_ofList]
  simp only [List.forall_mem_cons, List.not_mem_nil, false_implies, implies_true, and_true]
  exact ⟨⟨hlist _, fun k e he => movesWithin_followText hword he⟩,
    hlist _, fun k e he => movesWithin_followText hword he⟩

/-- A post whose links come in no order, of which the first begins behind the text, the second
covers all words and the third does so in reverse. -/
def hostile : Post :=
  ⟨1, some "&lt;😀 ab &amp; cd", some ⟨some [⟨"o", none, none, ⟨⟨20⟩, ⟨3⟩⟩⟩,
    ⟨"u", none, none, ⟨⟨Int64.minValue⟩, ⟨Int64.maxValue⟩⟩⟩,
    ⟨"r", none, none, ⟨⟨Int64.maxValue⟩, ⟨Int64.minValue⟩⟩⟩, ⟨"v", none, none, ⟨⟨6⟩, ⟨14⟩⟩⟩],
    none, none, none⟩, none, none⟩

theorem annotated_within_words_hostile :
    (hostile.rawText.toList.length : Int) ≤ Word.greatest ∧
      hostile.annotated.links.map (fun e => (e.span.start.value, e.span.stop.value)) =
        [(14, -3), (Int64.minValue, Int64.maxValue - 7), (Int64.maxValue - 6, Int64.minValue + 1),
          (-1, 7)] ∧
      ∃ shown, hostile.annotated.links[2]? = some shown ∧
        (Entity.ofLink ⟨"r", none, none, ⟨⟨Int64.maxValue⟩, ⟨Int64.minValue⟩⟩⟩).MovesWithin
          hostile.rawText.toList hostile.annotated.text.toList
          [⟨⟨20⟩, ⟨3⟩⟩, ⟨⟨Int64.minValue⟩, ⟨Int64.maxValue⟩⟩] shown := by
  have hword : (hostile.rawText.toList.length : Int) ≤ Word.greatest := by decide
  refine ⟨hword, by decide +kernel, ?_⟩
  exact (annotated_within_words hword _ List.mem_cons_self).2 2 _ rfl

end Post

end Newsfeed
