import Newsfeed.Proofs.Hypertext.Merging
import Newsfeed.Proofs.Hypertext.Patchwork
import Newsfeed.Proofs.Text.Pieces
import Newsfeed.Proofs.Text.Units

/-!
# Splicing is patching

While a text is edited from left to right, something has been made of a part of it and the rest is
still as it came, only in another place: `Splice.Reached` says this for the units and the running
offset.  An entity in the rest is therefore found where it lies and patched (`reached_add`), and
one outside the text is found nowhere (`add_of_not_inside`), provided that no offset saturates,
for which the edited text has to stay shorter than the greatest word.  An entity that begins in the
edited part is found as far back from the rest as it reaches back (`Reached.locate_eq`).
-/

namespace Newsfeed

open Text

/-- The stretch lies in a text of `n` units. -/
def Span.Inside (n : Nat) (span : Span .display) : Prop :=
  0 ≤ span.start.toInt ∧ span.start.toInt ≤ span.stop.toInt ∧ span.stop.toInt ≤ n

instance (n : Nat) (span : Span .display) : Decidable (span.Inside n) :=
  inferInstanceAs (Decidable (_ ∧ _ ∧ _))

/-- The ends of a stretch in a text as numbers of units. -/
theorem Span.Inside.counts {n : Nat} {span : Span .display} (h : span.Inside n) :
    span.start.count = span.start.toInt ∧ span.stop.count = span.stop.toInt ∧
      span.start.count ≤ span.stop.count ∧ span.stop.count ≤ n := by
  obtain ⟨hstart, hle, hstop⟩ := h
  have hcount := Offset.count_eq hstart
  have hcount' := Offset.count_eq (Int.le_trans hstart hle)
  exact ⟨hcount, hcount', by omega, by omega⟩

namespace Entity

/-- Whether the entity is a photo at the place of the one that is cut out. -/
def isStripped (stripped : Option (Offset .display)) (e : Entity .display) : Bool :=
  e.isPhoto ∧ stripped = some e.span.start

/-- The display form, if there is one that is not empty. -/
def form? {s : Space} (e : Entity s) : Option (List Char) :=
  e.shown.bind fun shown => if shown.isEmpty then none else some shown.toList

/-- The display form, empty if there is none. -/
def form {s : Space} (e : Entity s) : List Char := e.form?.getD []

/-- What is put in place of the entity in a text of units. -/
def patch (stripped : Option (Offset .display)) (units : List UInt16) (e : Entity .display) :
    Patch UInt16 where
  start := e.span.start.count
  stop := e.span.stop.count
  content :=
    if e.isStripped stripped then []
    else (e.form?.map encode).getD (cut units e.span.start.count e.span.stop.count)
  url := if e.isStripped stripped then none else some e.url

end Entity

namespace Splice

/-- The text is edited up to place `k`, and `done` stands for what was before. -/
structure Reached (w : Splice) (units : List UInt16) (k : Nat) (done : List UInt16) : Prop where
  le : k ≤ units.length
  units : w.units = done ++ units.drop k
  offset : w.offset = (k : Int) - done.length

variable {w : Splice} {units done : List UInt16} {k : Nat} {e : Entity .display}

theorem Reached.length_units (h : w.Reached units k done) :
    w.units.length = done.length + (units.length - k) := by
  rw [h.units, List.length_append, List.length_drop]

/-- The place of an offset in the edited text, unless it lies before that text. -/
theorem Reached.index?_shift (h : w.Reached units k done) {o : Offset .display} (ho : 0 ≤ o.toInt)
    (hk : k ≤ done.length + o.count) (hlen : o.toInt ≤ units.length)
    (hfit : (done.length + (units.length - k) : Nat) ≤ Word.greatest) :
    (o.shift (-w.offset)).index? = some (done.length + o.count - k) := by
  have hcount := Offset.count_eq ho
  have hle := h.le
  rw [Offset.index?_eq_some_iff, Offset.toInt_shift, h.offset]
  simp only [Word.least]
  omega

/-- A stretch is found between two places if they are those of its ends and lie in this order in
the edited text. -/
theorem locate_eq_some_iff {span : Span .display} {i j : Nat} :
    w.locate span = some (i, j) ↔
      (span.start.shift (-w.offset)).index? = some i ∧
        (span.stop.shift (-w.offset)).index? = some j ∧ i ≤ j ∧ j ≤ w.units.length := by
  simp only [locate, Option.bind_eq_bind, Option.bind_eq_some_iff, Option.ite_none_right_eq_some,
    Option.some.injEq, Prod.mk.injEq]
  constructor
  · rintro ⟨i', hi, j', hj, hij, rfl, rfl⟩
    exact ⟨hi, hj, hij⟩
  · rintro ⟨hi, hj, hij⟩
    exact ⟨i, hi, j, hj, hij, rfl, rfl⟩

theorem Reached.locate_eq (h : w.Reached units k done) (he : e.span.Inside units.length)
    (hk : k ≤ done.length + e.span.start.count)
    (hfit : (done.length + (units.length - k) : Nat) ≤ Word.greatest) :
    w.locate e.span =
      some (done.length + e.span.start.count - k, done.length + e.span.stop.count - k) := by
  obtain ⟨hcount, hcount', hle, hstop⟩ := he.counts
  have hi := h.index?_shift he.1 hk (by omega) hfit
  have hj := h.index?_shift (Int.le_trans he.1 he.2.1) (by omega) he.2.2 hfit
  have hlen := h.length_units
  exact locate_eq_some_iff.2 ⟨hi, hj, by omega, by omega⟩

/-- Patching a text of which a part may have been edited already. -/
theorem Reached.replace (h : w.Reached units k done) (start stop : Nat)
    (hk : k ≤ done.length + start) (hle : start ≤ stop) (hstop : stop ≤ units.length)
    (content : List UInt16) :
    (w.replace (done.length + start - k) (done.length + stop - k) content).Reached units
      (max k stop) (w.units.take (done.length + start - k) ++ content ++
        done.drop (done.length + stop - k)) := by
  have hlen := h.length_units
  have hkle := h.le
  refine ⟨by omega, ?_, ?_⟩
  · have hrest : k + (done.length + stop - k - done.length) = max k stop := by omega
    have hdrop : w.units.drop (done.length + stop - k) =
        done.drop (done.length + stop - k) ++ units.drop (max k stop) := by
      rw [h.units, List.drop_append, List.drop_drop, hrest]
    rw [Splice.replace, List.append_assoc, List.append_assoc, List.append_assoc, ← hdrop]
  · rw [Splice.replace, h.offset]
    dsimp only
    simp only [List.length_append, List.length_take, List.length_drop, hlen]
    omega

/-- Where nothing behind a place has been edited, the edited text before it is what was made of the
text so far and what has been kept since. -/
theorem Reached.take_units (h : w.Reached units k done) {start : Nat} (hk : k ≤ start) :
    w.units.take (done.length + start - k) = done ++ cut units k start := by
  rw [Nat.add_sub_assoc hk, h.units, List.take_length_add_append, cut]

/-- What an entity between two places of the edited text is shown as. -/
def contentAt (w : Splice) (stripped : Option (Offset .display)) (e : Entity .display) (i j : Nat) :
    List UInt16 :=
  if e.isStripped stripped then [] else w.shownUnits e i j

theorem add_of_locate_eq_none (style : LinkStyle) (stripped : Option (Offset .display))
    (hl : w.locate e.span = none) : w.add style stripped e = w := by
  unfold add
  rw [hl]

/-- An entity that is found is shown at its place, and an anchor is laid over it. -/
theorem add_of_locate (style : LinkStyle) (stripped : Option (Offset .display)) {i j : Nat}
    (hl : w.locate e.span = some (i, j)) :
    let content := w.contentAt stripped e i j
    w.add style stripped e =
      { w.replace i j content with
        anchors := w.anchors ++ ((if e.isStripped stripped then none else some e.url).map fun url =>
          ⟨⟨.ofInt i, .ofInt (i + content.length)⟩, url, style.color,
            style.clickable⟩).toList } := by
  intro content
  unfold add
  rw [hl]
  dsimp only
  by_cases hs : e.isStripped stripped = true
  · have hs' : e.isPhoto = true ∧ stripped = some e.span.start := by
      simpa [Entity.isStripped] using hs
    have hcontent : content = [] := if_pos hs
    rw [if_pos hs', if_pos hs, hcontent]
    simp [Splice.replace]
  · have hs' : ¬ (e.isPhoto = true ∧ stripped = some e.span.start) := by
      simpa [Entity.isStripped] using hs
    have hcontent : content = w.shownUnits e i j := if_neg hs
    rw [if_neg hs', if_neg hs, hcontent]
    rfl

/-- An entity in the text is put in its place, if it does not reach back over the beginning of the
edited text. -/
theorem Reached.add (h : w.Reached units k done) (he : e.span.Inside units.length)
    (hk : k ≤ done.length + e.span.start.count)
    (hfit : (done.length + (units.length - k) : Nat) ≤ Word.greatest)
    (style : LinkStyle) (stripped : Option (Offset .display)) :
    let i := done.length + e.span.start.count - k
    let j := done.length + e.span.stop.count - k
    (w.add style stripped e).Reached units (max k e.span.stop.count)
      (w.units.take i ++ w.contentAt stripped e i j ++ done.drop j) := by
  intro i j
  obtain ⟨-, -, hle, hstop⟩ := he.counts
  have hreplace := h.replace e.span.start.count e.span.stop.count hk hle hstop
    (w.contentAt stripped e i j)
  rw [add_of_locate style stripped (h.locate_eq he hk hfit)]
  exact ⟨hreplace.le, hreplace.units, hreplace.offset⟩

/-- In what has not been edited, an entity without a display form is shown as what it covers. -/
theorem Reached.contentAt_eq (h : w.Reached units k done) (stripped : Option (Offset .display))
    (hk : k ≤ e.span.start.count) (hle : e.span.start.count ≤ e.span.stop.count) :
    w.contentAt stripped e (done.length + e.span.start.count - k)
        (done.length + e.span.stop.count - k) = (e.patch stripped units).content := by
  have hcovered : (w.units.drop (done.length + e.span.start.count - k)).take
      (done.length + e.span.stop.count - k - (done.length + e.span.start.count - k)) =
        cut units e.span.start.count e.span.stop.count := by
    have hdrop : k + (e.span.start.count - k) = e.span.start.count := by omega
    have htake : done.length + e.span.stop.count - k - (done.length + e.span.start.count - k) =
        e.span.stop.count - e.span.start.count := by omega
    rw [htake, Nat.add_sub_assoc hk, h.units, List.drop_length_add_append, List.drop_drop, hdrop,
      cut]
  unfold contentAt shownUnits Entity.patch
  dsimp only
  split
  · rfl
  · cases hshown : e.shown with
    | none => simpa [Entity.form?, hshown] using hcovered
    | some shown =>
      by_cases hempty : shown.isEmpty = true
      · have hform : e.form? = none := by
          rw [Entity.form?, hshown, Option.bind_some, if_pos hempty]
        rw [hform]
        exact (if_pos hempty).trans hcovered
      · have hform : e.form? = some shown.toList := by
          rw [Entity.form?, hshown, Option.bind_some, if_neg hempty]
        rw [hform]
        exact if_neg hempty

/-- An entity in what has not been edited is patched. -/
theorem reached_add (style : LinkStyle) (stripped : Option (Offset .display))
    (h : w.Reached units k done) (he : e.span.Inside units.length) (hk : k ≤ e.span.start.count)
    (hfit : (done.length + (units.length - k) : Nat) ≤ Word.greatest) :
    let p := e.patch stripped units
    let before := done ++ cut units k p.start
    (w.add style stripped e).Reached units p.stop (before ++ p.content) ∧
      (w.add style stripped e).anchors = w.anchors ++
        (p.url.map fun url => ⟨⟨.ofInt before.length, .ofInt (before.length + p.content.length)⟩,
          url, style.color, style.clickable⟩).toList := by
  intro p before
  obtain ⟨-, -, hle, hstop⟩ := he.counts
  have hbefore : before.length = done.length + e.span.start.count - k := by
    simp only [before, p, Entity.patch, cut, List.length_append, List.length_take, List.length_drop]
    omega
  have hreached := h.add he (by omega) hfit style stripped
  dsimp only at hreached
  have hcontent : w.contentAt stripped e (done.length + e.span.start.count - k)
      (done.length + e.span.stop.count - k) = p.content := h.contentAt_eq stripped hk hle
  rw [h.take_units hk, Nat.max_eq_right (by omega), List.drop_of_length_le (by omega),
    List.append_nil, hcontent] at hreached
  refine ⟨hreached, ?_⟩
  rw [add_of_locate style stripped (h.locate_eq he (by omega) hfit), hbefore, hcontent]
  rfl

/-- An entity outside the text is found nowhere, unless an offset was running when a negative
place was looked for. -/
theorem add_of_not_inside (style : LinkStyle) (stripped : Option (Offset .display))
    (h : w.Reached units k done) (he : ¬ e.span.Inside units.length)
    (hneg : e.span.start.toInt < 0 → w.offset = 0)
    (hfit : (done.length + (units.length - k) : Nat) < Word.greatest) :
    w.add style stripped e = w := by
  cases hl : w.locate e.span with
  | none => exact add_of_locate_eq_none style stripped hl
  | some place =>
    obtain ⟨i, j⟩ := place
    refine absurd ?_ he
    obtain ⟨hi, hj, hij⟩ := locate_eq_some_iff.1 hl
    rw [Offset.index?_eq_some_iff, Offset.toInt_shift] at hi hj
    rw [h.length_units] at hij
    have hoffset := h.offset
    have hle := h.le
    simp only [Word.least, Word.greatest] at hi hj hfit
    -- both places are below the greatest word, so neither of them was saturated
    have hi' : e.span.start.toInt - w.offset = i := by omega
    have hj' : e.span.stop.toInt - w.offset = j := by omega
    refine ⟨?_, by omega, by omega⟩
    by_cases hn : e.span.start.toInt < 0
    · have := hneg hn
      omega
    · omega

theorem length_content_patch_le (stripped : Option (Offset .display)) (units : List UInt16)
    (e : Entity .display) :
    (e.patch stripped units).content.length ≤
      length e.form + (e.span.stop.count - e.span.start.count) := by
  have hcut : (cut units e.span.start.count e.span.stop.count).length ≤
      e.span.stop.count - e.span.start.count := List.length_take_le _ _
  unfold Entity.patch Entity.form
  dsimp only
  split
  · exact Nat.zero_le _
  · cases e.form? with
    | none => simpa using hcut
    | some form => simp [length_encode]

/-- Editing what is left of a text makes a patchwork of it. -/
theorem foldl_add_of_reached (style : LinkStyle) (stripped : Option (Offset .display))
    {es : List (Entity .display)} (sorted : es.Pairwise fun a b => a.span.start ≤ b.span.start)
    (chain : (es.filter fun e => e.span.Inside units.length).Pairwise fun a b =>
      a.span.stop ≤ b.span.start)
    (h : w.Reached units k done)
    (hk : ∀ e ∈ es, e.span.Inside units.length → k ≤ e.span.start.count)
    (hneg : w.offset = 0 ∨ ∀ e ∈ es, 0 ≤ e.span.start.toInt)
    (hfit : (done.length + (units.length - k) + length (es.flatMap Entity.form) : Nat) <
      Word.greatest) :
    let ss := patchwork (cut units) units.length k
      ((es.filter fun e => e.span.Inside units.length).map (Entity.patch stripped units))
    (es.foldl (add style stripped) w).units = done ++ Stretch.contents ss ∧
      (es.foldl (add style stripped) w).anchors =
        w.anchors ++ Stretch.anchorsFrom style done.length ss ∧
      ((es.foldl (add style stripped) w).units.length : Int) < Word.greatest := by
  induction es generalizing w k done with
  | nil =>
    have hrest : cut units k units.length = units.drop k := by
      rw [cut, List.take_of_length_le (by simp)]
    have hlen := h.length_units
    refine ⟨by simp [patchwork, h.units, hrest], by simp [patchwork, Stretch.anchorsFrom], ?_⟩
    simp only [List.flatMap_nil, Text.length] at hfit
    rw [List.foldl_nil]
    omega
  | cons e es ih =>
    obtain ⟨hfirst, sorted⟩ := List.pairwise_cons.1 sorted
    obtain ⟨hke, hkes⟩ := List.forall_mem_cons.1 hk
    rw [List.flatMap_cons, length_append] at hfit
    rw [List.foldl_cons]
    by_cases he : e.span.Inside units.length
    · rw [List.filter_cons_of_pos (by simpa using he)] at chain ⊢
      obtain ⟨hnext, chain⟩ := List.pairwise_cons.1 chain
      obtain ⟨hcount, hcount', hle, hstop⟩ := he.counts
      have hkstart := hke he
      obtain ⟨hreached, hanchors⟩ := reached_add style stripped h he hkstart (by omega)
      have hcontent := length_content_patch_le stripped units e
      generalize hp : e.patch stripped units = p at hreached hanchors hcontent
      have hpstart : p.start = e.span.start.count := hp ▸ rfl
      have hpstop : p.stop = e.span.stop.count := hp ▸ rfl
      have hbefore : (done ++ cut units k p.start).length = done.length + (p.start - k) := by
        rw [List.length_append, cut, List.length_take, List.length_drop]
        omega
      have hrest := ih sorted chain hreached (fun f hf hin => ?_) (Or.inr fun f hf => ?_) ?_
      · rw [List.map_cons, hp]
        refine ⟨by rw [hrest.1]; simp [patchwork], ?_, hrest.2.2⟩
        rw [hrest.2.1, hanchors]
        have hcut : (cut units k p.start).length = p.start - k := by
          rw [List.length_append] at hbefore
          omega
        simp [patchwork, Stretch.anchorsFrom, hcut, Nat.add_assoc, Int.add_assoc]
      · have hchain := hnext f (List.mem_filter.2 ⟨hf, by simpa using hin⟩)
        have := Offset.le_iff_toInt_le.1 hchain
        have := Offset.count_eq hin.1
        omega
      · exact Int.le_trans he.1 (Offset.le_iff_toInt_le.1 (hfirst f hf))
      · rw [List.length_append, hbefore]
        omega
    · rw [List.filter_cons_of_neg (by simpa using he)] at chain ⊢
      have hskip : w.add style stripped e = w := by
        refine add_of_not_inside style stripped h he (fun hn => ?_) (by omega)
        rcases hneg with hzero | hpos
        · exact hzero
        · have := hpos e List.mem_cons_self
          omega
      rw [hskip]
      refine ih sorted chain h hkes (hneg.imp_right fun hpos e he => ?_) (by omega)
      exact hpos e (List.mem_cons_of_mem _ he)

/-- The hypertext of stretches: their contents without the blanks at the end, and what is left of
the anchors over them. -/
theorem finish_eq {style : LinkStyle} {ss : List (Stretch UInt16)}
    (hunits : w.units = Stretch.contents ss)
    (hanchors : w.anchors = Stretch.anchorsFrom style 0 ss)
    (hword : (w.units.length : Int) < Word.greatest) :
    w.finish =
      let text := trimEnd (decode (Stretch.contents ss))
      ⟨String.ofList text, Stretch.anchorsUpTo (length text) List.length style 0 ss⟩ := by
  have hlength : length (trimEnd (decode w.units)) ≤ w.units.length :=
    Nat.le_trans (length_trimEnd_le _) (Nat.le_of_eq (length_decode _))
  have hlimit : (length (trimEnd (decode w.units)) : Int) ≤ Word.greatest := by omega
  have hclip := Stretch.filter_clip_anchorsFrom (n := 0) hlimit style
    (by rw [← hunits]; omega : (0 + (Stretch.contents ss).length : Nat) ≤ Word.greatest)
  rw [← hanchors] at hclip
  show Hypertext.mk _ ((w.anchors.map (Stretch.clip _)).filter _) = _
  rw [hclip, hunits]

/-- An edited text is a patchwork. -/
theorem finish_foldl_add (style : LinkStyle) (stripped : Option (Offset .display))
    (text : List Char) {es : List (Entity .display)}
    (sorted : es.Pairwise fun a b => a.span.start ≤ b.span.start)
    (chain : (es.filter fun e => e.span.Inside (length text)).Pairwise fun a b =>
      a.span.stop ≤ b.span.start)
    (hfit : (length text + length (es.flatMap Entity.form) : Nat) < Word.greatest) :
    (es.foldl (add style stripped) (ofText text)).finish =
      let ss := patchwork (cut (encode text)) (length text) 0
        ((es.filter fun e => e.span.Inside (length text)).map (Entity.patch stripped (encode text)))
      let shown := trimEnd (decode (Stretch.contents ss))
      ⟨String.ofList shown, Stretch.anchorsUpTo (length shown) List.length style 0 ss⟩ := by
  have hreached : (ofText text).Reached (encode text) 0 [] := ⟨Nat.zero_le _, rfl, rfl⟩
  rw [← length_encode text] at chain hfit ⊢
  obtain ⟨hunits, hanchors, hword⟩ := foldl_add_of_reached style stripped sorted chain hreached
    (fun _ _ _ => Nat.zero_le _) (Or.inl rfl) (by simpa using hfit)
  exact finish_eq hunits hanchors hword

end Splice

end Newsfeed
