import Newsfeed.Proofs.Hypertext.OnePass
import Newsfeed.Proofs.Text.Outside
import Newsfeed.Proofs.Text.Spelling

/-!
# What survives of the text

The characters of a text outside all entities in it are its plain characters, and they are all shown
in their order if no entity is shown in fewer units than a later one reaches back over it
(`plain_sublist_untrimmed`).  The reason is that what has been made of the text ends in units that
stand for entities only, as many as a later entity may reach back (`Splice.Spares`).  Where two
photos over the same stretch are cut out, the second cut takes plain characters instead.
-/

namespace Newsfeed

open Text

/-! ## Units of an entity -/

/-- The number of units that an entity is shown in. -/
def Entity.shownLength (stripped : Option (Offset .display)) (e : Entity .display) : Nat :=
  if e.isStripped stripped then 0
  else (e.form?.map length).getD (e.span.stop.count - e.span.start.count)

theorem Entity.shownLength_le (stripped : Option (Offset .display)) (e : Entity .display) :
    e.shownLength stripped ≤ length e.form + (e.span.stop.count - e.span.start.count) := by
  unfold shownLength Entity.form
  split
  · exact Nat.zero_le _
  · cases e.form? with
    | none => simp
    | some form => simp

namespace Splice

variable {w : Splice} {e : Entity .display} {text : List Char} {n : Nat}
  {spans : List (Span .display)} {stripped : Option (Offset .display)}

theorem length_contentAt {i j : Nat} (hl : w.locate e.span = some (i, j))
    (hij : j - i = e.span.stop.count - e.span.start.count) :
    (w.contentAt stripped e i j).length = e.shownLength stripped := by
  obtain ⟨-, -, hle, hj⟩ := locate_eq_some_iff.1 hl
  have hcovered : ((w.units.drop i).take (j - i)).length =
      e.span.stop.count - e.span.start.count := by
    rw [List.length_take, List.length_drop]
    omega
  unfold contentAt shownUnits Entity.shownLength Entity.form?
  split
  · rfl
  · cases e.shown with
    | none => exact hcovered
    | some shown =>
      dsimp only [Option.bind_some]
      split
      · exact hcovered
      · exact length_encode shown.toList

theorem Reached.exists_add {units done : List UInt16} {k : Nat} (h : w.Reached units k done)
    (he : e.span.Inside units.length) (hk : k ≤ done.length + e.span.start.count)
    (hfit : (done.length + (units.length - k) : Nat) ≤ Word.greatest) (style : LinkStyle)
    (stripped : Option (Offset .display)) :
    ∃ content : List UInt16, content.length = e.shownLength stripped ∧
      (w.add style stripped e).Reached units (max k e.span.stop.count)
        (w.units.take (done.length + e.span.start.count - k) ++ content ++
          done.drop (done.length + e.span.stop.count - k)) := by
  obtain ⟨-, -, hle, -⟩ := he.counts
  exact ⟨_, length_contentAt (h.locate_eq he hk hfit) (by omega), h.add he hk hfit style stripped⟩

/-- The edited text changes its length by what the entity is shown in and what it covers. -/
theorem Reached.length_units_add {units done : List UInt16} {k : Nat} (h : w.Reached units k done)
    (he : e.span.Inside units.length) (hk : k ≤ done.length + e.span.start.count)
    (hfit : (done.length + (units.length - k) : Nat) ≤ Word.greatest) (style : LinkStyle)
    (stripped : Option (Offset .display)) :
    (w.add style stripped e).units.length + (e.span.stop.count - e.span.start.count) =
      w.units.length + e.shownLength stripped := by
  obtain ⟨content, hcontent, hadd⟩ := h.exists_add he hk hfit style stripped
  obtain ⟨-, -, hle, hstop⟩ := he.counts
  have hkle := h.le
  rw [hadd.length_units, h.length_units]
  simp only [List.length_append, List.length_take, List.length_drop, h.length_units]
  omega

/-- What stands in the edited text for characters outside some stretches is not reached from a
place: behind it there are as many units as the place lies back from the rest. -/
def Spares (w : Splice) (spans : List (Span .display)) (text : List Char) (n : Nat) : Prop :=
  ∃ (pre post : List Char) (head tail : List UInt16), text = pre ++ post ∧
    w.Reached (encode text) (length pre) (head ++ tail) ∧ Spells head (outside spans 0 pre) ∧
    length pre ≤ n + tail.length

theorem spares_ofText (spans : List (Span .display)) (text : List Char) (n : Nat) :
    (ofText text).Spares spans text n :=
  ⟨[], text, [], [], rfl, ⟨Nat.zero_le _, rfl, rfl⟩, .nil _, Nat.zero_le _⟩

theorem Spares.spells (h : w.Spares spans text n) : Spells w.units (outside spans 0 text) := by
  obtain ⟨pre, post, head, tail, rfl, hreached, hspells, -⟩ := h
  rw [hreached.units, drop_encode_append, outside_append]
  exact (hspells.append_right tail).append ((Spells.encode post).sublist (outside_sublist _ _))

section add

variable {pre post : List Char} {head tail content : List UInt16} {w' : Splice}
  (h : w.Reached (encode (pre ++ post)) (length pre) (head ++ tail))
  (hspells : Spells head (outside spans 0 pre))
  (hadd : w'.Reached (encode (pre ++ post)) (max (length pre) e.span.stop.count)
    (w.units.take ((head ++ tail).length + e.span.start.count - length pre) ++ content ++
      (head ++ tail).drop ((head ++ tail).length + e.span.stop.count - length pre)))
  (hmem : e.span ∈ spans) (he : e.span.Inside (length (pre ++ post)))
  (hstop : IsBoundary (pre ++ post) e.span.stop.count)
  (hn : e.span.stop.count ≤ n + content.length)

include h hspells hadd hmem he hstop hn

/-- Behind an entity in the rest, all that has been made of the text before it is out of reach. -/
theorem Reached.spares_ahead (hstart : IsBoundary (pre ++ post) e.span.start.count)
    (hk : length pre ≤ e.span.start.count) : w'.Spares spans (pre ++ post) n := by
  obtain ⟨hcount, hcount', hle, -⟩ := he.counts
  obtain ⟨mid, post, rfl, hmid⟩ := hstart.exists_append hk
  rw [← List.append_assoc] at hstop
  obtain ⟨cov, post, rfl, hcov⟩ := hstop.exists_append (by rw [length_append]; omega)
  have hmax : max (length pre) e.span.stop.count = length (pre ++ mid ++ cov) := by
    rw [length_append, hcov]
    omega
  have hnone : outside spans (length (pre ++ mid)) cov = [] :=
    outside_eq_nil hmem (by rw [length_append]; omega) (by omega)
  rw [h.take_units hk, ← hmid, cut_encode_append, List.drop_of_length_le (by omega),
    List.append_nil, hmax] at hadd
  refine ⟨pre ++ mid ++ cov, post, head ++ tail ++ encode mid, content, by simp, hadd, ?_, ?_⟩
  · rw [outside_append, Nat.zero_add, hnone, List.append_nil, outside_append]
    exact (hspells.append_right tail).append ((Spells.encode mid).sublist (outside_sublist _ _))
  · rwa [length_append, hcov]

/-- An entity that begins in what has been edited is put behind all that stands for characters
outside. -/
theorem Reached.spares_back (hk : e.span.start.count ≤ length pre)
    (hback : length pre ≤ e.span.start.count + tail.length) :
    w'.Spares spans (pre ++ post) n := by
  obtain ⟨hcount, hcount', hle, -⟩ := he.counts
  have hdone : (head ++ tail).length = head.length + tail.length := List.length_append
  obtain ⟨cov, post, rfl, hcov, hnone⟩ : ∃ cov rest, post = cov ++ rest ∧
      length pre + length cov = max (length pre) e.span.stop.count ∧
      outside spans (length pre) cov = [] := by
    rcases Nat.le_total e.span.stop.count (length pre) with hstop' | hstop'
    · exact ⟨[], post, rfl, by rw [Nat.max_eq_left hstop']; rfl, rfl⟩
    · obtain ⟨cov, rest, hpost, hcov⟩ := hstop.exists_append hstop'
      exact ⟨cov, rest, hpost, by rw [Nat.max_eq_right hstop', hcov],
        outside_eq_nil hmem (by omega) (by omega)⟩
  have hi : (head ++ tail).length + e.span.start.count - length pre =
      head.length + (tail.length + e.span.start.count - length pre) := by omega
  have hj : (head ++ tail).length + e.span.stop.count - length pre =
      head.length + (tail.length + e.span.stop.count - length pre) := by omega
  rw [h.units, hi, hj, List.append_assoc head tail, List.take_length_add_append,
    List.drop_length_add_append, List.take_append_of_le_length (by omega), ← hcov,
    ← length_append, List.append_assoc, List.append_assoc] at hadd
  refine ⟨pre ++ cov, post, head, _, by simp, hadd, ?_, ?_⟩
  · rwa [outside_append, Nat.zero_add, hnone, List.append_nil]
  · simp only [length_append, List.length_append, List.length_take, List.length_drop, hcov]
    omega

end add

/-- An entity that does not reach characters outside leaves them so, and what it is shown as stands
between them and the next one. -/
theorem Spares.add (h : w.Spares spans text e.span.start.count)
    (he : e.span.Inside (length text)) (hmem : e.span ∈ spans)
    (hstart : IsBoundary text e.span.start.count) (hstop : IsBoundary text e.span.stop.count)
    (hfit : (w.units.length : Int) ≤ Word.greatest) (style : LinkStyle)
    (hn : e.span.stop.count ≤ n + e.shownLength stripped) :
    (w.add style stripped e).Spares spans text n := by
  obtain ⟨pre, post, head, tail, rfl, hreached, hspells, hback⟩ := h
  have hdone : (head ++ tail).length = head.length + tail.length := List.length_append
  rw [hreached.length_units] at hfit
  obtain ⟨content, hcontent, hadd⟩ := hreached.exists_add (by rwa [length_encode]) (by omega) hfit
    style stripped
  rw [← hcontent] at hn
  rcases Nat.le_total (length pre) e.span.start.count with hk | hk
  · exact hreached.spares_ahead hspells hadd hmem he hstop hn hstart hk
  · exact hreached.spares_back hspells hadd hmem he hstop hn hk hback

theorem Spares.length_units_add_le (h : w.Spares spans text e.span.start.count)
    (he : e.span.Inside (length text)) (hfit : (w.units.length : Int) ≤ Word.greatest)
    (style : LinkStyle) (stripped : Option (Offset .display)) :
    (w.add style stripped e).units.length ≤ w.units.length + length e.form := by
  obtain ⟨pre, post, head, tail, -, hreached, -, hback⟩ := h
  rw [← length_encode] at he
  rw [hreached.length_units] at hfit
  have hk : length pre ≤ (head ++ tail).length + e.span.start.count := by
    rw [List.length_append]
    omega
  have hlength := hreached.length_units_add he hk hfit style stripped
  have hshown := e.shownLength_le stripped
  omega

theorem Spares.add_of_not_inside (h : w.Spares spans text n) (he : ¬ e.span.Inside (length text))
    (hneg : e.span.start.toInt < 0 → w.offset = 0) (hfit : (w.units.length : Int) < Word.greatest)
    (style : LinkStyle) (stripped : Option (Offset .display)) : w.add style stripped e = w := by
  obtain ⟨pre, post, head, tail, -, hreached, -, -⟩ := h
  rw [← length_encode] at he
  exact Splice.add_of_not_inside style stripped hreached he hneg
    (by rwa [← hreached.length_units])

/-- Where no entity is shown in fewer units than a later one reaches back over it, editing leaves
the characters outside of all entities. -/
theorem foldl_add_spares (style : LinkStyle) (stripped : Option (Offset .display))
    {es : List (Entity .display)} (sorted : es.Pairwise fun a b => a.span.start ≤ b.span.start)
    (hshown : (es.filter fun e => e.span.Inside (length text)).Pairwise fun a b =>
      a.span.stop.count ≤ b.span.start.count + a.shownLength stripped)
    (hes : ∀ e ∈ es, e.span.Inside (length text) → e.span ∈ spans ∧
      IsBoundary text e.span.start.count ∧ IsBoundary text e.span.stop.count)
    (hs : ∀ e ∈ es, e.span.Inside (length text) → w.Spares spans text e.span.start.count)
    (hend : w.Spares spans text (length text))
    (hneg : w.offset = 0 ∨ ∀ e ∈ es, 0 ≤ e.span.start.toInt)
    (hfit : (w.units.length + length (es.flatMap Entity.form) : Nat) < Word.greatest) :
    (es.foldl (Splice.add style stripped) w).Spares spans text (length text) := by
  induction es generalizing w with
  | nil => exact hend
  | cons e es ih =>
    obtain ⟨hfirst, sorted⟩ := List.pairwise_cons.1 sorted
    obtain ⟨he, hes⟩ := List.forall_mem_cons.1 hes
    obtain ⟨hse, hs⟩ := List.forall_mem_cons.1 hs
    rw [List.flatMap_cons, length_append] at hfit
    rw [List.foldl_cons]
    by_cases hin : e.span.Inside (length text)
    · rw [List.filter_cons_of_pos (by simpa using hin)] at hshown
      obtain ⟨hnext, hshown⟩ := List.pairwise_cons.1 hshown
      obtain ⟨hmem, hstart, hstop⟩ := he hin
      have hadd {n : Nat} (hn : e.span.stop.count ≤ n + e.shownLength stripped) :
          (w.add style stripped e).Spares spans text n :=
        (hse hin).add hin hmem hstart hstop (by omega) style hn
      have hlength := (hse hin).length_units_add_le hin (by omega) style stripped
      refine ih sorted hshown hes (fun f hf hinf => hadd ?_) (hadd ?_) (.inr fun f hf => ?_) ?_
      · exact hnext f (List.mem_filter.2 ⟨hf, by simpa using hinf⟩)
      · exact Nat.le_add_right_of_le hin.counts.2.2.2
      · exact Int.le_trans hin.1 (Offset.le_iff_toInt_le.1 (hfirst f hf))
      · omega
    · rw [List.filter_cons_of_neg (by simpa using hin)] at hshown
      -- the negative starts come first, while nothing has been moved
      have hskip : w.add style stripped e = w := by
        refine hend.add_of_not_inside hin (fun hn => ?_) (by omega) style stripped
        rcases hneg with hzero | hpos
        · exact hzero
        · have := hpos e List.mem_cons_self
          omega
      rw [hskip]
      refine ih sorted hshown hes hs hend (hneg.imp_right fun hpos f hf => ?_) (by omega)
      exact hpos f (List.mem_cons_of_mem _ hf)

/-- The length of a text in which two entities have been put in their places. -/
theorem length_units_add_add {f : Entity .display} (style : LinkStyle)
    (he : e.span.Inside (length text)) (hf : f.span.Inside (length text))
    (hback : e.span.stop.count ≤ e.span.start.count + e.shownLength stripped + f.span.start.count)
    (hfit : (length text + length e.form : Nat) < Word.greatest) :
    (((ofText text).add style stripped e).add style stripped f).units.length +
        (e.span.stop.count - e.span.start.count) + (f.span.stop.count - f.span.start.count) =
      length text + e.shownLength stripped + f.shownLength stripped := by
  have h : (ofText text).Reached (encode text) 0 [] := ⟨Nat.zero_le _, rfl, rfl⟩
  have hunits : (ofText text).units.length = length text := length_encode text
  have hword : (([] : List UInt16).length + ((encode text).length - 0) : Nat) ≤ Word.greatest := by
    rw [List.length_nil, length_encode]
    omega
  have hshown := e.shownLength_le stripped
  obtain ⟨-, -, hle, hstop⟩ := he.counts
  rw [← length_encode text] at he hf
  obtain ⟨content, hcontent, hadd⟩ := h.exists_add he (Nat.zero_le _) hword style stripped
  have hlength := h.length_units_add he (Nat.zero_le _) hword style stripped
  rw [hunits] at hlength
  -- what was made of the text up to the end of the first entity is as long as the second needs
  have hdone := hadd.length_units
  rw [length_encode] at hdone
  have hlength' := hadd.length_units_add hf (by omega) (by rw [length_encode, ← hdone]; omega) style
    stripped
  omega

end Splice

namespace Annotated

/-- The characters of the text outside all entities in it. -/
def plain (a : Annotated .display) : List Char :=
  outside (a.inText.map Entity.span) 0 a.text.toList

/-- The shown text, with the blanks at its end. -/
def untrimmed (a : Annotated .display) (style : LinkStyle) : List Char :=
  if a.text.isEmpty then [] else decode (a.edited style).units

variable {a : Annotated .display} {style : LinkStyle}

theorem text_hypertext (a : Annotated .display) (style : LinkStyle) :
    (a.hypertext style).text = String.ofList (trimEnd (a.untrimmed style)) := by
  by_cases htext : a.text = ""
  · rw [hypertext, untrimmed, if_pos (by rwa [String.isEmpty_iff]),
      if_pos (by rwa [String.isEmpty_iff])]
    rfl
  · rw [hypertext_eq_finish htext, untrimmed, if_neg (by rwa [String.isEmpty_iff])]
    rfl

/-- The units that the text is shown in hold its plain characters, if no entity is shown in fewer
units than a later one reaches back over it. -/
theorem spells_edited
    (hbounds : ∀ e ∈ a.inText, IsBoundary a.text.toList e.span.start.count ∧
      IsBoundary a.text.toList e.span.stop.count)
    (hshown : a.inText.Pairwise fun e f =>
      e.span.stop.count ≤ f.span.start.count + e.shownLength (a.strippedStart? style))
    (hfit : (length a.text.toList + length ((a.media ++ a.links).flatMap Entity.form) : Nat) <
      Word.greatest) :
    Spells (a.edited style).units a.plain := by
  have hstart : (Splice.ofText a.text.toList).units.length = length a.text.toList :=
    length_encode _
  rw [← length_forms_merged, ← hstart] at hfit
  refine (Splice.foldl_add_spares style _ (Entity.pairwise_mergeSort_start _) hshown
    (fun e he hin => ?_) (fun _ _ _ => Splice.spares_ofText _ _ _) (Splice.spares_ofText _ _ _)
    (.inl rfl) hfit).spells
  have hmem : e ∈ a.inText := List.mem_filter.2 ⟨he, by simpa using hin⟩
  exact ⟨List.mem_map_of_mem hmem, hbounds e hmem⟩

theorem length_untrimmed_le (a : Annotated .display) (style : LinkStyle) :
    length (a.untrimmed style) ≤ (a.edited style).units.length := by
  unfold untrimmed
  split
  · exact Nat.zero_le _
  · exact Nat.le_of_eq (length_decode _)

/-- Two entities that are shown in fewer units than they overlap by leave less room than the plain
characters take, unless the second would reach back over the beginning of the text. -/
theorem length_untrimmed_lt {e f : Entity .display}
    (hmerged : mergeEntities a.links a.media = [e, f])
    (he : e.span.Inside (length a.text.toList)) (hf : f.span.Inside (length a.text.toList))
    (hbounds : ∀ e ∈ a.inText, IsBoundary a.text.toList e.span.start.count ∧
      IsBoundary a.text.toList e.span.stop.count)
    (hfit : (length a.text.toList + length ((a.media ++ a.links).flatMap Entity.form) : Nat) <
      Word.greatest)
    (hback : e.span.stop.count ≤
      e.span.start.count + e.shownLength (a.strippedStart? style) + f.span.start.count)
    (hover : f.span.start.count + e.shownLength (a.strippedStart? style) +
      f.shownLength (a.strippedStart? style) < min e.span.stop.count f.span.stop.count) :
    length (a.untrimmed style) < length a.plain := by
  have hin : a.inText = [e, f] := by
    rw [inText, hmerged, List.filter_cons_of_pos (by simpa using he),
      List.filter_cons_of_pos (by simpa using hf)]
    rfl
  have hsorted : (mergeEntities a.links a.media).Pairwise fun e f => e.span.start ≤ f.span.start :=
    Entity.pairwise_mergeSort_start _
  rw [hmerged, List.pairwise_pair, Offset.le_iff_toInt_le] at hsorted
  rw [← length_forms_merged, hmerged, List.flatMap_cons, length_append] at hfit
  rw [hin] at hbounds
  obtain ⟨⟨hstart, hstop⟩, -, hstop'⟩ : _ ∧ _ := by simpa using hbounds
  have hedited := Splice.length_units_add_add style he hf hback (by omega)
  have huntrimmed := a.length_untrimmed_le style
  rw [edited, hmerged, List.foldl_cons, List.foldl_cons, List.foldl_nil] at huntrimmed
  obtain ⟨hcount, hcount', hle, hend⟩ := he.counts
  obtain ⟨hcountf, hcountf', hle', hend'⟩ := hf.counts
  have hlater : IsBoundary a.text.toList (max e.span.stop.count f.span.stop.count) := by
    rcases Nat.le_total e.span.stop.count f.span.stop.count with h | h
    · rwa [Nat.max_eq_right h]
    · rwa [Nat.max_eq_left h]
  have hplain : length a.text.toList + e.span.start.count ≤
      length a.plain + max e.span.stop.count f.span.stop.count := by
    rw [plain, hin]
    refine length_le_outside hstart hlater (by omega) fun span hspan => ?_
    simp only [List.map_cons, List.map_nil, List.mem_cons, List.not_mem_nil, or_false] at hspan
    rcases hspan with rfl | rfl <;> omega
  omega

/-- The plain characters of a text are all shown in their order if no entity is shown in fewer units
than a later one reaches back over it.  Where two entities that overlap do not keep to this, such as
two photos over the same stretch that are both cut out, characters are lost. -/
theorem plain_sublist_untrimmed
    (hbounds : ∀ e ∈ a.inText, IsBoundary a.text.toList e.span.start.count ∧
      IsBoundary a.text.toList e.span.stop.count)
    (hfit : (length a.text.toList + length ((a.media ++ a.links).flatMap Entity.form) : Nat) <
      Word.greatest) (style : LinkStyle) :
    let shown := Entity.shownLength (a.strippedStart? style)
    (a.hypertext style).text = String.ofList (trimEnd (a.untrimmed style)) ∧
      ((a.inText.Pairwise fun e f => e.span.stop.count ≤ f.span.start.count + shown e) →
        a.plain.Sublist (a.untrimmed style)) ∧
      ∀ e f, mergeEntities a.links a.media = [e, f] → e.span.Inside (length a.text.toList) →
        f.span.Inside (length a.text.toList) →
        e.span.stop.count ≤ e.span.start.count + shown e + f.span.start.count →
        f.span.start.count + shown e + shown f < min e.span.stop.count f.span.stop.count →
        ¬ a.plain.Sublist (a.untrimmed style) := by
  intro shown
  refine ⟨text_hypertext a style, fun hshown => ?_, fun e f hmerged he hf hback hover hsub => ?_⟩
  · by_cases htext : a.text = ""
    · have hplain : a.plain = [] := by
        rw [plain, htext]
        rfl
      rw [hplain]
      exact List.nil_sublist _
    · rw [untrimmed, if_neg (by rwa [String.isEmpty_iff])]
      exact (spells_edited hbounds hshown hfit).sublist_decode
  · have hlt := length_untrimmed_lt hmerged he hf hbounds hfit hback hover
    have hle := length_le_of_sublist hsub
    omega

/-- A link that begins in the one before it, which is shown in more units than it covers. -/
def overgrown : Annotated .display :=
  ⟨"see all of it ",
    [⟨⟨⟨4⟩, ⟨7⟩⟩, "e", some "everything", none, .url⟩, ⟨⟨⟨5⟩, ⟨9⟩⟩, "x", some "x", none, .url⟩], []⟩

/-- Two photos over the same stretch. -/
def twicePhotographed : Annotated .display :=
  ⟨"keep photo tail", [],
    [⟨⟨⟨5⟩, ⟨10⟩⟩, "p", none, none, .media 1 (some "photo") none⟩,
      ⟨⟨⟨5⟩, ⟨10⟩⟩, "p", none, none, .media 2 (some "photo") none⟩]⟩

theorem plain_overgrown_twicePhotographed :
    "see f it ".toList.Sublist (overgrown.untrimmed ⟨true, 5, false⟩) ∧
      ¬ "keep  tail".toList.Sublist (twicePhotographed.untrimmed ⟨true, 5, false⟩) := by
  have hlinks : mergeEntities overgrown.links overgrown.media = overgrown.links :=
    List.mergeSort_of_pairwise (by decide)
  have hphotos : mergeEntities twicePhotographed.links twicePhotographed.media =
      [twicePhotographed.media[0], twicePhotographed.media[1]] :=
    List.mergeSort_of_pairwise (by decide)
  have hin : overgrown.inText = overgrown.links := by
    rw [inText, hlinks]
    decide +kernel
  have hin' : twicePhotographed.inText = twicePhotographed.media := by
    rw [inText, hphotos]
    decide +kernel
  have hplain : overgrown.plain = "see f it ".toList := by
    rw [plain, hin]
    decide +kernel
  have hplain' : twicePhotographed.plain = "keep  tail".toList := by
    rw [plain, hin']
    decide +kernel
  rw [← hplain, ← hplain']
  constructor
  · refine (plain_sublist_untrimmed ?_ (by decide +kernel) ⟨true, 5, false⟩).2.1 ?_
    · rw [hin]
      decide +kernel
    · rw [hin]
      decide +kernel
  · refine (plain_sublist_untrimmed ?_ (by decide +kernel) ⟨true, 5, false⟩).2.2 _ _ hphotos
      (by decide +kernel) (by decide +kernel) (by decide +kernel) (by decide +kernel)
    rw [hin']
    decide +kernel

end Annotated

end Newsfeed
