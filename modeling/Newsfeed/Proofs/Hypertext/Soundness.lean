import Newsfeed.Proofs.Hypertext.OnePass

/-!
# Hypertexts are sound

Entities may lie anywhere: over each other, in reverse, outside the text or across half a pair.
Whatever they do, the running offset stays the difference between the length of the text as it came
and that of the edited one (`Splice.Sound`), only units of the edited text are ever replaced, and
each anchor of the hypertext covers some of its text (`sound_hypertext`).
-/

namespace Newsfeed

open Text

/-! ## Slices of a text -/

theorem Text.isBlank_getLast?_trimEnd (cs : List Char) :
    ∀ c ∈ (trimEnd cs).getLast?, isBlank c = false := by
  intro c hc
  rw [trimEnd, List.getLast?_reverse] at hc
  cases hdrop : cs.reverse.dropWhile isBlank with
  | nil =>
    rw [hdrop] at hc
    cases hc
  | cons d ds =>
    rw [hdrop, List.head?_cons, Option.mem_some_iff] at hc
    have hhead := List.head?_dropWhile_not isBlank cs.reverse
    rw [hdrop] at hhead
    simpa [hc] using hhead

/-- Offsets in a text and in order cut out as many units as lie between them. -/
theorem Text.exists_slice {cs : List Char} {start stop : Offset .display} (hstart : 0 ≤ start.toInt)
    (hle : start.toInt ≤ stop.toInt) (hstop : stop.toInt ≤ length cs) :
    ∃ ds, slice cs start stop = some ds ∧ (length ds : Int) = stop.toInt - start.toInt := by
  have hi := Offset.count_eq hstart
  have hj := Offset.count_eq (Int.le_trans hstart hle)
  have hlen : length (decode (cut (encode cs) start.count stop.count)) =
      stop.count - start.count := by
    rw [length_decode, cut, List.length_take, List.length_drop, length_encode]
    omega
  refine ⟨decode (cut (encode cs) start.count stop.count), ?_, by omega⟩
  simp only [slice, Offset.index?_eq_some_iff.2 hi.symm, Offset.index?_eq_some_iff.2 hj.symm,
    Option.bind_eq_bind, Option.bind_some]
  exact if_pos ⟨by omega, by omega⟩

/-! ## Edited texts -/

namespace Splice

/-- What an edited text keeps to if the text came with `n` units. -/
structure Sound (n : Nat) (w : Splice) : Prop where
  length_units : (w.units.length : Int) = n - w.offset
  nonneg : ∀ a ∈ w.anchors, 0 ≤ a.span.start.toInt

/-- An entity is skipped, or what it is shown as takes the place of the units that it covers by the
running offset, all of which are in the edited text. -/
def Edits (stripped : Option (Offset .display)) (e : Entity .display) (w w' : Splice) : Prop :=
  w' = w ∨ ∃ i j : Nat, (e.span.start.shift (-w.offset)).toInt = i ∧
    (e.span.stop.shift (-w.offset)).toInt = j ∧ i ≤ j ∧ j ≤ w.units.length ∧
    w'.units = w.units.take i ++ w.contentAt stripped e i j ++ w.units.drop j

variable {n : Nat} {w : Splice} {e : Entity .display} {style : LinkStyle}
  {stripped : Option (Offset .display)}

theorem sound_ofText (text : List Char) : (ofText text).Sound (length text) where
  length_units := by simp [ofText]
  nonneg := by simp [ofText]

theorem edits_add (style : LinkStyle) (stripped : Option (Offset .display)) (w : Splice)
    (e : Entity .display) : w.Edits stripped e (w.add style stripped e) := by
  cases hl : w.locate e.span with
  | none => exact .inl (add_of_locate_eq_none style stripped hl)
  | some ij =>
    obtain ⟨i, j⟩ := ij
    obtain ⟨hi, hj, hij, hlen⟩ := locate_eq_some_iff.1 hl
    refine .inr
      ⟨i, j, Offset.index?_eq_some_iff.1 hi, Offset.index?_eq_some_iff.1 hj, hij, hlen, ?_⟩
    rw [add_of_locate style stripped hl]
    rfl

theorem length_units_replace {i j : Nat} (hij : i ≤ j) (hj : j ≤ w.units.length)
    (units : List UInt16) :
    ((w.replace i j units).units.length : Int) + (w.replace i j units).offset =
      w.units.length + w.offset := by
  simp only [replace, List.length_append, List.length_take, List.length_drop]
  omega

theorem Sound.add (h : w.Sound n) : (w.add style stripped e).Sound n := by
  cases hl : w.locate e.span with
  | none => rwa [add_of_locate_eq_none style stripped hl]
  | some ij =>
    obtain ⟨i, j⟩ := ij
    obtain ⟨-, -, hij, hj⟩ := locate_eq_some_iff.1 hl
    have hreplace := length_units_replace hij hj (w.contentAt stripped e i j)
    have hlength := h.length_units
    rw [add_of_locate style stripped hl]
    refine ⟨by dsimp only; omega, fun a ha => ?_⟩
    rcases List.mem_append.1 ha with ha | ha
    · exact h.nonneg a ha
    · simp only [Option.mem_toList, Option.map_eq_some_iff] at ha
      obtain ⟨url, -, rfl⟩ := ha
      exact (Offset.toInt_ofInt_mem i).1

/-- Whatever entities are shown in a text, it stays sound. -/
theorem Sound.foldl_add (h : w.Sound n) (es : List (Entity .display)) :
    (es.foldl (Splice.add style stripped) w).Sound n := by
  induction es generalizing w with
  | nil => exact h
  | cons e es ih => exact ih h.add

/-- What is left of an anchor covers some of the text. -/
theorem Sound.mem_anchors_finish (h : w.Sound n) {a : Anchor} (ha : a ∈ w.finish.anchors) :
    0 ≤ a.span.start.toInt ∧ a.span.start.toInt < a.span.stop.toInt ∧
      a.span.stop.toInt ≤ length w.finish.text.toList := by
  obtain ⟨hmem, hlt⟩ := List.mem_filter.1 ha
  obtain ⟨b, hb, rfl⟩ := List.mem_map.1 hmem
  refine ⟨h.nonneg b hb, Offset.lt_iff_toInt_lt.1 (of_decide_eq_true hlt), ?_⟩
  have htext : w.finish.text.toList = trimEnd (decode w.units) := String.toList_ofList
  have hstop := (Offset.toInt_ofInt_mem (s := .display) (length (trimEnd (decode w.units)))).2
  rw [htext]
  dsimp only
  split
  next hle => exact Int.le_trans (Offset.le_iff_toInt_le.1 hle) hstop
  next => exact hstop

theorem isBlank_getLast?_finish (w : Splice) :
    ∀ c ∈ w.finish.text.toList.getLast?, isBlank c = false := by
  have htext : w.finish.text.toList = trimEnd (decode w.units) := String.toList_ofList
  rw [htext]
  exact isBlank_getLast?_trimEnd _

end Splice

/-! ## Hypertexts -/

namespace Annotated

/-- The text once the first `k` entities have been put in their places. -/
def editing (a : Annotated .display) (style : LinkStyle) (k : Nat) : Splice :=
  ((mergeEntities a.links a.media).take k).foldl (Splice.add style (a.strippedStart? style))
    (.ofText a.text.toList)

theorem editing_succ (a : Annotated .display) (style : LinkStyle) {k : Nat} {e : Entity .display}
    (he : (mergeEntities a.links a.media)[k]? = some e) :
    a.editing style (k + 1) = (a.editing style k).add style (a.strippedStart? style) e := by
  rw [editing, editing, List.take_add_one, he, Option.toList_some, List.foldl_append]
  rfl

theorem editing_length (a : Annotated .display) (style : LinkStyle) :
    a.editing style (mergeEntities a.links a.media).length = a.edited style := by
  rw [editing, List.take_length, edited]

theorem sound_editing (a : Annotated .display) (style : LinkStyle) (k : Nat) :
    (a.editing style k).Sound (length a.text.toList) :=
  (Splice.sound_ofText a.text.toList).foldl_add _

/-- Wherever the entities lie: at each step, the edited text is as long as the text that came less
the running offset, and the next entity takes the place of units that the edited text has; the
hypertext does not end in a blank; and each of its anchors covers some of its text, which can be cut
out of it. -/
theorem sound_hypertext (a : Annotated .display) (style : LinkStyle) :
    (∀ k, ((a.editing style k).units.length : Int) =
        length a.text.toList - (a.editing style k).offset ∧
      ∀ e ∈ (mergeEntities a.links a.media)[k]?,
        (a.editing style k).Edits (a.strippedStart? style) e (a.editing style (k + 1))) ∧
    (∀ c ∈ (a.hypertext style).text.toList.getLast?, isBlank c = false) ∧
    ∀ c ∈ (a.hypertext style).anchors,
      0 ≤ c.span.start.toInt ∧ c.span.start.toInt < c.span.stop.toInt ∧
      c.span.stop.toInt ≤ length (a.hypertext style).text.toList ∧
      ∃ t, (a.hypertext style).slice c.span = some t ∧ t ≠ "" ∧
        (length t.toList : Int) = c.span.stop.toInt - c.span.start.toInt := by
  refine ⟨fun k => ⟨(a.sound_editing style k).length_units, fun e he => ?_⟩, ?_⟩
  · rw [editing_succ a style he]
    exact Splice.edits_add style _ _ e
  by_cases htext : a.text = ""
  · have hempty : a.hypertext style = .empty := if_pos (by rwa [String.isEmpty_iff])
    rw [hempty]
    exact ⟨nofun, nofun⟩
  · have hsound := a.sound_editing style (mergeEntities a.links a.media).length
    rw [editing_length] at hsound
    rw [hypertext_eq_finish htext]
    refine ⟨Splice.isBlank_getLast?_finish _, fun c hc => ?_⟩
    obtain ⟨hstart, hlt, hstop⟩ := hsound.mem_anchors_finish hc
    obtain ⟨ds, hds, hlen⟩ := exists_slice hstart (Int.le_of_lt hlt) hstop
    refine ⟨hstart, hlt, hstop, String.ofList ds, ?_, ?_, by rwa [String.toList_ofList]⟩
    · rw [Hypertext.slice, hds]
      rfl
    · -- a text without units would be covered by an anchor without units
      intro hnil
      rw [String.ofList_eq_empty_iff] at hnil
      rw [hnil, length_nil] at hlen
      omega

end Annotated

end Newsfeed
