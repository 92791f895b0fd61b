import Newsfeed.Proofs.Annotated.Placing

/-!
# What reconciled entities cut out

An entity between two cuts of the raw text cuts out of the shown text what its own stretch of the
raw text unescapes to (`slice_annotated`).  The other entities of its list may overlap it or lie
anywhere, as long as the list is in order, because the sweep moves each of them as if it were alone.
-/

namespace Newsfeed

open Text

/-! ## Slices -/

theorem Text.add_supplements_take_le {cs : List Char} {i : Nat} (hi : i ≤ cs.length) :
    i + supplements (cs.take (i + 1)) ≤ length cs := by
  have hsplit : length cs = length (cs.take (i + 1)) + length (cs.drop (i + 1)) := by
    rw [← length_append, List.take_append_drop]
  have htake := length_eq_add_supplements (cs.take (i + 1))
  rw [List.length_take] at htake
  omega

/-- What moves by the pairs up to an earlier place stays in the text. -/
theorem Text.add_supplements_take_succ_le {cs : List Char} {i j : Nat} (hij : i ≤ j)
    (hj : j ≤ cs.length) : j + supplements (cs.take (i + 1)) ≤ length cs := by
  have hle := supplements_take_le cs (Nat.add_le_add_right hij 1)
  have hstop := add_supplements_take_le hj
  omega

/-- A text is cut among its units, between ends that lie in it in this order. -/
theorem Text.slice_eq_some_iff {cs piece : List Char} {start stop : Offset .display} :
    slice cs start stop = some piece ↔
      (0 ≤ start.toInt ∧ start.toInt ≤ stop.toInt ∧ stop.toInt ≤ length cs) ∧
        decode (cut (encode cs) start.count stop.count) = piece := by
  have hindex (o : Offset .display) : o.index? = if 0 ≤ o.toInt then some o.count else none := rfl
  simp only [slice, hindex, Option.bind_eq_bind]
  by_cases hstart : 0 ≤ start.toInt
  · by_cases hstop : 0 ≤ stop.toInt
    · have hi := Offset.count_eq hstart
      have hj := Offset.count_eq hstop
      have hin : start.count ≤ stop.count ∧ stop.count ≤ length cs ↔
          0 ≤ start.toInt ∧ start.toInt ≤ stop.toInt ∧ stop.toInt ≤ length cs := by omega
      rw [if_pos hstart, if_pos hstop, Option.bind_some, Option.bind_some, ← hin,
        Option.ite_none_right_eq_some, Option.some.injEq]
      rfl
    · rw [if_pos hstart, if_neg hstop]
      simp
      omega
  · simp [hstart]

/-- Numbers that fit into a word cut a text as offsets. -/
theorem Text.slice_ofInt {cs : List Char} {i j : Nat} (hij : i ≤ j) (hj : j ≤ length cs)
    (hword : (length cs : Int) ≤ Word.greatest) :
    slice cs (.ofInt i) (.ofInt j) = some (decode (cut (encode cs) i j)) := by
  have hi : (.ofInt i : Offset .display).toInt = i := Offset.toInt_ofInt_of_le (by omega)
  have hj' : (.ofInt j : Offset .display).toInt = j := Offset.toInt_ofInt_of_le (by omega)
  refine slice_eq_some_iff.2 ⟨by omega, ?_⟩
  rw [Offset.count, Offset.count, hi, hj', Int.toNat_natCast, Int.toNat_natCast]

/-- A stretch between cuts, moved into the shown text, cuts out of it what it is shown as. -/
theorem Span.IsWhole.slice_followPairs {span : Span .raw} {raw : List Char} (h : span.IsWhole raw)
    (plain : ∀ c ∈ span.shownText raw, width c = 1)
    (hword : (length (unescape raw).text : Int) ≤ Word.greatest) :
    let placed := (Sweep.placeAlone (unescape raw).collapses span).followPairs
      ((pairIndices (unescape raw).text).map Int.ofNat)
    slice (unescape raw).text placed.start placed.stop = some (span.shownText raw) := by
  intro placed
  by_cases hlt : span.start < span.stop
  · have hplaced : placed = ⟨.ofInt (unitsBefore raw span.start.count),
        .ofInt (unitsBefore raw span.stop.count)⟩ := h.followPairs_of_plain hlt plain
    have hle := (unitsBefore_le_iff h.isCut_start h.isCut_stop).2 h.count_le_count
    rw [hplaced, slice_ofInt hle (unitsBefore_le_length h.isCut_stop) hword,
      cut_encode h.isCut_start h.isCut_stop h.count_le_count, decode_encode]
    rfl
  · -- a stretch that covers nothing may have moved behind a pair at its place
    have heq : span.stop = span.start := by
      refine Offset.le_antisymm ?_ h.ordered
      rw [Offset.lt_iff_toInt_lt] at hlt
      rw [Offset.le_iff_toInt_le]
      omega
    have hplaced := h.followPairs_placeAlone
    rw [heq] at hplaced
    have hin : (unescape (raw.take span.start.count)).text.length ≤ (unescape raw).text.length := by
      rw [h.text_eq_append, List.length_append]
      exact Nat.le_add_right _ _
    have hnone : span.shownText raw = [] := by
      rw [Span.shownText, heq, cut, Nat.sub_self, List.take_zero]
      simp [unescape, pieces]
    show slice _ placed.start placed.stop = _
    rw [show placed = _ from hplaced, hnone]
    rw [slice_ofInt (Nat.le_refl _) (add_supplements_take_le hin) hword, cut, Nat.sub_self,
      List.take_zero]
    rfl

/-! ## Posts -/

/-- The entity number `i` of a list in the shown text is a given entity of the raw text, and cuts
out of the shown text what the entity's own stretch of the raw text unescapes to. -/
def Annotated.CutsOut (a : Annotated .display) (raw : List Char) (shown : List (Entity .display))
    (i : Nat) (e : Entity .raw) : Prop :=
  ∃ span, shown[i]? = some (e.place span) ∧
    a.slice span = some (String.ofList (e.span.shownText raw))

/-- Each member of a list in order cuts out its text, whatever the other members are. -/
theorem cutsOut_followText {a : Annotated .display} {raw : List Char}
    (htext : a.text = String.ofList (unescape raw).text)
    (hword : (length (unescape raw).text : Int) ≤ Word.greatest) {β : Type} (f : β → Entity .raw)
    {xs : List β} (hsorted : xs.Pairwise fun x y => (f x).span.start ≤ (f y).span.start) {i : Nat}
    {x : β} (hx : xs[i]? = some x) (hwhole : (f x).span.IsWhole raw)
    (hplain : ∀ c ∈ (f x).span.shownText raw, width c = 1) :
    a.CutsOut raw
      (followText (unescape raw).text (followCollapses (unescape raw).collapses (xs.map f))) i
      (f x) := by
  refine ⟨(Sweep.placeAlone (unescape raw).collapses (f x).span).followPairs
    ((pairIndices (unescape raw).text).map Int.ofNat), ?_, ?_⟩
  · rw [followText_followCollapses raw (List.pairwise_map.2 hsorted), List.getElem?_map,
      List.getElem?_map, hx]
    rfl
  · rw [Annotated.slice, htext, String.toList_ofList, hwhole.slice_followPairs hplain hword]
    rfl

theorem Annotated.links_addEntities {p : Post} {es : Entities} (hes : p.entities = some es) :
    (empty.addEntities p).links = es.linkList.map Entity.ofLink := by
  simp [addEntities, empty, hes]

theorem Annotated.media_addEntities {p : Post} {es : Entities} (hes : p.entities = some es) :
    (empty.addEntities p).media = es.mediaList.map Entity.ofMedia := by
  simp [addEntities, empty, hes]

/-- A post is shown as its unescaped text, and each entity of a list in order that lies between cuts
of the raw text and covers no supplementary character cuts out what it covers.  The text is held in
memory, so its length is a word. -/
theorem Post.slice_annotated {p : Post} (htext : p.rawText ≠ "")
    (hword : (length p.rawText.toList : Int) ≤ Word.greatest) :
    p.annotated.text = String.ofList (unescape p.rawText.toList).text ∧
      ∀ es, p.entities = some es →
        ((es.linkList.Pairwise fun a b => a.span.start ≤ b.span.start) →
          ∀ i link, es.linkList[i]? = some link → link.span.IsWhole p.rawText.toList →
            (∀ c ∈ link.span.shownText p.rawText.toList, width c = 1) →
            p.annotated.CutsOut p.rawText.toList p.annotated.links i (.ofLink link)) ∧
        ((es.mediaList.Pairwise fun a b => a.span.start ≤ b.span.start) →
          ∀ i media, es.mediaList[i]? = some media → media.span.IsWhole p.rawText.toList →
            (∀ c ∈ media.span.shownText p.rawText.toList, width c = 1) →
            p.annotated.CutsOut p.rawText.toList p.annotated.media i (.ofMedia media)) := by
  have hannotated := p.annotated_eq_of_rawText_ne htext
  have hshown : p.annotated.text = String.ofList (unescape p.rawText.toList).text := by
    rw [hannotated]
  have hfits : (length (unescape p.rawText.toList).text : Int) ≤ Word.greatest := by
    have := length_unescape_text_le p.rawText.toList
    omega
  refine ⟨hshown, fun es hes => ⟨fun hsorted i link hi hwhole hplain => ?_,
    fun hsorted i media hi hwhole hplain => ?_⟩⟩
  · have hlinks : p.annotated.links = followText (unescape p.rawText.toList).text
        (followCollapses (unescape p.rawText.toList).collapses
          (es.linkList.map Entity.ofLink)) := by
      rw [hannotated, Annotated.links_addEntities hes]
    rw [hlinks]
    exact cutsOut_followText hshown hfits Entity.ofLink hsorted hi hwhole hplain
  · have hmedia : p.annotated.media = followText (unescape p.rawText.toList).text
        (followCollapses (unescape p.rawText.toList).collapses
          (es.mediaList.map Entity.ofMedia)) := by
      rw [hannotated, Annotated.media_addEntities hes]
    rw [hmedia]
    exact cutsOut_followText hshown hfits Entity.ofMedia hsorted hi hwhole hplain

/-- A post with references around an emoji, whose links overlap; one of them lies outside the text
and one ends before it starts. -/
def Post.crowded : Post :=
  ⟨1, some "&lt;😀 ab &amp; cd", some ⟨some [⟨"o", none, none, ⟨⟨-5⟩, ⟨99⟩⟩⟩,
    ⟨"u", none, none, ⟨⟨6⟩, ⟨14⟩⟩⟩, ⟨"r", none, none, ⟨⟨9⟩, ⟨4⟩⟩⟩, ⟨"v", none, none, ⟨⟨9⟩, ⟨17⟩⟩⟩],
    none, none, none⟩, none, none⟩

theorem Post.slice_crowded :
    crowded.annotated.CutsOut crowded.rawText.toList crowded.annotated.links 1
        (.ofLink ⟨"u", none, none, ⟨⟨6⟩, ⟨14⟩⟩⟩) ∧
      (Entity.ofLink ⟨"u", none, none, ⟨⟨6⟩, ⟨14⟩⟩⟩).span.shownText crowded.rawText.toList =
        "ab &".toList := by
  have hword : (length crowded.rawText.toList : Int) ≤ Word.greatest := by decide
  have hshown : (⟨⟨6⟩, ⟨14⟩⟩ : Span .raw).shownText crowded.rawText.toList = "ab &".toList := by
    decide +kernel
  refine ⟨((Post.slice_annotated (by decide) hword).2 _ rfl).1 (by decide) 1 _ rfl
    (by decide +kernel) ?_, hshown⟩
  rw [hshown]
  simp [width]

end Newsfeed
