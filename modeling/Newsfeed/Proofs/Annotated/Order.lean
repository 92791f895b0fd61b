import Newsfeed.Proofs.Annotated.Slicing

/-!
# Entities stay in order

Entities that lie in the raw text, in order and between cuts, lie in the shown text, in order, and
what one leaves to the next stays apart (`wellFormed_annotated`).  Both ends of an entity move by
the pairs up to its start, so an entity that covers supplementary characters ends too early, but it
does not leave the text: the places of both ends grow with the start and with the stop alone.
-/

namespace Newsfeed

open Text

/-- The number of characters that are shown for what stands before a place. -/
def Text.charsBefore (raw : List Char) (p : Nat) : Nat := (unescape (raw.take p)).text.length

section Chars

variable {raw : List Char} {p q : Nat}

theorem charsBefore_le (hp : IsCut raw p) (hq : IsCut raw q) (hpq : p ≤ q) :
    charsBefore raw p ≤ charsBefore raw q := by
  rw [charsBefore, charsBefore, unescape_take_append hp hq hpq, List.length_append]
  exact Nat.le_add_right _ _

theorem charsBefore_le_length (hp : IsCut raw p) :
    charsBefore raw p ≤ (unescape raw).text.length := by
  have h := charsBefore_le hp (isCut_length raw) hp.le_length
  rwa [charsBefore, charsBefore, List.take_length] at h

end Chars

/-- Where a stretch of a raw text lies in the shown text. -/
def Span.shownAt (raw : List Char) (span : Span .raw) : Span .display :=
  (Sweep.placeAlone (unescape raw).collapses span).inUnits (unescape raw).text

/-- The units that come before a stretch because of supplementary characters up to its start. -/
def Span.surplus (raw : List Char) (span : Span .raw) : Nat :=
  supplements ((unescape raw).text.take (charsBefore raw span.start.count + 1))

namespace Span.IsWhole

variable {a b : Span .raw} {raw : List Char} (ha : a.IsWhole raw) (hb : b.IsWhole raw)

include ha

theorem shownAt_eq :
    a.shownAt raw = ⟨.ofInt (charsBefore raw a.start.count + a.surplus raw : Nat),
      .ofInt (charsBefore raw a.stop.count + a.surplus raw : Nat)⟩ := ha.followPairs_placeAlone

/-- A stretch stays in the text. -/
theorem shownAt_inside :
    0 ≤ (a.shownAt raw).start.toInt ∧ (a.shownAt raw).start ≤ (a.shownAt raw).stop ∧
      (a.shownAt raw).stop.toInt ≤ length (unescape raw).text := by
  have hchars := charsBefore_le ha.isCut_start ha.isCut_stop ha.count_le_count
  have hstop := add_supplements_take_succ_le hchars (charsBefore_le_length ha.isCut_stop)
  rw [ha.shownAt_eq]
  refine ⟨(Offset.toInt_ofInt_mem _).1, Offset.ofInt_le_ofInt (by omega), ?_⟩
  exact Int.le_trans (Offset.toInt_ofInt_mem _).2 (Int.ofNat_le.2 hstop)

include hb

theorem surplus_le (hab : a.start ≤ b.start) : a.surplus raw ≤ b.surplus raw := by
  have hchars := charsBefore_le ha.isCut_start hb.isCut_start (Offset.count_le_count hab)
  exact supplements_take_le _ (Nat.add_le_add_right hchars 1)

/-- Stretches keep the order of their starts. -/
theorem start_shownAt_le (hab : a.start ≤ b.start) :
    (a.shownAt raw).start ≤ (b.shownAt raw).start := by
  have hchars := charsBefore_le ha.isCut_start hb.isCut_start (Offset.count_le_count hab)
  have hsurplus := ha.surplus_le hb hab
  rw [ha.shownAt_eq, hb.shownAt_eq]
  exact Offset.ofInt_le_ofInt (by omega)

/-- A stretch that ends before another one starts does so in the shown text. -/
theorem stop_shownAt_le (hab : a.stop ≤ b.start) :
    (a.shownAt raw).stop ≤ (b.shownAt raw).start := by
  have hchars := charsBefore_le ha.isCut_stop hb.isCut_start (Offset.count_le_count hab)
  have hsurplus := ha.surplus_le hb (Offset.le_trans ha.ordered hab)
  rw [ha.shownAt_eq, hb.shownAt_eq]
  exact Offset.ofInt_le_ofInt (by omega)

end Span.IsWhole

/-! ## Posts -/

/-- The post has a text, each of its lists is in order, and its entities lie in the text and cut no
reference in two. -/
structure Post.WellFormed (p : Post) : Prop where
  text : p.rawText ≠ ""
  links : p.staged.links.Pairwise fun a b => a.span.start ≤ b.span.start
  media : p.staged.media.Pairwise fun a b => a.span.start ≤ b.span.start
  whole : ∀ e ∈ p.staged.links ++ p.staged.media, e.span.IsWhole p.rawText.toList

instance (p : Post) : Decidable p.WellFormed :=
  decidable_of_iff
    (p.rawText ≠ "" ∧ (p.staged.links.Pairwise fun a b => a.span.start ≤ b.span.start) ∧
      (p.staged.media.Pairwise fun a b => a.span.start ≤ b.span.start) ∧
      ∀ e ∈ p.staged.links ++ p.staged.media, e.span.IsWhole p.rawText.toList)
    ⟨fun ⟨h₁, h₂, h₃, h₄⟩ => ⟨h₁, h₂, h₃, h₄⟩, fun h => ⟨h.1, h.2, h.3, h.4⟩⟩

/-- Each list of a shown text is in order, and its entities lie in the text. -/
structure Annotated.WellFormed (a : Annotated .display) : Prop where
  links : a.links.Pairwise fun a b => a.span.start ≤ b.span.start
  media : a.media.Pairwise fun a b => a.span.start ≤ b.span.start
  inside : ∀ e ∈ a.links ++ a.media, 0 ≤ e.span.start.toInt ∧ e.span.start ≤ e.span.stop ∧
    e.span.stop.toInt ≤ length a.text.toList

/-- The entity at the place of its stretch in the shown text. -/
def Entity.showAt (raw : List Char) (e : Entity .raw) : Entity .display :=
  e.place (e.span.shownAt raw)

/-- A list in order stays in order. -/
theorem pairwise_map_showAt {raw : List Char} {es : List (Entity .raw)}
    (hsorted : es.Pairwise fun a b => a.span.start ≤ b.span.start)
    (hwhole : ∀ e ∈ es, e.span.IsWhole raw) :
    (es.map (Entity.showAt raw)).Pairwise fun a b => a.span.start ≤ b.span.start := by
  rw [List.pairwise_map]
  refine hsorted.imp_of_mem fun {a b} ha hb hab => ?_
  exact (hwhole a ha).start_shownAt_le (hwhole b hb) hab

namespace Post.WellFormed

variable {p : Post} (h : p.WellFormed)

include h

theorem annotated_eq :
    p.annotated = ⟨String.ofList (unescape p.rawText.toList).text,
      p.staged.links.map (Entity.showAt p.rawText.toList),
      p.staged.media.map (Entity.showAt p.rawText.toList)⟩ := by
  have hlinks := followText_followCollapses p.rawText.toList h.links
  have hmedia := followText_followCollapses p.rawText.toList h.media
  rw [p.annotated_eq_of_rawText_ne h.text]
  exact (congrArg (Annotated.mk _ · _) hlinks).trans (congrArg (Annotated.mk _ _) hmedia)

/-- The entities of a well-formed post are moved, one by one, to places in the shown text: in the
text, in the order of their lists, and behind what they stood behind. -/
theorem wellFormed_annotated :
    p.annotated.WellFormed ∧
      ∃ move : Span .raw → Span .display,
        p.annotated.links = p.staged.links.map (fun e => e.place (move e.span)) ∧
        p.annotated.media = p.staged.media.map (fun e => e.place (move e.span)) ∧
        ∀ a ∈ p.staged.links ++ p.staged.media, ∀ b ∈ p.staged.links ++ p.staged.media,
          a.span.stop ≤ b.span.start → (move a.span).stop ≤ (move b.span).start := by
  have hannotated := h.annotated_eq
  have hlinks (e) (he : e ∈ p.staged.links) := h.whole e (List.mem_append_left _ he)
  have hmedia (e) (he : e ∈ p.staged.media) := h.whole e (List.mem_append_right _ he)
  refine ⟨⟨?_, ?_, ?_⟩, Span.shownAt p.rawText.toList, ?_, ?_, ?_⟩
  · rw [hannotated]
    exact pairwise_map_showAt h.links hlinks
  · rw [hannotated]
    exact pairwise_map_showAt h.media hmedia
  · intro e he
    rw [hannotated, ← List.map_append] at he
    obtain ⟨staged, hstaged, rfl⟩ := List.mem_map.1 he
    rw [hannotated, String.toList_ofList]
    exact (h.whole staged hstaged).shownAt_inside
  · rw [hannotated]
    rfl
  · rw [hannotated]
    rfl
  · intro a ha b hb hab
    exact (h.whole a ha).stop_shownAt_le (h.whole b hb) hab

end Post.WellFormed

/-- A post in which an entity begins with an emoji, another one contains one, and two are empty. -/
def Post.emojiTagged : Post :=
  ⟨1, some "&lt;😀a &amp; 😀", some ⟨some [⟨"o", none, none, ⟨⟨0⟩, ⟨5⟩⟩⟩,
    ⟨"u", none, none, ⟨⟨4⟩, ⟨6⟩⟩⟩, ⟨"v", none, none, ⟨⟨14⟩, ⟨14⟩⟩⟩],
    some [⟨"p", none, none, ⟨⟨6⟩, ⟨14⟩⟩, 7, none, some "photo"⟩,
      ⟨"q", none, none, ⟨⟨13⟩, ⟨13⟩⟩, 8, none, none⟩], none, none⟩, none, none⟩

theorem Post.wellFormed_emojiTagged :
    emojiTagged.WellFormed ∧ emojiTagged.annotated.WellFormed ∧
      emojiTagged.annotated.links.map (fun e => (e.span.start.toInt, e.span.stop.toInt)) =
        [(0, 2), (2, 4), (9, 9)] ∧
      emojiTagged.annotated.media.map (fun e => (e.span.start.toInt, e.span.stop.toInt)) =
        [(4, 8), (8, 8)] := by
  have h : emojiTagged.WellFormed := by decide +kernel
  exact ⟨h, h.wellFormed_annotated.1, by decide +kernel, by decide +kernel⟩

end Newsfeed
