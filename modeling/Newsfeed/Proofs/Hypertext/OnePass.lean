import Newsfeed.Proofs.Hypertext.Splicing

/-!
# Hypertext in one pass

Where the entities that lie in a text follow one another without overlap, its hypertext can be
written down in one pass: what stands between them is kept, each is shown in its place, and the
anchors lie where the shown entities come to stand.  `Annotated.rendering` does so without an edited
text and without a running offset, and never looks at the entities that lie outside the text.
Editing in place comes to the same (`hypertext_eq_rendering`).
-/

namespace Newsfeed

open Text

namespace Annotated

/-- The entities that lie in the text, in the order in which they are shown. -/
def inText (a : Annotated .display) : List (Entity .display) :=
  (mergeEntities a.links a.media).filter fun e => e.span.Inside (length a.text.toList)

/-- The stretches of the shown text: the units between the entities, and what is shown for each. -/
def stretches (a : Annotated .display) (style : LinkStyle) : List (Stretch UInt16) :=
  let units := encode a.text.toList
  patchwork (cut units) units.length 0 (a.inText.map (Entity.patch (a.strippedStart? style) units))

/-- The hypertext of a text, in one pass. -/
def rendering (a : Annotated .display) (style : LinkStyle) : Hypertext :=
  let ss := a.stretches style
  let text := trimEnd (decode (Stretch.contents ss))
  ⟨String.ofList text, Stretch.anchorsUpTo (length text) List.length style 0 ss⟩

/-- The text once all entities have been put in their places. -/
def edited (a : Annotated .display) (style : LinkStyle) : Splice :=
  (mergeEntities a.links a.media).foldl (Splice.add style (a.strippedStart? style))
    (.ofText a.text.toList)

theorem hypertext_eq_finish {a : Annotated .display} (htext : a.text ≠ "") (style : LinkStyle) :
    a.hypertext style = (a.edited style).finish := by
  rw [hypertext, if_neg (by rwa [String.isEmpty_iff])]
  rfl

theorem length_forms_merged (links media : List (Entity .display)) :
    length ((mergeEntities links media).flatMap Entity.form) =
      length ((media ++ links).flatMap Entity.form) :=
  length_perm ((List.mergeSort_perm _ _).flatMap_right Entity.form)

/-- Editing a text in place makes the hypertext that one pass over it makes, if the entities in it
do not overlap.  The text and the display forms are held in memory together, so no place in what is
made of them lies beyond the greatest word. -/
theorem hypertext_eq_rendering {a : Annotated .display} (htext : a.text ≠ "")
    (apart : a.inText.Pairwise fun e f => e.span.stop ≤ f.span.start)
    (hfit : (length a.text.toList + length ((a.media ++ a.links).flatMap Entity.form) : Nat) <
      Word.greatest) (style : LinkStyle) :
    a.hypertext style = a.rendering style := by
  have hsorted : (mergeEntities a.links a.media).Pairwise fun e f => e.span.start ≤ f.span.start :=
    Entity.pairwise_mergeSort_start _
  rw [← length_forms_merged] at hfit
  have hfinish := Splice.finish_foldl_add style (a.strippedStart? style) a.text.toList hsorted apart
    hfit
  rw [hypertext_eq_finish htext, edited, hfinish, rendering, stretches, length_encode]
  rfl

/-- A text with a longer and a shorter display form, a photo that may be cut out and a link without
a display form, among entities that begin too early, end too late or lie in reverse. -/
def untidy : Annotated .display :=
  ⟨"see 😀 t.co/a p.co/b t.co/c ",
    [⟨⟨⟨7⟩, ⟨13⟩⟩, "a", some "example.com", none, .url⟩,
      ⟨⟨⟨21⟩, ⟨27⟩⟩, "c", some "", none, .url⟩,
      ⟨⟨⟨14⟩, ⟨9⟩⟩, "r", some "reverse", none, .url⟩,
      ⟨⟨⟨-1⟩, ⟨3⟩⟩, "n", some "early", none, .url⟩],
    [⟨⟨⟨0⟩, ⟨3⟩⟩, "v", some "👀", none, .media 1 (some "video") none⟩,
      ⟨⟨⟨14⟩, ⟨20⟩⟩, "p", some "photo", none, .media 2 (some "photo") none⟩,
      ⟨⟨⟨5⟩, ⟨0x7FFFFFFFFFFFFFFF⟩⟩, "l", none, none, .media 3 (some "video") none⟩]⟩

theorem hypertext_untidy :
    untidy.hypertext ⟨true, 5, false⟩ =
      ⟨"👀 😀 example.com  t.co/c", [⟨⟨⟨0⟩, ⟨2⟩⟩, "v", 5, false⟩, ⟨⟨⟨6⟩, ⟨17⟩⟩, "a", 5, false⟩,
        ⟨⟨⟨19⟩, ⟨25⟩⟩, "c", 5, false⟩]⟩ := by
  have hmerged : mergeEntities untidy.links untidy.media =
      [untidy.links[3], untidy.media[0], untidy.media[2], untidy.links[0], untidy.media[1],
        untidy.links[2], untidy.links[1]] := by
    simp +decide [mergeEntities, untidy, List.mergeSort]
  have htext : untidy.text ≠ "" := by decide
  have apart : untidy.inText.Pairwise fun e f => e.span.stop ≤ f.span.start := by
    rw [inText, hmerged]
    decide +kernel
  have hfit : (length untidy.text.toList +
      length ((untidy.media ++ untidy.links).flatMap Entity.form) : Nat) < Word.greatest := by
    decide +kernel
  rw [hypertext_eq_rendering htext apart hfit, rendering, stretches, inText, hmerged]
  decide +kernel

end Annotated

end Newsfeed
