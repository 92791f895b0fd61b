import Mathlib.Data.List.Nodup
import Newsfeed.Proofs.Annotated.Placing
import Newsfeed.Proofs.Hypertext.Splicing

/-!
# Rendering a post from its raw text

`Post.rendering` reads the hypertext of a post off the raw text alone: it walks the entities of
both lists in ascending order, unescapes what stands between them, and shows each as its display
form or as what it covers.  No offset is moved and nothing is spliced.  Where the entities of a
post lie apart and cut nothing in two, this is what unescaping, reconciling and splicing lead to
(`hypertext_annotated`).
-/

namespace Newsfeed

open Text

/-- All entities of a post, in ascending order of their start. -/
def Post.inOrder (p : Post) : List (Entity .raw) :=
  (p.staged.media ++ p.staged.links).mergeSort fun a b => a.span.start ≤ b.span.start

/-- The photo that is cut out of the text of a post, if one is. -/
def Post.strippedPhoto? (p : Post) (style : LinkStyle) : Option (Entity .raw) :=
  if style.stripPhoto then p.staged.lastPhoto? else none

/-- What is put in place of an entity of the raw text. -/
def Entity.rawPatch (stripped : Option (Entity .raw)) (raw : List Char) (e : Entity .raw) :
    Patch Char where
  start := e.span.start.count
  stop := e.span.stop.count
  content := if stripped = some e then [] else e.form?.getD (e.span.shownText raw)
  url := if stripped = some e then none else some e.url

/-- The stretches of the shown text of a post. -/
def Post.stretches (p : Post) (style : LinkStyle) : List (Stretch Char) :=
  let raw := p.rawText.toList
  patchwork (fun i j => (unescape (cut raw i j)).text) raw.length 0
    (p.inOrder.map (Entity.rawPatch (p.strippedPhoto? style) raw))

/-- The hypertext of a post, from its raw text. -/
def Post.rendering (p : Post) (style : LinkStyle) : Hypertext :=
  let ss := p.stretches style
  let text := trimEnd (Stretch.contents ss)
  ⟨String.ofList text, Stretch.anchorsUpTo (length text) length style 0 ss⟩

/-- The post has a text, each of its lists is in order, and its entities lie apart in the text, cut
nothing in two and cover no supplementary character. -/
structure Post.WellPlaced (p : Post) : Prop where
  text : p.rawText ≠ ""
  links : p.staged.links.Pairwise fun a b => a.span.start ≤ b.span.start
  media : p.staged.media.Pairwise fun a b => a.span.start ≤ b.span.start
  whole : ∀ e ∈ p.staged.media ++ p.staged.links, e.span.IsWhole p.rawText.toList
  nonempty : ∀ e ∈ p.staged.media ++ p.staged.links, e.span.start < e.span.stop
  apart : (p.staged.media ++ p.staged.links).Pairwise fun a b =>
    a.span.stop ≤ b.span.start ∨ b.span.stop ≤ a.span.start
  plain : ∀ e ∈ p.staged.media ++ p.staged.links,
    ∀ c ∈ e.span.shownText p.rawText.toList, width c = 1
  /-- The text and the display forms are read from one document in memory, so no place in what is
  made of them lies beyond the greatest word. -/
  fits : (length p.rawText.toList +
    length ((p.staged.media ++ p.staged.links).flatMap Entity.form) : Nat) < Word.greatest

instance (p : Post) : Decidable p.WellPlaced :=
  let all := p.staged.media ++ p.staged.links
  let raw := p.rawText.toList
  decidable_of_iff
    (p.rawText ≠ "" ∧ (p.staged.links.Pairwise fun a b => a.span.start ≤ b.span.start) ∧
      (p.staged.media.Pairwise fun a b => a.span.start ≤ b.span.start) ∧
      (∀ e ∈ all, e.span.IsWhole raw) ∧ (∀ e ∈ all, e.span.start < e.span.stop) ∧
      (all.Pairwise fun a b => a.span.stop ≤ b.span.start ∨ b.span.stop ≤ a.span.start) ∧
      (∀ e ∈ all, (e.span.shownText raw).all fun c => width c = 1) ∧
      (length raw + length (all.flatMap Entity.form) : Nat) < Word.greatest)
    ⟨fun ⟨h₁, h₂, h₃, h₄, h₅, h₆, h₇, h₈⟩ =>
        ⟨h₁, h₂, h₃, h₄, h₅, h₆, fun e he => by simpa using h₇ e he, h₈⟩,
      fun h => ⟨h.1, h.2, h.3, h.4, h.5, h.6, fun e he => by simpa using h.7 e he, h.8⟩⟩

/-! ## Patches in units -/

/-- The patch of the shown text that a patch of the raw text is. -/
def Patch.inUnits (raw : List Char) (p : Patch Char) : Patch UInt16 :=
  ⟨unitsBefore raw p.start, unitsBefore raw p.stop, encode p.content, p.url⟩

/-- A patchwork of the raw text, read in units, is one of the shown text. -/
theorem map_patchwork {raw : List Char} {k : Nat} (hk : IsCut raw k) {ps : List (Patch Char)}
    (hcuts : ∀ p ∈ ps, IsCut raw p.start ∧ IsCut raw p.stop ∧ p.start ≤ p.stop)
    (hfirst : ∀ p ∈ ps, k ≤ p.start) (hchain : ps.Pairwise fun p q => p.stop ≤ q.start) :
    (patchwork (fun i j => (unescape (cut raw i j)).text) raw.length k ps).map
        (Stretch.map encode) =
      patchwork (cut (encode (unescape raw).text)) (length (unescape raw).text) (unitsBefore raw k)
        (ps.map (Patch.inUnits raw)) := by
  induction ps generalizing k with
  | nil =>
    have hrest := cut_encode hk (isCut_length raw) hk.le_length
    rw [unitsBefore_length] at hrest
    simp [patchwork, Stretch.map, hrest]
  | cons p ps ih =>
    obtain ⟨⟨hstart, hstop, hle⟩, hcuts⟩ := List.forall_mem_cons.1 hcuts
    obtain ⟨hnext, hchain⟩ := List.pairwise_cons.1 hchain
    have hgap := cut_encode hk hstart (hfirst p List.mem_cons_self)
    simp [patchwork, Stretch.map, ih hstop hcuts hnext hchain, Patch.inUnits, hgap]

namespace Post.WellPlaced

variable {p : Post} (h : p.WellPlaced)

include h

/-! ## The entities in order -/

omit h in
theorem perm_inOrder : p.inOrder.Perm (p.staged.media ++ p.staged.links) := List.mergeSort_perm _ _

omit h in
theorem mem_of_mem_inOrder {e : Entity .raw} (he : e ∈ p.inOrder) :
    e ∈ p.staged.media ++ p.staged.links := perm_inOrder.mem_iff.1 he

omit h in
theorem sorted_inOrder : p.inOrder.Pairwise fun a b => a.span.start ≤ b.span.start :=
  Entity.pairwise_mergeSort_start _

theorem chain_inOrder : p.inOrder.Pairwise fun a b => a.span.stop ≤ b.span.start := by
  have hapart : p.inOrder.Pairwise fun a b =>
      a.span.stop ≤ b.span.start ∨ b.span.stop ≤ a.span.start :=
    perm_inOrder.symm.pairwise h.apart fun hab => hab.symm
  refine (sorted_inOrder.and hapart).imp_of_mem fun {a b} _ hb ⟨hle, hor⟩ => ?_
  rcases hor with hor | hor
  · exact hor
  · -- `b` would have to end before it starts
    have hlt := h.nonempty b (mem_of_mem_inOrder hb)
    rw [Offset.le_iff_toInt_le] at hle hor ⊢
    rw [Offset.lt_iff_toInt_lt] at hlt
    omega

theorem eq_of_start_eq {a b : Entity .raw} (ha : a ∈ p.staged.media ++ p.staged.links)
    (hb : b ∈ p.staged.media ++ p.staged.links) (hab : a.span.start = b.span.start) : a = b := by
  have hnodup : ((p.staged.media ++ p.staged.links).map (·.span.start)).Nodup := by
    refine List.pairwise_map.2 (h.apart.imp_of_mem fun {a b} ha hb hor he => ?_)
    have hlta := Offset.lt_iff_toInt_lt.1 (h.nonempty a ha)
    have hltb := Offset.lt_iff_toInt_lt.1 (h.nonempty b hb)
    rw [Offset.le_iff_toInt_le, Offset.le_iff_toInt_le] at hor
    rw [he] at hor hlta
    omega
  exact List.inj_on_of_nodup_map hnodup ha hb hab

/-! ## The shown text -/

theorem annotated_eq :
    p.annotated = ⟨String.ofList (unescape p.rawText.toList).text,
      p.staged.links.map (Entity.relocate p.rawText.toList),
      p.staged.media.map (Entity.relocate p.rawText.toList)⟩ := by
  have hlinks := followText_eq_relocate h.links
    (fun e he => h.whole e (List.mem_append_right _ he))
    (fun e he => h.nonempty e (List.mem_append_right _ he))
    (fun e he => h.plain e (List.mem_append_right _ he))
  have hmedia := followText_eq_relocate h.media
    (fun e he => h.whole e (List.mem_append_left _ he))
    (fun e he => h.nonempty e (List.mem_append_left _ he))
    (fun e he => h.plain e (List.mem_append_left _ he))
  rw [annotated_eq_of_rawText_ne h.text]
  exact congrArg₂ (Annotated.mk _) hlinks hmedia

theorem length_text_lt : (length (unescape p.rawText.toList).text : Int) < Word.greatest := by
  have hle := length_unescape_text_le p.rawText.toList
  have := h.fits
  omega

theorem toInt_start_relocate {e : Entity .raw} (he : e ∈ p.staged.media ++ p.staged.links) :
    (e.relocate p.rawText.toList).span.start.toInt =
      unitsBefore p.rawText.toList e.span.start.count := by
  have hle := unitsBefore_le_length (h.whole e he).isCut_start
  have := h.length_text_lt
  exact Offset.toInt_ofInt_of_le (by omega)

theorem toInt_stop_relocate {e : Entity .raw} (he : e ∈ p.staged.media ++ p.staged.links) :
    (e.relocate p.rawText.toList).span.stop.toInt =
      unitsBefore p.rawText.toList e.span.stop.count := by
  have hle := unitsBefore_le_length (h.whole e he).isCut_stop
  have := h.length_text_lt
  exact Offset.toInt_ofInt_of_le (by omega)

theorem inside_relocate {e : Entity .raw} (he : e ∈ p.staged.media ++ p.staged.links) :
    (e.relocate p.rawText.toList).span.Inside (length (unescape p.rawText.toList).text) := by
  have hwhole := h.whole e he
  have hle := (unitsBefore_le_iff hwhole.isCut_start hwhole.isCut_stop).2 hwhole.count_le_count
  have hstop := unitsBefore_le_length hwhole.isCut_stop
  rw [Span.Inside, h.toInt_start_relocate he, h.toInt_stop_relocate he]
  omega

theorem start_relocate_le_iff {a b : Entity .raw} (ha : a ∈ p.staged.media ++ p.staged.links)
    (hb : b ∈ p.staged.media ++ p.staged.links) :
    (a.relocate p.rawText.toList).span.start ≤ (b.relocate p.rawText.toList).span.start ↔
      a.span.start ≤ b.span.start := by
  have hcuts := unitsBefore_le_iff (h.whole a ha).isCut_start (h.whole b hb).isCut_start
  have hcount := Offset.count_eq (h.whole a ha).nonneg
  have hcount' := Offset.count_eq (h.whole b hb).nonneg
  rw [Offset.le_iff_toInt_le, Offset.le_iff_toInt_le, h.toInt_start_relocate ha,
    h.toInt_start_relocate hb]
  omega

theorem mergeEntities_annotated :
    mergeEntities p.annotated.links p.annotated.media =
      p.inOrder.map (Entity.relocate p.rawText.toList) := by
  rw [h.annotated_eq, mergeEntities, ← List.map_append, inOrder]
  refine (List.map_mergeSort fun a ha b hb => ?_).symm
  simpa using (h.start_relocate_le_iff ha hb).symm

/-! ## The photo that is cut out -/

theorem lastPhoto?_annotated :
    p.annotated.lastPhoto? = p.staged.lastPhoto?.map (Entity.relocate p.rawText.toList) := by
  rw [h.annotated_eq, Annotated.lastPhoto?, Annotated.lastPhoto?]
  dsimp only
  rw [← List.map_reverse, List.find?_map]
  rfl

theorem isStripped_relocate {e : Entity .raw} (he : e ∈ p.staged.media ++ p.staged.links)
    (style : LinkStyle) :
    (e.relocate p.rawText.toList).isStripped (p.annotated.strippedStart? style) =
      decide (p.strippedPhoto? style = some e) := by
  unfold Entity.isStripped Annotated.strippedStart? Post.strippedPhoto?
  cases style.stripPhoto with
  | false => simp
  | true =>
    rw [if_pos rfl, if_pos rfl, h.lastPhoto?_annotated]
    cases hphoto : p.staged.lastPhoto? with
    | none => simp
    | some photo =>
      have hmem : photo ∈ p.staged.media ++ p.staged.links :=
        List.mem_append_left _ (List.mem_reverse.1 (List.mem_of_find?_eq_some hphoto))
      have hkind : photo.isPhoto = true := List.find?_some hphoto
      have hstart : (photo.relocate p.rawText.toList).span.start =
          (e.relocate p.rawText.toList).span.start → photo = e := by
        intro hse
        have hle := (h.start_relocate_le_iff hmem he).1 (hse ▸ Int64.le_rfl)
        have hge := (h.start_relocate_le_iff he hmem).1 (hse ▸ Int64.le_rfl)
        exact h.eq_of_start_eq hmem he (Offset.le_antisymm hle hge)
      have hiff : ((e.relocate p.rawText.toList).isPhoto = true ∧
          some (photo.relocate p.rawText.toList).span.start =
            some (e.relocate p.rawText.toList).span.start) ↔ some photo = some e := by
        constructor
        · exact fun hs => congrArg some (hstart (Option.some.inj hs.2))
        · intro hs
          obtain rfl := Option.some.inj hs
          exact ⟨hkind, rfl⟩
      exact decide_eq_decide.2 hiff

theorem patch_relocate {e : Entity .raw} (he : e ∈ p.staged.media ++ p.staged.links)
    (style : LinkStyle) :
    (e.relocate p.rawText.toList).patch (p.annotated.strippedStart? style)
        (encode (unescape p.rawText.toList).text) =
      (e.rawPatch (p.strippedPhoto? style) p.rawText.toList).inUnits p.rawText.toList := by
  have hstart : (e.relocate p.rawText.toList).span.start.count =
      unitsBefore p.rawText.toList e.span.start.count := by
    rw [Offset.count, h.toInt_start_relocate he, Int.toNat_natCast]
  have hstop : (e.relocate p.rawText.toList).span.stop.count =
      unitsBefore p.rawText.toList e.span.stop.count := by
    rw [Offset.count, h.toInt_stop_relocate he, Int.toNat_natCast]
  have hwhole := h.whole e he
  have hcut := cut_encode hwhole.isCut_start hwhole.isCut_stop hwhole.count_le_count
  have hstripped := h.isStripped_relocate he style
  have hform : (e.relocate p.rawText.toList).form? = e.form? := rfl
  unfold Entity.patch Entity.rawPatch Patch.inUnits
  rw [hstart, hstop, hcut, hform, hstripped]
  by_cases hs : p.strippedPhoto? style = some e
  · simp [hs]
  · cases hf : e.form? <;> simp [hs, Span.shownText, Entity.relocate, Entity.place]

/-- The stretches of the shown text, in units, are those of the raw text. -/
theorem map_encode_stretches (style : LinkStyle) :
    (p.stretches style).map (Stretch.map encode) =
      patchwork (cut (encode (unescape p.rawText.toList).text))
        (length (unescape p.rawText.toList).text) 0
        ((p.inOrder.map (Entity.relocate p.rawText.toList)).map
          (Entity.patch (p.annotated.strippedStart? style)
            (encode (unescape p.rawText.toList).text))) := by
  have hpatches : (p.inOrder.map (Entity.relocate p.rawText.toList)).map
      (Entity.patch (p.annotated.strippedStart? style) (encode (unescape p.rawText.toList).text)) =
        (p.inOrder.map (Entity.rawPatch (p.strippedPhoto? style) p.rawText.toList)).map
          (Patch.inUnits p.rawText.toList) := by
    rw [List.map_map, List.map_map]
    exact List.map_congr_left fun e he => h.patch_relocate (mem_of_mem_inOrder he) style
  have hchain : (p.inOrder.map (Entity.rawPatch (p.strippedPhoto? style) p.rawText.toList)).Pairwise
      fun a b => a.stop ≤ b.start := by
    refine List.pairwise_map.2 (h.chain_inOrder.imp fun {a b} hab => ?_)
    have := Offset.le_iff_toInt_le.1 hab
    simp only [Entity.rawPatch, Offset.count]
    omega
  rw [hpatches, stretches, map_patchwork (isCut_zero _) ?_ (fun _ _ => Nat.zero_le _) hchain,
    unitsBefore_zero]
  · intro q hq
    obtain ⟨e, he, rfl⟩ := List.mem_map.1 hq
    have hwhole := h.whole e (mem_of_mem_inOrder he)
    exact ⟨hwhole.isCut_start, hwhole.isCut_stop, hwhole.count_le_count⟩

/-! ## The entities in the shown text -/

theorem filter_inside_relocate :
    (p.inOrder.map (Entity.relocate p.rawText.toList)).filter
        (fun e => e.span.Inside (length (unescape p.rawText.toList).text)) =
      p.inOrder.map (Entity.relocate p.rawText.toList) := by
  refine List.filter_eq_self.2 fun f hf => ?_
  obtain ⟨e, he, rfl⟩ := List.mem_map.1 hf
  exact decide_eq_true (h.inside_relocate (mem_of_mem_inOrder he))

theorem sorted_relocate :
    (p.inOrder.map (Entity.relocate p.rawText.toList)).Pairwise fun a b =>
      a.span.start ≤ b.span.start := by
  refine List.pairwise_map.2 (sorted_inOrder.imp_of_mem fun ha hb hab => ?_)
  exact (h.start_relocate_le_iff (mem_of_mem_inOrder ha) (mem_of_mem_inOrder hb)).2 hab

theorem chain_relocate :
    (p.inOrder.map (Entity.relocate p.rawText.toList)).Pairwise fun a b =>
      a.span.stop ≤ b.span.start := by
  refine List.pairwise_map.2 (h.chain_inOrder.imp_of_mem fun {a b} ha hb hab => ?_)
  have ha := mem_of_mem_inOrder ha
  have hb := mem_of_mem_inOrder hb
  have hcuts := unitsBefore_le_iff (h.whole a ha).isCut_stop (h.whole b hb).isCut_start
  have hle := Offset.le_iff_toInt_le.1 hab
  rw [Offset.le_iff_toInt_le, h.toInt_stop_relocate ha, h.toInt_start_relocate hb]
  refine Int.ofNat_le.2 (hcuts.2 ?_)
  simp only [Offset.count]
  omega

theorem unescape_rawText_ne_nil : (unescape p.rawText.toList).text ≠ [] := by
  have hraw : 0 < p.rawText.toList.length := by
    refine List.length_pos_iff.2 fun hnil => h.text ?_
    exact String.toList_eq_nil_iff.1 hnil
  have hne := unescape_cut_ne_nil (isCut_zero _) (isCut_length _) hraw
  rwa [cut, List.drop_zero, Nat.sub_zero, List.take_length] at hne

/-- What is edited fits as the text and the display forms do. -/
theorem fits_relocate :
    (length (unescape p.rawText.toList).text +
      length ((p.inOrder.map (Entity.relocate p.rawText.toList)).flatMap Entity.form) : Nat) <
        Word.greatest := by
  have hforms : length ((p.inOrder.map (Entity.relocate p.rawText.toList)).flatMap Entity.form) =
      length ((p.staged.media ++ p.staged.links).flatMap Entity.form) := by
    rw [List.flatMap_map]
    exact length_perm (perm_inOrder.flatMap_right Entity.form)
  have hfit := h.fits
  have hle := length_unescape_text_le p.rawText.toList
  omega

end Post.WellPlaced

/-- The hypertext that unescaping, reconciling and splicing make of a post is its rendering. -/
theorem Post.hypertext_annotated {p : Post} (h : p.WellPlaced) (style : LinkStyle) :
    p.annotated.hypertext style = p.rendering style := by
  have htext : p.annotated.text.toList = (unescape p.rawText.toList).text := by
    rw [h.annotated_eq, String.toList_ofList]
  have hnonempty : ¬ p.annotated.text.isEmpty = true := by
    rw [String.isEmpty_iff, ← String.toList_eq_nil_iff, htext]
    exact h.unescape_rawText_ne_nil
  have hfinish := Splice.finish_foldl_add style (p.annotated.strippedStart? style)
    (unescape p.rawText.toList).text h.sorted_relocate
    (by rw [h.filter_inside_relocate]; exact h.chain_relocate) h.fits_relocate
  rw [h.filter_inside_relocate, ← h.map_encode_stretches style] at hfinish
  rw [Annotated.hypertext, if_neg hnonempty, h.mergeEntities_annotated, htext, hfinish,
    Post.rendering]
  dsimp only
  rw [Stretch.contents_map encode rfl encode_append, decode_encode,
    Stretch.anchorsUpTo_map encode _ length_encode]

/-- A post with a link behind an emoji, references around it and a photo at the end of its text. -/
def Post.photographed : Post :=
  ⟨1, some "&lt;😀 ab &amp; cd", some ⟨some [⟨"u", none, some "link", ⟨⟨6⟩, ⟨8⟩⟩⟩],
    some [⟨"p", none, none, ⟨⟨15⟩, ⟨17⟩⟩, 7, none, some "photo"⟩], none, none⟩, none, none⟩

theorem Post.hypertext_photographed :
    photographed.WellPlaced ∧ photographed.annotated.hypertext ⟨true, 5, true⟩ =
      ⟨"<😀 link &", [⟨⟨⟨4⟩, ⟨8⟩⟩, "u", 5, true⟩]⟩ := by
  have hplaced : photographed.WellPlaced := by decide +kernel
  have hentities : photographed.staged.media ++ photographed.staged.links =
      [⟨⟨⟨15⟩, ⟨17⟩⟩, "p", none, none, .media 7 (some "photo") none⟩,
        ⟨⟨⟨6⟩, ⟨8⟩⟩, "u", some "link", none, .url⟩] := by decide +kernel
  have horder : photographed.inOrder =
      [⟨⟨⟨6⟩, ⟨8⟩⟩, "u", some "link", none, .url⟩,
        ⟨⟨⟨15⟩, ⟨17⟩⟩, "p", none, none, .media 7 (some "photo") none⟩] := by
    rw [inOrder, hentities]
    simp +decide [List.mergeSort]
  have hrendering : photographed.rendering ⟨true, 5, true⟩ =
      ⟨"<😀 link &", [⟨⟨⟨4⟩, ⟨8⟩⟩, "u", 5, true⟩]⟩ := by
    rw [rendering, stretches, horder]
    decide +kernel
  exact ⟨hplaced, (Post.hypertext_annotated hplaced _).trans hrendering⟩

end Newsfeed
