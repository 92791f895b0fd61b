import Newsfeed.Hypertext
import Newsfeed.Proofs.Offset

/-!
# Patchworks

A patchwork is an edited text as a list of stretches: what is kept of the text and the patches
that are put in place of stretches of it.  It says what hypertext is without editing anything,
since the anchors lie where the stretches happen to come to stand.
-/

namespace Newsfeed

/-- What is put in place of a stretch of a text, with the address of the anchor over it, if one is
laid. -/
structure Patch (β : Type) where
  start : Nat
  stop : Nat
  content : List β
  url : Option String

/-- A stretch of an edited text, with the address of the anchor over it, if one is laid. -/
structure Stretch (β : Type) where
  content : List β
  url : Option String

namespace Stretch

variable {β γ : Type}

/-- What stretches contain, one after the other. -/
def contents (ss : List (Stretch β)) : List β := ss.flatMap content

/-- The anchors over stretches of which the first begins at place `n`. -/
def anchorsFrom (style : LinkStyle) (n : Nat) : List (Stretch β) → List Anchor
  | [] => []
  | s :: ss =>
    let stop := n + s.content.length
    (s.url.map fun url => ⟨⟨.ofInt n, .ofInt stop⟩, url, style.color, style.clickable⟩).toList ++
      anchorsFrom style stop ss

/-- What is left of the anchors over stretches when only `limit` places are kept. -/
def anchorsUpTo (limit : Nat) (measure : List β → Nat) (style : LinkStyle) (n : Nat) :
    List (Stretch β) → List Anchor
  | [] => []
  | s :: ss =>
    let stop := n + measure s.content
    let anchors := if n < min stop limit then
        (s.url.map fun url =>
          ⟨⟨.ofInt n, .ofInt (min stop limit : Nat)⟩, url, style.color, style.clickable⟩).toList
      else []
    anchors ++ anchorsUpTo limit measure style stop ss

def map (f : List β → List γ) (s : Stretch β) : Stretch γ := ⟨f s.content, s.url⟩

end Stretch

/-- A text from place `k` to place `stop`, of which `between` gives what stands between two
places, with patches in ascending order. -/
def patchwork {β : Type} (between : Nat → Nat → List β) (stop : Nat) :
    Nat → List (Patch β) → List (Stretch β)
  | k, [] => [⟨between k stop, none⟩]
  | k, p :: ps =>
    ⟨between k p.start, none⟩ :: ⟨p.content, p.url⟩ :: patchwork between stop p.stop ps

namespace Stretch

variable {β γ : Type}

@[simp]
theorem contents_nil : contents ([] : List (Stretch β)) = [] := rfl

@[simp]
theorem contents_cons (s : Stretch β) (ss : List (Stretch β)) :
    contents (s :: ss) = s.content ++ contents ss := rfl

theorem contents_map (f : List β → List γ) (hnil : f [] = [])
    (happend : ∀ xs ys, f (xs ++ ys) = f xs ++ f ys) (ss : List (Stretch β)) :
    contents (ss.map (map f)) = f (contents ss) := by
  induction ss with
  | nil => exact hnil.symm
  | cons s ss ih => rw [List.map_cons, contents_cons, ih, contents_cons, happend]; rfl

theorem anchorsUpTo_map (f : List β → List γ) (limit : Nat) {m : List γ → Nat} {m' : List β → Nat}
    (hm : ∀ xs, m (f xs) = m' xs) (style : LinkStyle) (n : Nat) (ss : List (Stretch β)) :
    anchorsUpTo limit m style n (ss.map (map f)) = anchorsUpTo limit m' style n ss := by
  induction ss generalizing n with
  | nil => rfl
  | cons s ss ih => simp [anchorsUpTo, map, hm, ih]

/-- The anchor with what is left of its stretch before a limit. -/
def clip (limit : Nat) (a : Anchor) : Anchor :=
  { a with span.stop := if a.span.stop ≤ .ofInt limit then a.span.stop else .ofInt limit }

theorem clip_mk {limit n stop : Nat} (hlimit : (limit : Int) ≤ Word.greatest)
    (hstop : (stop : Int) ≤ Word.greatest) (url : String) (color : UInt32) (clickable : Bool) :
    clip limit ⟨⟨.ofInt n, .ofInt stop⟩, url, color, clickable⟩ =
      ⟨⟨.ofInt n, .ofInt (min stop limit : Nat)⟩, url, color, clickable⟩ := by
  have hle : (Offset.ofInt stop : Offset .display) ≤ .ofInt limit ↔ stop ≤ limit := by
    rw [Offset.le_iff_toInt_le, Offset.toInt_ofInt_of_le hstop, Offset.toInt_ofInt_of_le hlimit]
    omega
  by_cases h : stop ≤ limit
  · rw [Nat.min_eq_left h, clip, if_pos (hle.2 h)]
  · rw [Nat.min_eq_right (by omega), clip, if_neg fun hlt => h (hle.1 hlt)]

/-- Clipping the anchors over all stretches leaves what is left of them. -/
theorem filter_clip_anchorsFrom {limit n : Nat} (hlimit : (limit : Int) ≤ Word.greatest)
    (style : LinkStyle) {ss : List (Stretch β)}
    (hword : (n + (contents ss).length : Nat) ≤ Word.greatest) :
    ((anchorsFrom style n ss).map (clip limit)).filter (fun a => a.span.start < a.span.stop) =
      anchorsUpTo limit List.length style n ss := by
  induction ss generalizing n with
  | nil => rfl
  | cons s ss ih =>
    rw [contents_cons, List.length_append] at hword
    have hrest := ih (n := n + s.content.length) (by omega)
    cases hurl : s.url with
    | none => simpa [anchorsFrom, anchorsUpTo, hurl] using hrest
    | some url =>
      have hlt :
          (Offset.ofInt n : Offset .display) < .ofInt (min (n + s.content.length) limit : Nat) ↔
            n < min (n + s.content.length) limit := by
        rw [Offset.lt_iff_toInt_lt, Offset.toInt_ofInt_of_le (by omega),
          Offset.toInt_ofInt_of_le (by omega)]
        omega
      have hstop : ((n + s.content.length : Nat) : Int) ≤ Word.greatest := by omega
      simp only [anchorsFrom, anchorsUpTo, hurl, Option.map_some, Option.toList_some,
        List.singleton_append, List.map_cons, clip_mk hlimit hstop, List.filter_cons, hlt, hrest,
        decide_eq_true_eq]
      split <;> rfl

end Stretch

end Newsfeed
