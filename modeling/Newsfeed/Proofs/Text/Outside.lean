import Newsfeed.Proofs.Text.Pieces
import Newsfeed.Text.Units

/-!
# Characters outside stretches

`outside` keeps the characters of a text that lie in none of some stretches.  Where these begin and
end between characters (`IsBoundary`), the text can be split at their ends, and each part is kept or
left out as a whole.
-/

namespace Newsfeed.Text

/-! ## Places between characters -/

/-- The place lies between two characters of a text, or at one of its ends. -/
def IsBoundary (cs : List Char) (n : Nat) : Prop := ∃ i ≤ cs.length, length (cs.take i) = n

instance (cs : List Char) (n : Nat) : Decidable (IsBoundary cs n) :=
  inferInstanceAs (Decidable (∃ i ≤ cs.length, length (cs.take i) = n))

theorem length_eq_zero_iff {cs : List Char} : length cs = 0 ↔ cs = [] := by
  cases cs with
  | nil => simp
  | cons c cs =>
    have := width_eq_one_or_two c
    simp only [length_cons, reduceCtorEq, iff_false]
    omega

theorem IsBoundary.exists_eq_append {cs : List Char} {n : Nat} (h : IsBoundary cs n) :
    ∃ as bs, cs = as ++ bs ∧ length as = n := by
  obtain ⟨i, -, hi⟩ := h
  exact ⟨cs.take i, cs.drop i, (List.take_append_drop i cs).symm, hi⟩

/-- A later boundary is reached by going on over some characters. -/
theorem IsBoundary.exists_append {as bs : List Char} {n : Nat} (h : IsBoundary (as ++ bs) n)
    (hle : length as ≤ n) : ∃ cs ds, bs = cs ++ ds ∧ length as + length cs = n := by
  obtain ⟨front, back, hsplit, hn⟩ := h.exists_eq_append
  rcases List.append_eq_append_iff.1 hsplit with ⟨cs, rfl, hbs⟩ | ⟨cs, rfl, -⟩
  · exact ⟨cs, back, hbs, by rw [← length_append, hn]⟩
  · -- the front ends no later than `as`, so nothing stands between them
    rw [length_append] at hle
    have hcs : cs = [] := length_eq_zero_iff.1 (by omega)
    exact ⟨[], bs, rfl, by rw [hcs, List.append_nil, hn]; rfl⟩

theorem drop_encode_append (as bs : List Char) :
    (encode (as ++ bs)).drop (length as) = encode bs := by
  rw [encode_append, ← length_encode, List.drop_left]

theorem cut_encode_append (as bs cs : List Char) :
    cut (encode (as ++ (bs ++ cs))) (length as) (length as + length bs) = encode bs := by
  rw [cut, drop_encode_append, Nat.add_sub_cancel_left, encode_append, ← length_encode,
    List.take_left]

/-! ## Plain characters -/

/-- The characters that lie in none of some stretches, of a text that begins at unit `n`. -/
def outside (spans : List (Span .display)) (n : Nat) : List Char → List Char
  | [] => []
  | c :: cs =>
    if ∃ span ∈ spans, span.start.toInt ≤ n ∧ (n : Int) < span.stop.toInt then
      outside spans (n + width c) cs
    else c :: outside spans (n + width c) cs

variable {spans : List (Span .display)}

theorem outside_append (n : Nat) (as bs : List Char) :
    outside spans n (as ++ bs) = outside spans n as ++ outside spans (n + length as) bs := by
  induction as generalizing n with
  | nil => rfl
  | cons a as ih =>
    rw [List.cons_append, outside, outside, ih, length_cons, Nat.add_assoc]
    split <;> rfl

theorem outside_sublist (n : Nat) (cs : List Char) : (outside spans n cs).Sublist cs := by
  induction cs generalizing n with
  | nil => exact List.Sublist.slnil
  | cons c cs ih =>
    rw [outside]
    split
    · exact (ih _).cons c
    · exact (ih _).cons_cons c

/-- What no stretch meets lies outside. -/
theorem outside_eq_self {n : Nat} {cs : List Char}
    (h : ∀ span ∈ spans, span.stop.toInt ≤ n ∨ (n + length cs : Nat) ≤ span.start.toInt) :
    outside spans n cs = cs := by
  induction cs generalizing n with
  | nil => rfl
  | cons c cs ih =>
    have hwidth := width_eq_one_or_two c
    rw [length_cons] at h
    have hout : ¬ ∃ span ∈ spans, span.start.toInt ≤ n ∧ (n : Int) < span.stop.toInt := by
      rintro ⟨span, hspan, hstart, hstop⟩
      have := h span hspan
      omega
    rw [outside, if_neg hout, ih fun span hspan => ?_]
    have := h span hspan
    omega

/-- Nothing of what a stretch covers lies outside. -/
theorem outside_eq_nil {span : Span .display} (hspan : span ∈ spans) {n : Nat} {cs : List Char}
    (hstart : span.start.toInt ≤ n) (hstop : (n + length cs : Nat) ≤ span.stop.toInt) :
    outside spans n cs = [] := by
  induction cs generalizing n with
  | nil => rfl
  | cons c cs ih =>
    have hwidth := width_eq_one_or_two c
    rw [length_cons] at hstop
    rw [outside, if_pos ⟨span, hspan, hstart, by omega⟩]
    exact ih (by omega) (by omega)

/-- All that stands outside two places lies outside the stretches between them. -/
theorem length_le_outside {i j : Nat} {text : List Char} (hi : IsBoundary text i)
    (hj : IsBoundary text j) (hij : i ≤ j)
    (h : ∀ span ∈ spans, (i : Int) ≤ span.start.toInt ∧ span.stop.toInt ≤ j) :
    length text + i ≤ length (outside spans 0 text) + j := by
  obtain ⟨pre, rest, rfl, hpre⟩ := hi.exists_eq_append
  obtain ⟨mid, post, rfl, hmid⟩ := hj.exists_append (by omega)
  have hbefore : outside spans 0 pre = pre := outside_eq_self fun span hspan => by
    have := h span hspan
    omega
  have hafter : outside spans (0 + length pre + length mid) post = post :=
    outside_eq_self fun span hspan => by
      have := h span hspan
      omega
  rw [outside_append, outside_append, hbefore, hafter]
  simp only [length_append]
  omega

end Newsfeed.Text
