import Newsfeed.Proofs.Offset
import Newsfeed.Proofs.Text.Occurrences

/-!
# Texts put together

Two raw texts that are put together are unescaped each on its own unless a reference stands astride
the seam, with its ampersand in the first text and its semicolon in the second
(`unescape_append_of_not_astride`).  The characters at the seam often rule this out: a first text
that ends in a semicolon or a blank leaves no reference open, and a second text that begins with an
ampersand or a blank closes none.
-/

namespace Newsfeed

/-- The same reference in a text that has `n` more characters in front. -/
def Collapse.shift (e : Collapse) (n : Nat) : Collapse := ⟨e.first.shift n, e.last.shift n⟩

namespace Text

variable {raw a b : List Char}

/-! ## References astride a place -/

@[simp]
theorem occurrencesFrom_append (n : Nat) (ps qs : List Piece) :
    occurrencesFrom n (ps ++ qs) = occurrencesFrom n ps ++ occurrencesFrom (n + sizes ps) qs := by
  induction ps generalizing n with
  | nil => rfl
  | cons p ps ih =>
    cases p <;> simp [occurrencesFrom, ih, Piece.size, Nat.add_assoc]

/-- A reference with its ampersand before a place and its semicolon there or behind. -/
def Occurrence.IsAstride (r : Occurrence) (p : Nat) : Prop := r.first < p ∧ p ≤ r.last

/-- A raw text may be cut wherever no reference stands astride. -/
theorem isCut_of_not_astride {p : Nat} (hp : p ≤ raw.length)
    (h : ∀ r : Occurrence, r.IsIn raw → ¬ r.IsAstride p) : IsCut raw p := by
  rw [← sizes_pieces raw] at hp
  obtain ⟨ps, qs, hpieces, hps | ⟨c, size, qs', rfl, hlt, hinside⟩⟩ := exists_append_or_inside hp
  · exact ⟨ps, qs, hpieces, hps⟩
  · have hmem : (⟨sizes ps, sizes ps + size - 1, c⟩ : Occurrence) ∈
        occurrencesFrom 0 (pieces raw) := by
      rw [hpieces, occurrencesFrom_append, Nat.zero_add]
      exact List.mem_append_right _ List.mem_cons_self
    have hin := ((mem_occurrencesFrom_iff raw 0 _).1 hmem).1
    exact absurd ⟨hlt, Nat.le_sub_one_of_lt hinside⟩ (h _ hin)

/-! ## Parts of a text -/

theorem IsCut.pieces_append (h : IsCut (a ++ b) a.length) :
    pieces (a ++ b) = pieces a ++ pieces b := by
  obtain ⟨ps, qs, hpieces, hps⟩ := h
  have ha := pieces_take hpieces
  have hb := pieces_drop hpieces
  rw [hps, List.take_left] at ha
  rw [hps, List.drop_left] at hb
  rw [hpieces, ha, hb]

/-- What collapses in a text collapses further right where there is more text in front. -/
theorem collapsesFrom_add (m n : Nat) (ps : List Piece) :
    collapsesFrom (m + n) ps = (collapsesFrom m ps).map fun e => e.shift n := by
  induction ps generalizing m with
  | nil => rfl
  | cons p ps ih =>
    cases p with
    | char c =>
      rw [collapsesFrom, collapsesFrom, Nat.add_right_comm, ih]
    | reference c size =>
      have hfirst : (.ofInt (m + n : Nat) : Offset .raw) = (.ofInt m : Offset .raw).shift n := by
        rw [Offset.shift_ofInt (by simp only [Word.least]; omega)]
        rfl
      have hlast : (.ofInt ((m + n : Nat) + size - 1) : Offset .raw) =
          (.ofInt (m + size - 1) : Offset .raw).shift n := by
        rw [Offset.shift_ofInt (by simp only [Word.least]; omega)]
        exact congrArg Offset.ofInt (by omega)
      rw [collapsesFrom, collapsesFrom, Nat.add_right_comm, ih, hfirst, hlast]
      rfl

/-- Two texts put together are unescaped each on its own if no reference stands astride the seam. -/
theorem unescape_append_of_not_astride
    (h : ∀ r : Occurrence, r.IsIn (a ++ b) → ¬ r.IsAstride a.length) :
    unescape (a ++ b) = ⟨(unescape a).text ++ (unescape b).text,
      (unescape a).collapses ++ (unescape b).collapses.map fun e => e.shift a.length⟩ := by
  have hcut : IsCut (a ++ b) a.length := isCut_of_not_astride (by simp) h
  have hright := collapsesFrom_add 0 a.length (pieces b)
  simp only [unescape, hcut.pieces_append, List.map_append, collapsesFrom_append, sizes_pieces,
    hright]

/-! ## Seams -/

/-- The text is empty, or it ends in a semicolon or a blank. -/
def EndsClosed (cs : List Char) : Prop := ∀ c ∈ cs.getLast?, c = ';' ∨ isBlank c = true

instance (cs : List Char) : Decidable (EndsClosed cs) := Option.decidableForallMem cs.getLast?

/-- The text is empty, or it begins with an ampersand or a blank. -/
def BeginsAfresh (cs : List Char) : Prop := ∀ c ∈ cs.head?, c = '&' ∨ isBlank c = true

instance (cs : List Char) : Decidable (BeginsAfresh cs) := Option.decidableForallMem cs.head?

/-- No reference goes on behind a semicolon or a blank. -/
theorem EndsClosed.not_astride (ha : EndsClosed a) {r : Occurrence} (hr : r.IsIn (a ++ b)) :
    ¬ r.IsAstride a.length := by
  rintro ⟨hfirst, hlast⟩
  obtain ⟨c, hc⟩ : ∃ c, a[a.length - 1]? = some c := ⟨_, List.getElem?_eq_getElem (by omega)⟩
  have hend := ha c (List.getLast?_eq_getElem?.trans hc)
  have hseam : (a ++ b)[a.length - 1]? = some c := by
    rw [List.getElem?_append_left (by omega), hc]
  rcases Nat.lt_or_eq_of_le (Nat.le_sub_one_of_lt hfirst) with hlt | heq
  · obtain ⟨-, hsemi, hblank⟩ := hr.plain hseam hlt (by omega)
    simp [hsemi, hblank] at hend
  · -- the reference would begin with the last character
    have hamp := hr.ampersand
    rw [heq, hseam] at hamp
    obtain rfl := Option.some.inj hamp
    exact absurd hend (by decide)

/-- No reference goes on at an ampersand or a blank. -/
theorem BeginsAfresh.not_astride (hb : BeginsAfresh b) {r : Occurrence} (hr : r.IsIn (a ++ b)) :
    ¬ r.IsAstride a.length := by
  rintro ⟨hfirst, hlast⟩
  have hlength := hr.last_lt_length
  obtain ⟨c, hseam⟩ : ∃ c, (a ++ b)[a.length]? = some c := ⟨_, List.getElem?_eq_getElem (by omega)⟩
  have hhead : b.head? = some c := by
    rw [← hseam, List.getElem?_append_right (Nat.le_refl _), Nat.sub_self, List.head?_eq_getElem?]
  have hbegin := hb c hhead
  rcases Nat.lt_or_eq_of_le hlast with hlt | heq
  · obtain ⟨hamp, -, hblank⟩ := hr.plain hseam hfirst hlt
    simp [hamp, hblank] at hbegin
  · -- the reference would end with the first character
    have hsemi := hr.semicolon
    rw [← heq, hseam] at hsemi
    obtain rfl := Option.some.inj hsemi
    exact absurd hbegin (by decide)

/-- Two texts put together are unescaped each on its own if the first one is empty or ends in a
semicolon or a blank, or the second one is empty or begins with an ampersand or a blank; what
collapses in the second one collapses behind the characters of the first. -/
theorem unescape_append (h : EndsClosed a ∨ BeginsAfresh b) :
    unescape (a ++ b) = ⟨(unescape a).text ++ (unescape b).text,
      (unescape a).collapses ++ (unescape b).collapses.map fun e => e.shift a.length⟩ := by
  refine unescape_append_of_not_astride fun r hr => ?_
  rcases h with ha | hb
  · exact ha.not_astride hr
  · exact hb.not_astride hr

/-- A candidate that no name fits is closed by its own semicolon, and one that is left open is
broken off by the next ampersand. -/
theorem unescape_append_candidates :
    (EndsClosed "&lt;&no;".toList ∧
      unescape ("&lt;&no;".toList ++ "amp;&gt;".toList) =
        ⟨"<&no;amp;>".toList, [⟨⟨0⟩, ⟨3⟩⟩, ⟨⟨12⟩, ⟨15⟩⟩]⟩) ∧
    (BeginsAfresh "&amp;p;".toList ∧
      unescape ("&am".toList ++ "&amp;p;".toList) = ⟨"&am&p;".toList, [⟨⟨3⟩, ⟨7⟩⟩]⟩) := by
  have hclosed : EndsClosed "&lt;&no;".toList := by decide
  have hafresh : BeginsAfresh "&amp;p;".toList := by decide
  refine ⟨⟨hclosed, (unescape_append (.inl hclosed)).trans ?_⟩, hafresh,
    (unescape_append (.inr hafresh)).trans ?_⟩
  · decide +kernel
  · decide +kernel

/-- Without either, a reference may be made at the seam. -/
example : unescape ("&am".toList ++ "p;".toList) = ⟨['&'], [⟨⟨0⟩, ⟨4⟩⟩]⟩ := by
  cbv

end Text

end Newsfeed
