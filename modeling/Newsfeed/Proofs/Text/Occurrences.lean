import Newsfeed.Proofs.Annotated.Placing
import Newsfeed.Proofs.Text.Escaping

/-!
# References where they stand

Whether a reference stands at a place of a raw text can be read from that place alone: an
ampersand, a body without ampersands, semicolons and blanks that is not too long, and a semicolon.
Unescaping scans the text from the left and goes on behind each reference that it reads.  It still
finds every reference (`mem_occurrencesFrom_iff`), because none begins inside another: a body has no
ampersand.  `unescape_eq_substitute` gives the whole account of the unescaped text.
-/

namespace Newsfeed.Text

/-- A reference in a raw text, with the character it stands for. -/
structure Occurrence where
  /-- The place of the ampersand. -/
  first : Nat
  /-- The place of the semicolon. -/
  last : Nat
  char : Char
deriving DecidableEq

namespace Occurrence

/-- The raw text has the reference at its place, whatever stands elsewhere. -/
structure IsIn (r : Occurrence) (raw : List Char) : Prop where
  ampersand : raw[r.first]? = some '&'
  first_lt_last : r.first < r.last
  semicolon : raw[r.last]? = some ';'
  body : IsReference r.char (cut raw (r.first + 1) r.last)

/-- What collapses at the reference. -/
def collapse (r : Occurrence) : Collapse := ⟨.ofInt r.first, .ofInt r.last⟩

end Occurrence

/-- What becomes of a raw text from place `p` on if each of some references is replaced by its
character and all other characters are copied. -/
def substitute (raw : List Char) (p : Nat) : List Occurrence → List Char
  | [] => raw.drop p
  | r :: rs => cut raw p r.first ++ r.char :: substitute raw (r.last + 1) rs

/-- The references among pieces of which the first begins at character `n`. -/
def occurrencesFrom (n : Nat) : List Piece → List Occurrence
  | [] => []
  | .char _ :: ps => occurrencesFrom (n + 1) ps
  | .reference c size :: ps => ⟨n, n + size - 1, c⟩ :: occurrencesFrom (n + size) ps

/-! ## References in a text -/

theorem IsReference.reference?_eq {c : Char} {rest : List Char} {n : Nat}
    (h : IsReference c (rest.take n)) (hsemi : rest[n]? = some ';') :
    reference? rest = some (c, n) := by
  obtain ⟨hlt, hget⟩ := List.getElem?_eq_some_iff.1 hsemi
  have hlen : (rest.take n).length = n := by simp; omega
  have hread := h.reference?_append (rest.drop (n + 1))
  rwa [← hget, List.getElem_cons_drop, List.take_append_drop, hlen] at hread

theorem isReference_of_reference?_eq {c : Char} {rest : List Char} {n : Nat}
    (h : reference? rest = some (c, n)) : IsReference c (rest.take n) := by
  obtain ⟨hn, -, hbody, hdecode, hne⟩ := reference?_eq_some_iff.1 h
  refine ⟨?_, fun b hb => ?_, hdecode, hne⟩
  · rw [List.length_take]
    exact Nat.le_trans (Nat.min_le_left _ _) hn
  · have hb := hbody b hb
    simp only [isBody, Bool.and_eq_true, decide_eq_true_eq, Bool.not_eq_true'] at hb
    exact ⟨hb.1.2, hb.1.1, hb.2⟩

namespace Occurrence

variable {raw : List Char} {r r' : Occurrence}

/-- A reference stands where the scan would read it if it came there. -/
theorem isIn_iff :
    r.IsIn raw ↔ raw[r.first]? = some '&' ∧ r.first < r.last ∧
      reference? (raw.drop (r.first + 1)) = some (r.char, r.last - (r.first + 1)) := by
  constructor
  · rintro ⟨hamp, hlt, hsemi, hbody⟩
    refine ⟨hamp, hlt, hbody.reference?_eq ?_⟩
    rwa [List.getElem?_drop, Nat.add_sub_cancel' hlt]
  · rintro ⟨hamp, hlt, hread⟩
    obtain ⟨-, hsemi, -⟩ := reference?_eq_some_iff.1 hread
    rw [List.getElem?_drop, Nat.add_sub_cancel' hlt] at hsemi
    exact ⟨hamp, hlt, hsemi, isReference_of_reference?_eq hread⟩

theorem IsIn.eq_of_first_eq (h : r.IsIn raw) (h' : r'.IsIn raw) (hfirst : r.first = r'.first) :
    r = r' := by
  obtain ⟨-, hlt, hread⟩ := isIn_iff.1 h
  obtain ⟨-, hlt', hread'⟩ := isIn_iff.1 h'
  obtain ⟨first, last, char⟩ := r
  obtain ⟨first', last', char'⟩ := r'
  subst hfirst
  simp only [hread, Option.some.injEq, Prod.mk.injEq] at hread' hlt hlt'
  obtain ⟨rfl, hlast⟩ := hread'
  obtain rfl : last = last' := by omega
  rfl

/-- Between the ends of a reference stand characters of its body only. -/
theorem IsIn.plain (h : r.IsIn raw) {i : Nat} {c : Char} (hc : raw[i]? = some c)
    (hfirst : r.first < i) (hlast : i < r.last) : c ≠ '&' ∧ c ≠ ';' ∧ isBlank c = false := by
  refine h.body.plain c (List.mem_of_getElem? (i := i - (r.first + 1)) ?_)
  rw [cut, List.getElem?_take_of_lt (by omega), List.getElem?_drop, Nat.add_sub_cancel' hfirst, hc]

/-- No reference begins inside another. -/
theorem IsIn.last_lt_first (h : r.IsIn raw) (h' : r'.IsIn raw) (hfirst : r.first < r'.first) :
    r.last < r'.first := by
  refine Nat.lt_of_not_le fun hle => ?_
  rcases Nat.lt_or_eq_of_le hle with hlt | heq
  · -- the ampersand of the second would stand in the body of the first
    exact (h.plain h'.ampersand hfirst hlt).1 rfl
  · have hchar := h'.ampersand
    rw [heq, h.semicolon] at hchar
    cases hchar

theorem IsIn.last_lt_length (h : r.IsIn raw) : r.last < raw.length :=
  (List.getElem?_eq_some_iff.1 h.semicolon).1

end Occurrence

/-! ## The scan -/

section Scan

variable {raw rest : List Char} {n : Nat} {c : Char} {p : Piece} {r : Occurrence}

theorem getElem?_of_drop_eq (h : raw.drop n = c :: rest) : raw[n]? = some c := by
  rw [← Nat.add_zero n, ← List.getElem?_drop, h]
  rfl

theorem drop_succ_of_drop_eq (h : raw.drop n = c :: rest) : raw.drop (n + 1) = rest := by
  rw [← List.drop_drop, h]
  rfl

theorem pieces_drop_eq_cons (hdrop : raw.drop n = c :: rest) (hp : Begins c rest p) :
    pieces (raw.drop n) = p :: pieces (raw.drop (n + p.size)) := by
  rw [hdrop, hp.pieces_eq, ← hdrop, List.drop_drop]

/-- The scan goes from one piece to the next until nothing is left. -/
theorem scan_induction {motive : Nat → Prop} (raw : List Char)
    (stop : ∀ n, raw.drop n = [] → motive n)
    (step : ∀ n c rest p, raw.drop n = c :: rest → Begins c rest p → motive (n + p.size) →
      motive n) (n : Nat) : motive n := by
  induction h : raw.length - n using Nat.strongRecOn generalizing n with
  | ind m ih =>
    cases hdrop : raw.drop n with
    | nil => exact stop n hdrop
    | cons c rest =>
      obtain ⟨p, hp⟩ := exists_begins c rest
      have hpos := hp.size_pos
      have hlt : n < raw.length := by
        rw [← Nat.not_le, ← List.drop_eq_nil_iff, hdrop]
        exact List.cons_ne_nil c rest
      exact step n c rest p hdrop hp (ih _ (by omega) (n + p.size) rfl)

theorem reference?_of_isIn (h : r.IsIn raw) (hdrop : raw.drop r.first = c :: rest) :
    c = '&' ∧ reference? rest = some (r.char, r.last - (r.first + 1)) := by
  obtain ⟨hamp, -, hread⟩ := Occurrence.isIn_iff.1 h
  rw [getElem?_of_drop_eq hdrop] at hamp
  rw [drop_succ_of_drop_eq hdrop] at hread
  exact ⟨Option.some.inj hamp, hread⟩

theorem isIn_of_reference? {m : Nat} (hdrop : raw.drop n = '&' :: rest)
    (h : reference? rest = some (c, m)) : Occurrence.IsIn ⟨n, n + (m + 2) - 1, c⟩ raw := by
  have hsize : n + (m + 2) - 1 - (n + 1) = m := by omega
  refine Occurrence.isIn_iff.2 ⟨getElem?_of_drop_eq hdrop, ?_, ?_⟩
  · show n < n + (m + 2) - 1
    omega
  · rw [drop_succ_of_drop_eq hdrop, h, hsize]

/-- The scan finds exactly the references of the text that begin where it has yet to come. -/
theorem mem_occurrencesFrom_iff (raw : List Char) (n : Nat) (r : Occurrence) :
    r ∈ occurrencesFrom n (pieces (raw.drop n)) ↔ r.IsIn raw ∧ n ≤ r.first := by
  induction n using scan_induction raw with
  | stop n hdrop =>
    rw [hdrop, pieces]
    refine iff_of_false List.not_mem_nil fun h => ?_
    obtain ⟨hr, hn⟩ := h
    have := hr.first_lt_last
    have := hr.last_lt_length
    have := List.drop_eq_nil_iff.1 hdrop
    omega
  | step n c rest p hdrop hp ih =>
    rw [pieces_drop_eq_cons hdrop hp]
    cases hp with
    | char hchar =>
      -- a reference at `n` would have been read there
      have hne : r.IsIn raw → r.first ≠ n := by
        rintro hr rfl
        obtain ⟨hc, hread⟩ := reference?_of_isIn hr hdrop
        rw [hchar hc] at hread
        cases hread
      rw [occurrencesFrom]
      refine ih.trans (and_congr_right fun hr => ?_)
      have := hne hr
      simp only [Piece.size]
      omega
    | @reference d k hc hread =>
      subst hc
      have hfirst := isIn_of_reference? hdrop hread
      simp only [Piece.size] at ih ⊢
      rw [occurrencesFrom, List.mem_cons, ih]
      constructor
      · rintro (rfl | ⟨hr, hn⟩)
        · exact ⟨hfirst, Nat.le_refl n⟩
        · exact ⟨hr, by omega⟩
      · rintro ⟨hr, hn⟩
        rcases Nat.lt_or_eq_of_le hn with hn | rfl
        · -- the next one begins behind the first
          have hlast := hfirst.last_lt_first hr hn
          simp only at hlast
          exact .inr ⟨hr, by omega⟩
        · exact .inl (hr.eq_of_first_eq hfirst rfl)

theorem le_first_of_mem_occurrencesFrom {n : Nat} {ps : List Piece}
    (h : r ∈ occurrencesFrom n ps) : n ≤ r.first := by
  induction ps generalizing n with
  | nil => cases h
  | cons p ps ih =>
    cases p with
    | char c => exact Nat.le_of_succ_le (ih h)
    | reference c size =>
      rcases List.mem_cons.1 h with rfl | h
      · exact Nat.le_refl n
      · exact Nat.le_trans (Nat.le_add_right n size) (ih h)

theorem pairwise_occurrencesFrom (n : Nat) {ps : List Piece} (hpos : ∀ p ∈ ps, 0 < p.size) :
    (occurrencesFrom n ps).Pairwise fun r r' => r.last < r'.first := by
  induction ps generalizing n with
  | nil => exact List.Pairwise.nil
  | cons p ps ih =>
    obtain ⟨hp, hps⟩ := List.forall_mem_cons.1 hpos
    cases p with
    | char c => exact ih (n + 1) hps
    | reference c size =>
      refine List.pairwise_cons.2 ⟨fun r hr => ?_, ih (n + size) hps⟩
      have := le_first_of_mem_occurrencesFrom hr
      simp only [Piece.size] at hp ⊢
      omega

theorem collapsesFrom_eq_map (n : Nat) {ps : List Piece} (hpos : ∀ p ∈ ps, 0 < p.size) :
    collapsesFrom n ps = (occurrencesFrom n ps).map Occurrence.collapse := by
  induction ps generalizing n with
  | nil => rfl
  | cons p ps ih =>
    obtain ⟨hp, hps⟩ := List.forall_mem_cons.1 hpos
    cases p with
    | char c => exact ih (n + 1) hps
    | reference c size =>
      have hlast : ((n + size - 1 : Nat) : Int) = n + size - 1 := by
        simp only [Piece.size] at hp
        omega
      rw [collapsesFrom, occurrencesFrom, List.map_cons, ih (n + size) hps, Occurrence.collapse,
        hlast]

theorem substitute_of_lt (hdrop : raw.drop n = c :: rest) {rs : List Occurrence}
    (h : ∀ r ∈ rs, n < r.first) : substitute raw n rs = c :: substitute raw (n + 1) rs := by
  have hnext := drop_succ_of_drop_eq hdrop
  cases rs with
  | nil => rw [substitute, substitute, hdrop, hnext]
  | cons r rs =>
    have hlt := h r List.mem_cons_self
    rw [substitute, substitute, cut, cut, hdrop, hnext, List.take_cons (by omega), Nat.sub_sub,
      List.cons_append]

/-- The scan copies what it does not read as a reference. -/
theorem substitute_occurrencesFrom (raw : List Char) (n : Nat) :
    substitute raw n (occurrencesFrom n (pieces (raw.drop n))) =
      (pieces (raw.drop n)).map Piece.value := by
  induction n using scan_induction raw with
  | stop n hdrop => simp [pieces, occurrencesFrom, substitute, hdrop]
  | step n c rest p hdrop hp ih =>
    rw [pieces_drop_eq_cons hdrop hp, List.map_cons, ← ih]
    cases hp with
    | char hchar => exact substitute_of_lt hdrop fun r hr => le_first_of_mem_occurrencesFrom hr
    | reference hc hread =>
      have hcut : cut raw n n = [] := by simp [cut]
      rw [occurrencesFrom, substitute, hcut]
      rfl

end Scan

/-! ## The whole text -/

/-- What collapses are the references of the raw text, each once and in their order, no two of them
share a character, and the unescaped text is the raw text with their characters in their place. -/
theorem unescape_eq_substitute {raw : List Char} (hword : (raw.length : Int) ≤ Word.greatest) :
    ∃ rs : List Occurrence,
      (∀ r, r ∈ rs ↔ r.IsIn raw) ∧
      rs.Pairwise (fun r r' => r.last < r'.first) ∧
      (unescape raw).collapses = rs.map Occurrence.collapse ∧
      (∀ r ∈ rs, r.collapse.first.toInt = r.first ∧ r.collapse.last.toInt = r.last ∧
        r.first < r.last ∧ r.last < raw.length) ∧
      (unescape raw).text = substitute raw 0 rs ∧
      ((unescape raw).text.length : Int) =
        raw.length - Sweep.total (unescape raw).collapses := by
  have hpos : ∀ p ∈ pieces raw, 0 < p.size := size_pos_of_mem_pieces
  have hmem := mem_occurrencesFrom_iff raw 0
  refine ⟨occurrencesFrom 0 (pieces raw), fun r => by simpa using hmem r,
    pairwise_occurrencesFrom 0 hpos, collapsesFrom_eq_map 0 hpos, fun r hr => ?_,
    (substitute_occurrencesFrom raw 0).symm, ?_⟩
  · have hin := ((hmem r).1 hr).1
    have hlt := hin.first_lt_last
    have hlast := hin.last_lt_length
    exact ⟨Offset.toInt_ofInt_of_le (by omega), Offset.toInt_ofInt_of_le (by omega), hlt, hlast⟩
  · have htotal := Sweep.total_collapsesFrom (n := 0) hpos
    rw [sizes_pieces] at htotal
    rw [unescape, htotal (by simpa using hword), List.length_map]
    omega

/-- A text where ampersands follow each other, bodies have the greatest length and one more, and
candidates are broken off or stand for the replacement character. -/
def tangled : List Char :=
  "&&amp;lt;&lt &gt;&#".toList ++ List.replicate 29 '0' ++ "65;&#".toList ++
    List.replicate 30 '0' ++ "65;&#xFFFD;&".toList

theorem unescape_tangled :
    (tangled.length : Int) ≤ Word.greatest ∧
      ∃ rs : List Occurrence,
        (∀ r, r ∈ rs ↔ r.IsIn tangled) ∧
        rs.map Occurrence.collapse = [⟨⟨1⟩, ⟨5⟩⟩, ⟨⟨13⟩, ⟨16⟩⟩, ⟨⟨17⟩, ⟨50⟩⟩] ∧
        substitute tangled 0 rs = "&&lt;&lt >A&#".toList ++ List.replicate 30 '0' ++
          "65;&#xFFFD;&".toList := by
  have hword : (tangled.length : Int) ≤ Word.greatest := by decide
  obtain ⟨rs, hmem, -, hcollapses, -, htext, -⟩ := unescape_eq_substitute hword
  refine ⟨hword, rs, hmem, hcollapses.symm.trans ?_, htext.symm.trans ?_⟩
  · decide +kernel
  · decide +kernel

end Newsfeed.Text
