import Newsfeed.Text.Unescaped

/-!
# Pieces of an escaped text

A raw text may be cut between its pieces: what stands before the cut and what stands behind it
then have the pieces that they have in the whole (`pieces_take`, `pieces_drop`), so they are
unescaped as in the whole.  A place in the raw text lies between two pieces exactly if it lies in
no collapse (`exists_append_of_not_inside`).
-/

namespace Newsfeed.Text

/-- The number of raw characters of some pieces. -/
def sizes : List Piece → Nat
  | [] => 0
  | p :: ps => p.size + sizes ps

@[simp]
theorem sizes_nil : sizes [] = 0 := rfl

@[simp]
theorem sizes_cons (p : Piece) (ps : List Piece) : sizes (p :: ps) = p.size + sizes ps := rfl

@[simp]
theorem sizes_append (ps qs : List Piece) : sizes (ps ++ qs) = sizes ps + sizes qs := by
  induction ps with
  | nil => simp
  | cons p ps ih => simp [ih, Nat.add_assoc]

theorem length_le_sizes {ps : List Piece} (h : ∀ p ∈ ps, 0 < p.size) : ps.length ≤ sizes ps := by
  induction ps with
  | nil => exact Nat.le_refl 0
  | cons p ps ih =>
    obtain ⟨hp, h⟩ := List.forall_mem_cons.1 h
    have := ih h
    simp only [List.length_cons, sizes_cons]
    omega

/-- A place lies between two pieces or inside a reference. -/
theorem exists_append_or_inside {ps : List Piece} {p : Nat} (hp : p ≤ sizes ps) :
    ∃ qs rs, ps = qs ++ rs ∧ (sizes qs = p ∨
      ∃ c size rs', rs = .reference c size :: rs' ∧ sizes qs < p ∧ p < sizes qs + size) := by
  induction ps generalizing p with
  | nil => exact ⟨[], [], rfl, .inl (Nat.le_zero.1 hp).symm⟩
  | cons q ps ih =>
    rcases Nat.eq_zero_or_pos p with rfl | hpos
    · exact ⟨[], q :: ps, rfl, .inl rfl⟩
    · by_cases hq : q.size ≤ p
      · rw [sizes_cons] at hp
        obtain ⟨qs, rs, rfl, h⟩ := ih (show p - q.size ≤ sizes ps by omega)
        refine ⟨q :: qs, rs, rfl, ?_⟩
        rw [sizes_cons]
        rcases h with h | ⟨c, size, rs', hrs, hlt, hinside⟩
        · exact .inl (by omega)
        · exact .inr ⟨c, size, rs', hrs, by omega, by omega⟩
      · cases q with
        | char c => exact absurd hpos hq
        | reference c size =>
          exact ⟨[], _, rfl, .inr ⟨c, size, ps, rfl, hpos, by simpa [Piece.size] using hq⟩⟩

/-! ## References -/

theorem takeWhile_isBody {rest : List Char} {n : Nat} (hn : n ≤ maxBody)
    (hsemi : rest[n]? = some ';') (hbody : ∀ c ∈ rest.take n, isBody c = true) :
    (rest.take (maxBody + 1)).takeWhile isBody = rest.take n := by
  obtain ⟨hlt, hget⟩ := List.getElem?_eq_some_iff.1 hsemi
  have hrest : rest = rest.take n ++ ';' :: rest.drop (n + 1) := by
    rw [← hget, List.getElem_cons_drop, List.take_append_drop]
  have hlen : (rest.take n).length = n := by simp; omega
  generalize rest.take n = body at hrest hlen hbody
  have hcut : (body ++ ';' :: rest.drop (n + 1)).take (maxBody + 1) =
      body ++ ';' :: (rest.drop (n + 1)).take (maxBody - n) := by
    rw [List.take_append, hlen, List.take_of_length_le (by omega),
      show maxBody + 1 - n = maxBody - n + 1 by omega, List.take_succ_cons]
  rw [hrest, hcut, List.takeWhile_append_of_pos hbody, List.takeWhile_cons_of_neg (by decide),
    List.append_nil]

/-- A reference is read from its body and the semicolon behind it, and from nothing else. -/
theorem reference?_eq_some_iff {rest : List Char} {d : Char} {n : Nat} :
    reference? rest = some (d, n) ↔
      n ≤ maxBody ∧ rest[n]? = some ';' ∧ (∀ c ∈ rest.take n, isBody c = true) ∧
        Reference.decode? (rest.take n) = some d ∧ d ≠ '\uFFFD' := by
  unfold reference?
  constructor
  · intro h
    dsimp only at h
    split at h
    next hb =>
      have htake : (rest.take (maxBody + 1)).takeWhile isBody =
          rest.take ((rest.take (maxBody + 1)).takeWhile isBody).length := by
        have hp := List.takeWhile_prefix (l := rest.take (maxBody + 1)) isBody
        exact List.prefix_iff_eq_take.1 (hp.trans (List.take_prefix _ _))
      have hall : ∀ c ∈ (rest.take (maxBody + 1)).takeWhile isBody, isBody c = true :=
        List.all_eq_true.1 List.all_takeWhile
      generalize (rest.take (maxBody + 1)).takeWhile isBody = body at h hb htake hall
      split at h
      next c hc =>
        split at h
        · cases h
        next hne =>
          cases h
          rw [htake] at hall hc
          refine ⟨hb.1, hb.2, ?_, ?_, hne⟩
          · simpa using hall
          · simpa using hc
      next => cases h
    next => cases h
  · rintro ⟨hn, hsemi, hbody, hd, hne⟩
    rw [takeWhile_isBody hn hsemi hbody]
    obtain ⟨hlt, -⟩ := List.getElem?_eq_some_iff.1 hsemi
    have hlen : (rest.take n).length = n := by simp; omega
    simp [hlen, hn, hsemi, hd, hne]

/-! ## Cutting between pieces -/

theorem reference?_take_of_lt {rest : List Char} {d : Char} {n k : Nat}
    (h : reference? rest = some (d, n)) (hk : n < k) : reference? (rest.take k) = some (d, n) := by
  obtain ⟨hn, hsemi, hbody, hd, hne⟩ := reference?_eq_some_iff.1 h
  have htake : (rest.take k).take n = rest.take n := by
    rw [List.take_take, Nat.min_eq_left (Nat.le_of_lt hk)]
  refine reference?_eq_some_iff.2 ⟨hn, ?_, ?_, ?_, hne⟩
  · rw [List.getElem?_take_of_lt hk, hsemi]
  · rwa [htake]
  · rwa [htake]

theorem reference?_of_take {rest : List Char} {d : Char} {n k : Nat}
    (h : reference? (rest.take k) = some (d, n)) : reference? rest = some (d, n) := by
  obtain ⟨hn, hsemi, hbody, hd, hne⟩ := reference?_eq_some_iff.1 h
  have hk : n < k := by
    obtain ⟨hlt, -⟩ := List.getElem?_eq_some_iff.1 hsemi
    rw [List.length_take] at hlt
    omega
  have htake : (rest.take k).take n = rest.take n := by
    rw [List.take_take, Nat.min_eq_left (Nat.le_of_lt hk)]
  rw [htake] at hbody hd
  rw [List.getElem?_take_of_lt hk] at hsemi
  exact reference?_eq_some_iff.2 ⟨hn, hsemi, hbody, hd, hne⟩

/-- How the first piece of a text is found. -/
inductive Begins (c : Char) (rest : List Char) : Piece → Prop
  | char (h : c = '&' → reference? rest = none) : Begins c rest (.char c)
  | reference {d : Char} {n : Nat} (hc : c = '&') (h : reference? rest = some (d, n)) :
    Begins c rest (.reference d (n + 2))

theorem Begins.pieces_eq {c : Char} {rest : List Char} {p : Piece} (h : Begins c rest p) :
    pieces (c :: rest) = p :: pieces ((c :: rest).drop p.size) := by
  rw [pieces]
  cases h with
  | char h =>
    by_cases hc : c = '&'
    · rw [if_pos hc, h hc]
      rfl
    · rw [if_neg hc]
      rfl
  | reference hc h =>
    rw [if_pos hc, h]
    rfl

theorem exists_begins (c : Char) (rest : List Char) : ∃ p, Begins c rest p := by
  by_cases hc : c = '&'
  · cases h : reference? rest with
    | none => exact ⟨_, .char fun _ => h⟩
    | some r => exact ⟨_, .reference hc h⟩
  · exact ⟨_, .char fun h => absurd h hc⟩

theorem Begins.size_pos {c : Char} {rest : List Char} {p : Piece} (h : Begins c rest p) :
    0 < p.size := by
  cases h <;> simp [Piece.size]

theorem Begins.size_le {c : Char} {rest : List Char} {p : Piece} (h : Begins c rest p) :
    p.size ≤ rest.length + 1 := by
  cases h with
  | char => simp [Piece.size]
  | reference _ h =>
    obtain ⟨-, hsemi, -⟩ := reference?_eq_some_iff.1 h
    obtain ⟨hlt, -⟩ := List.getElem?_eq_some_iff.1 hsemi
    simp only [Piece.size]
    omega

/-- A piece that ends before a cut is still the first piece. -/
theorem Begins.take {c : Char} {rest : List Char} {p : Piece} (h : Begins c rest p) {k : Nat}
    (hk : p.size ≤ k + 1) : Begins c (rest.take k) p := by
  cases h with
  | char h =>
    refine .char fun hc => ?_
    cases hr : reference? (rest.take k) with
    | none => rfl
    | some r =>
      have := h hc
      rw [reference?_of_take hr] at this
      cases this
  | reference hc h =>
    simp only [Piece.size] at hk
    exact .reference hc (reference?_take_of_lt h (by omega))

theorem sizes_pieces (raw : List Char) : sizes (pieces raw) = raw.length := by
  induction h : raw.length using Nat.strongRecOn generalizing raw with
  | ind m ih =>
    cases raw with
    | nil => subst h; simp [pieces]
    | cons c rest =>
      obtain ⟨p, hp⟩ := exists_begins c rest
      have hpos := hp.size_pos
      have hle := hp.size_le
      have hlen : ((c :: rest).drop p.size).length = m - p.size := by simp [← h]
      simp only [List.length_cons] at h
      rw [hp.pieces_eq, sizes_cons, ih (m - p.size) (by omega) _ hlen]
      omega

theorem pieces_drop {raw : List Char} {ps qs : List Piece} (h : pieces raw = ps ++ qs) :
    pieces (raw.drop (sizes ps)) = qs := by
  induction ps generalizing raw with
  | nil => exact h
  | cons p ps ih =>
    cases raw with
    | nil => simp [pieces] at h
    | cons c rest =>
      obtain ⟨p', hp⟩ := exists_begins c rest
      rw [hp.pieces_eq] at h
      obtain ⟨rfl, hrest⟩ := List.cons_eq_cons.1 h
      rw [sizes_cons, ← List.drop_drop]
      exact ih hrest

theorem pieces_take {raw : List Char} {ps qs : List Piece} (h : pieces raw = ps ++ qs) :
    pieces (raw.take (sizes ps)) = ps := by
  induction ps generalizing raw with
  | nil => simp [pieces]
  | cons p ps ih =>
    cases raw with
    | nil => simp [pieces] at h
    | cons c rest =>
      obtain ⟨p', hp⟩ := exists_begins c rest
      have hpos := hp.size_pos
      rw [hp.pieces_eq] at h
      obtain ⟨rfl, hrest⟩ := List.cons_eq_cons.1 h
      have htake : (c :: rest).take (sizes (p' :: ps)) =
          c :: rest.take (p'.size + sizes ps - 1) := by
        rw [sizes_cons, List.take_cons (by omega)]
      have hp' := hp.take (k := p'.size + sizes ps - 1) (by omega)
      have hdrop : (c :: rest.take (p'.size + sizes ps - 1)).drop p'.size =
          ((c :: rest).drop p'.size).take (sizes ps) := by
        rw [← List.take_cons (by omega), ← sizes_cons, List.drop_take, sizes_cons,
          Nat.add_sub_cancel_left]
      rw [htake, hp'.pieces_eq, hdrop, ih hrest]

theorem size_pos_of_mem_pieces {raw : List Char} : ∀ p ∈ pieces raw, 0 < p.size := by
  induction h : raw.length using Nat.strongRecOn generalizing raw with
  | ind m ih =>
    cases raw with
    | nil => simp [pieces]
    | cons c rest =>
      obtain ⟨p, hp⟩ := exists_begins c rest
      have hpos := hp.size_pos
      have hlen : ((c :: rest).drop p.size).length = m - p.size := by simp [← h]
      simp only [List.length_cons] at h
      rw [hp.pieces_eq]
      exact List.forall_mem_cons.2 ⟨hpos, ih (m - p.size) (by omega) hlen⟩

theorem length_unescape_le (raw : List Char) : (unescape raw).text.length ≤ raw.length := by
  have h := length_le_sizes (size_pos_of_mem_pieces : ∀ p ∈ pieces raw, 0 < p.size)
  rw [sizes_pieces] at h
  simpa [unescape] using h

/-! ## Collapses -/

@[simp]
theorem collapsesFrom_append (n : Nat) (ps qs : List Piece) :
    collapsesFrom n (ps ++ qs) = collapsesFrom n ps ++ collapsesFrom (n + sizes ps) qs := by
  induction ps generalizing n with
  | nil => simp [collapsesFrom]
  | cons p ps ih =>
    cases p <;> simp [collapsesFrom, ih, Piece.size, Nat.add_assoc]

/-- A place that lies in no collapse lies between two pieces. -/
theorem exists_append_of_not_inside {ps : List Piece} {n p : Nat} (hn : n ≤ p)
    (hp : p ≤ n + sizes ps) (hword : (p : Int) ≤ Word.greatest)
    (h : ∀ e ∈ collapsesFrom n ps, ¬ (e.first.toInt < p ∧ p ≤ e.last.toInt)) :
    ∃ qs rs, ps = qs ++ rs ∧ n + sizes qs = p := by
  obtain ⟨qs, rs, rfl, hqs | ⟨c, size, rs', rfl, hlt, hinside⟩⟩ :=
    exists_append_or_inside (show p - n ≤ sizes ps by omega)
  · exact ⟨qs, rs, rfl, by omega⟩
  · have hmem : (⟨.ofInt ↑(n + sizes qs), .ofInt (↑(n + sizes qs) + size - 1)⟩ : Collapse) ∈
        collapsesFrom n (qs ++ .reference c size :: rs') := by
      rw [collapsesFrom_append]
      exact List.mem_append_right _ List.mem_cons_self
    have := h _ hmem
    simp only [Offset.toInt_ofInt, Word.least, Word.greatest] at this hword
    omega

theorem last_lt_of_mem_collapsesFrom {n : Nat} {ps : List Piece} {e : Collapse}
    (he : e ∈ collapsesFrom n ps) : e.last.toInt < n + sizes ps := by
  induction ps generalizing n with
  | nil => cases he
  | cons p ps ih =>
    cases p with
    | char c =>
      have := ih he
      simp only [sizes_cons, Piece.size]
      omega
    | reference c size =>
      rcases List.mem_cons.1 he with rfl | he
      · simp only [Offset.toInt_ofInt, Word.least, Word.greatest, sizes_cons, Piece.size]
        omega
      · have := ih he
        simp only [sizes_cons, Piece.size]
        omega

theorem le_last_of_mem_collapsesFrom {n : Nat} {ps : List Piece} (hpos : ∀ p ∈ ps, 0 < p.size)
    {e : Collapse} (he : e ∈ collapsesFrom n ps) : min (n : Int) Word.greatest ≤ e.last.toInt := by
  induction ps generalizing n with
  | nil => cases he
  | cons p ps ih =>
    obtain ⟨hp, hps⟩ := List.forall_mem_cons.1 hpos
    cases p with
    | char c =>
      have := ih hps he
      omega
    | reference c size =>
      rcases List.mem_cons.1 he with rfl | he
      · simp only [Offset.toInt_ofInt, Word.least, Word.greatest, Piece.size] at hp ⊢
        omega
      · have := ih hps he
        omega

theorem pairwise_collapsesFrom (n : Nat) {ps : List Piece} (hpos : ∀ p ∈ ps, 0 < p.size) :
    (collapsesFrom n ps).Pairwise fun a b => a.last ≤ b.last := by
  induction ps generalizing n with
  | nil => exact List.Pairwise.nil
  | cons p ps ih =>
    obtain ⟨hp, hps⟩ := List.forall_mem_cons.1 hpos
    cases p with
    | char c => exact ih (n + 1) hps
    | reference c size =>
      refine List.pairwise_cons.2 ⟨fun e he => ?_, ih (n + size) hps⟩
      have hle := le_last_of_mem_collapsesFrom hps he
      simp only [Piece.size] at hp
      simp only [Offset.le_iff_toInt_le, Offset.toInt_ofInt, Word.least, Word.greatest] at hle ⊢
      omega

/-! ## Cuts -/

/-- The raw text may be cut at this place. -/
def IsCut (raw : List Char) (p : Nat) : Prop :=
  ∃ ps qs, pieces raw = ps ++ qs ∧ sizes ps = p

/-- The stretch of a text from `p` up to `q`. -/
def cut {β : Type} (xs : List β) (p q : Nat) : List β := (xs.drop p).take (q - p)

section IsCut

variable {raw : List Char} {p q : Nat}

theorem isCut_zero (raw : List Char) : IsCut raw 0 := ⟨[], pieces raw, rfl, rfl⟩

theorem isCut_length (raw : List Char) : IsCut raw raw.length :=
  ⟨pieces raw, [], (List.append_nil _).symm, sizes_pieces raw⟩

/-- A place is a cut if no collapse has it inside. -/
theorem isCut_of_not_inside (hp : p ≤ raw.length) (hword : (p : Int) ≤ Word.greatest)
    (h : ∀ e ∈ (unescape raw).collapses, ¬ (e.first.toInt < p ∧ p ≤ e.last.toInt)) :
    IsCut raw p := by
  rw [← sizes_pieces raw] at hp
  obtain ⟨ps, qs, hps, hsizes⟩ := exists_append_of_not_inside (Nat.zero_le p) (by omega) hword h
  exact ⟨ps, qs, hps, by omega⟩

theorem IsCut.le_length (h : IsCut raw p) : p ≤ raw.length := by
  obtain ⟨ps, qs, hps, rfl⟩ := h
  rw [← sizes_pieces raw, hps, sizes_append]
  omega

/-- Between two cuts there are whole pieces. -/
theorem IsCut.exists_between (hp : IsCut raw p) (hq : IsCut raw q) (hpq : p ≤ q) :
    ∃ ps ms qs, pieces raw = ps ++ (ms ++ qs) ∧ sizes ps = p ∧ sizes ms = q - p := by
  obtain ⟨ps, ps', hps, rfl⟩ := hp
  obtain ⟨qs, qs', hqs, rfl⟩ := hq
  have hpos : ∀ m ∈ pieces raw, 0 < m.size := size_pos_of_mem_pieces
  rcases List.append_eq_append_iff.1 (hps.symm.trans hqs) with ⟨ms, rfl, hms⟩ | ⟨ms, rfl, hms⟩
  · exact ⟨ps, ms, qs', by rw [hps, hms], rfl, by rw [sizes_append]; omega⟩
  · have hlen : ms.length ≤ sizes ms := by
      refine length_le_sizes fun m hm => hpos m ?_
      rw [hps]
      simp [hm]
    rw [sizes_append] at hpq ⊢
    obtain rfl : ms = [] := List.eq_nil_of_length_eq_zero (by omega)
    exact ⟨qs, [], qs', hqs, by simp, by simp⟩

theorem unescape_take {ps qs : List Piece} (h : pieces raw = ps ++ qs) :
    (unescape (raw.take (sizes ps))).text = ps.map Piece.value := by
  rw [unescape, pieces_take h]

theorem unescape_cut {ps ms qs : List Piece} (h : pieces raw = ps ++ (ms ++ qs)) :
    (unescape (cut raw (sizes ps) (sizes ps + sizes ms))).text = ms.map Piece.value := by
  rw [unescape, cut, Nat.add_sub_cancel_left, pieces_take (pieces_drop h)]

/-- What stands before a later cut is what stands before an earlier one and what stands between. -/
theorem unescape_take_append (hp : IsCut raw p) (hq : IsCut raw q) (hpq : p ≤ q) :
    (unescape (raw.take q)).text =
      (unescape (raw.take p)).text ++ (unescape (cut raw p q)).text := by
  obtain ⟨ps, ms, qs, h, rfl, hms⟩ := hp.exists_between hq hpq
  have hq : q = sizes ps + sizes ms := by omega
  have hall := unescape_take (h.trans (List.append_assoc _ _ _).symm)
  rw [sizes_append] at hall
  rw [hq, unescape_cut h, unescape_take h, hall, List.map_append]

/-- Between two different cuts there is some text. -/
theorem unescape_cut_ne_nil (hp : IsCut raw p) (hq : IsCut raw q) (hpq : p < q) :
    (unescape (cut raw p q)).text ≠ [] := by
  obtain ⟨ps, ms, qs, h, rfl, hms⟩ := hp.exists_between hq (Nat.le_of_lt hpq)
  have hq : q = sizes ps + sizes ms := by omega
  rw [hq, unescape_cut h]
  intro hnil
  rw [List.map_eq_nil_iff.1 hnil, sizes_nil] at hms
  omega

end IsCut

end Newsfeed.Text
