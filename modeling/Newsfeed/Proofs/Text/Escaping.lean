import Newsfeed.Proofs.Text.Pieces

/-!
# Escaped forms of a text

A text is escaped by references for its ampersands and for as many of its other characters as one
likes, each of them any reference for that character.  Unescaping undoes this, whatever stands
around the references: a reference is found from its own ampersand and ends at its own semicolon,
since its body has neither, and what is written for the next character is not looked at.
-/

namespace Newsfeed.Text

/-- A reference for the character has this body between its ampersand and its semicolon. -/
structure IsReference (c : Char) (body : List Char) : Prop where
  length_le : body.length ≤ 32
  plain : ∀ b ∈ body, b ≠ '&' ∧ b ≠ ';' ∧ isBlank b = false
  decode : Reference.decode? body = some c
  ne_replacement : c ≠ '\uFFFD'

/-- A character with the way in which it is escaped. -/
inductive Escape
  /-- The character stands for itself, which an ampersand cannot. -/
  | copied (c : Char) (h : c ≠ '&')
  /-- A reference stands for the character. -/
  | reference (c : Char) (body : List Char) (h : IsReference c body)

namespace Escape

/-- The character that is escaped. -/
def char : Escape → Char
  | copied c _ => c
  | reference c _ _ => c

/-- What is written for the character. -/
def written : Escape → List Char
  | copied c _ => [c]
  | reference _ body _ => '&' :: (body ++ [';'])

/-- Where a reference stands, from its ampersand to its semicolon, if it is written after so many
characters. -/
def place? (n : Nat) : Escape → Option Collapse
  | copied _ _ => none
  | reference _ body _ => some ⟨.ofInt n, .ofInt (n + body.length + 1)⟩

/-- What is read from what is written. -/
def piece : Escape → Piece
  | copied c _ => .char c
  | reference c body _ => .reference c (body.length + 2)

end Escape

/-- The escaped form of a text. -/
def escaped (es : List Escape) : List Char := es.flatMap Escape.written

/-- Where the references stand in the escaped form, in order. -/
def referencePlaces (es : List Escape) : List Collapse :=
  es.zipIdx.filterMap fun x => x.1.place? (escaped (es.take x.2)).length

theorem IsReference.isBody {c : Char} {body : List Char} (h : IsReference c body) {b : Char}
    (hb : b ∈ body) : isBody b = true := by
  obtain ⟨hamp, hsemi, hblank⟩ := h.plain b hb
  simp [Text.isBody, hamp, hsemi, hblank]

/-- A reference is read whole and alone, whatever follows it. -/
theorem IsReference.reference?_append {c : Char} {body : List Char} (h : IsReference c body)
    (rest : List Char) : reference? (body ++ ';' :: rest) = some (c, body.length) := by
  have htake : (body ++ ';' :: rest).take body.length = body := List.take_left
  refine reference?_eq_some_iff.2 ⟨h.length_le, ?_, ?_, ?_, h.ne_replacement⟩
  · rw [List.getElem?_append_right (Nat.le_refl _), Nat.sub_self]
    rfl
  · rw [htake]
    exact fun b hb => h.isBody hb
  · rw [htake]
    exact h.decode

namespace Escape

theorem length_written (e : Escape) : e.written.length = e.piece.size := by
  cases e with
  | copied c h => rfl
  | reference c body h => simp [written, piece, Piece.size]

theorem value_piece (e : Escape) : e.piece.value = e.char := by
  cases e <;> rfl

/-- What is written for a character is its first piece. -/
theorem pieces_written_append (e : Escape) (rest : List Char) :
    pieces (e.written ++ rest) = e.piece :: pieces rest := by
  cases e with
  | copied c h => exact (Begins.char fun hc => absurd hc h).pieces_eq
  | reference c body h =>
    have hdrop : ('&' :: (body ++ ';' :: rest)).drop (body.length + 2) = rest := by simp
    have hbegins : Begins '&' (body ++ ';' :: rest) (.reference c (body.length + 2)) :=
      .reference rfl (h.reference?_append rest)
    show pieces ('&' :: (body ++ [';'] ++ rest)) = _
    rw [List.append_assoc, List.singleton_append, hbegins.pieces_eq]
    exact congrArg _ (congrArg pieces hdrop)

end Escape

theorem pieces_escaped (es : List Escape) : pieces (escaped es) = es.map Escape.piece := by
  induction es with
  | nil => simp [escaped, pieces]
  | cons e es ih =>
    show pieces (e.written ++ escaped es) = _
    rw [e.pieces_written_append, ih]
    rfl

theorem collapsesFrom_piece_cons (e : Escape) (n : Nat) (ps : List Piece) :
    collapsesFrom n (e.piece :: ps) =
      (e.place? n).toList ++ collapsesFrom (n + e.written.length) ps := by
  cases e with
  | copied c h => rfl
  | reference c body h =>
    have hlast : (n : Int) + ↑(body.length + 2) - 1 = n + body.length + 1 := by omega
    rw [Escape.length_written]
    exact congrArg (fun last => (⟨.ofInt n, .ofInt last⟩ : Collapse) ::
      collapsesFrom (n + (body.length + 2)) ps) hlast

/-- The references of some characters collapse where they stand behind those before. -/
theorem collapsesFrom_map_piece (before es : List Escape) :
    collapsesFrom (escaped before).length (es.map Escape.piece) =
      (es.zipIdx before.length).filterMap fun x =>
        x.1.place? (escaped ((before ++ es).take x.2)).length := by
  induction es generalizing before with
  | nil => rfl
  | cons e es ih =>
    have hnext : (escaped before).length + e.written.length = (escaped (before ++ [e])).length := by
      simp [escaped]
    have hlist : before ++ e :: es = (before ++ [e]) ++ es := by simp
    have htake : (before ++ e :: es).take before.length = before := List.take_left
    rw [List.map_cons, collapsesFrom_piece_cons, hnext, ih, List.zipIdx_cons,
      List.filterMap_cons, htake, hlist, List.length_append]
    cases e.place? (escaped before).length <;> rfl

/-- The escaped form of a text is unescaped to the text, and what collapses are the references. -/
theorem unescape_escaped (es : List Escape) :
    unescape (escaped es) = ⟨es.map Escape.char, referencePlaces es⟩ := by
  have hvalue : (es.map Escape.piece).map Piece.value = es.map Escape.char := by
    rw [List.map_map]
    exact List.map_congr_left fun e _ => e.value_piece
  have hplaces : collapsesFrom 0 (es.map Escape.piece) = referencePlaces es :=
    collapsesFrom_map_piece [] es
  rw [unescape, pieces_escaped, hvalue, hplaces]

/-- An escaped reference is unescaped once, and an ampersand may be written in more than one way. -/
example : unescape "a&amp;lt;&#x26;#38;".toList =
    ⟨"a&lt;&#38;".toList, [⟨⟨1⟩, ⟨5⟩⟩, ⟨⟨9⟩, ⟨14⟩⟩]⟩ := by
  cbv

end Newsfeed.Text
