import Newsfeed.Text.Units

/-!
# Characters among units

Units may hold characters of which nothing is lost, with other units between them that need not make
sense: halves of pairs, or what stands in their place after an edit.  `Spells` says so, and such
characters are read back in their order (`Spells.sublist_decode`), because no half of a pair before
a character can take a unit from it.
-/

namespace Newsfeed.Text

theorem isTrail_leadOf {c : Char} (h : 0x10000 ≤ c.toNat) : isTrail (leadOf c) = false := by
  have := toNat_valid c
  simp only [isTrail, toNat_leadOf h, Bool.and_eq_false_iff, decide_eq_false_iff_not]
  omega

/-- A unit before a character is read without it. -/
theorem decode_cons_encodeChar_append (u : UInt16) (c : Char) (us : List UInt16) :
    decode (u :: (encodeChar c ++ us)) = decodeUnit u :: c :: decode us := by
  rw [← decode_encodeChar_append c us]
  unfold encodeChar
  split
  next h => simp [decode, isTrail_ofNat_toNat h]
  next h => simp [decode, isTrail_leadOf (Nat.le_of_not_lt h)]

/-- Reading starts afresh at every character. -/
theorem decode_append_encodeChar (us : List UInt16) (c : Char) (vs : List UInt16) :
    decode (us ++ (encodeChar c ++ vs)) = decode us ++ c :: decode vs := by
  induction us using decode.induct with
  | case1 => exact decode_encodeChar_append c vs
  | case2 u => exact decode_cons_encodeChar_append u c vs
  | case3 u v rest h ih =>
    rw [List.cons_append, List.cons_append, decode, if_pos h, ih, decode, if_pos h]
    rfl
  | case4 u v rest h ih =>
    rw [List.cons_append] at ih
    rw [List.cons_append, List.cons_append, decode, if_neg h, ih, decode, if_neg h]
    rfl

/-- The units hold the characters in this order, perhaps with other units between them. -/
inductive Spells : List UInt16 → List Char → Prop
  | nil (us : List UInt16) : Spells us []
  | cons (others : List UInt16) (c : Char) {us : List UInt16} {cs : List Char} (h : Spells us cs) :
    Spells (others ++ (encodeChar c ++ us)) (c :: cs)

namespace Spells

variable {us vs : List UInt16} {cs ds : List Char}

theorem append_right (h : Spells us cs) (vs : List UInt16) : Spells (us ++ vs) cs := by
  induction h with
  | nil us => exact .nil _
  | cons others c _ ih =>
    rw [List.append_assoc, List.append_assoc]
    exact .cons others c ih

theorem append_left (h : Spells us cs) (vs : List UInt16) : Spells (vs ++ us) cs := by
  cases h with
  | nil => exact .nil _
  | cons others c h =>
    rw [← List.append_assoc]
    exact .cons (vs ++ others) c h

theorem append (h : Spells us cs) (h' : Spells vs ds) : Spells (us ++ vs) (cs ++ ds) := by
  induction h with
  | nil us => exact h'.append_left us
  | cons others c _ ih =>
    rw [List.append_assoc, List.append_assoc]
    exact .cons others c ih

theorem encode (cs : List Char) : Spells (encode cs) cs := by
  induction cs with
  | nil => exact .nil _
  | cons c cs ih => exact .cons [] c ih

theorem sublist (h : Spells us cs) (hs : ds.Sublist cs) : Spells us ds := by
  induction h generalizing ds with
  | nil us => rw [List.sublist_nil.1 hs]; exact .nil us
  | cons others c _ ih =>
    cases hs with
    | cons _ hs => exact ((ih hs).append_left _).append_left _
    | cons_cons _ hs => exact .cons others c (ih hs)

/-- What units hold is read from them. -/
theorem sublist_decode (h : Spells us cs) : cs.Sublist (decode us) := by
  induction h with
  | nil us => exact List.nil_sublist _
  | cons others c _ ih =>
    rw [decode_append_encodeChar]
    exact (ih.cons_cons c).trans (List.sublist_append_right _ _)

end Spells

end Newsfeed.Text
