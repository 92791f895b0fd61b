import Newsfeed.Offset

/-!
# UTF-16 units

A text shown to a reader is addressed in UTF-16 units: a character of the basic plane is one unit, a
supplementary character a pair of surrogates.  `encode` writes a text in units and `decode` reads
units back, putting U+FFFD where a surrogate has no partner, so `decode_encode` holds for every
text.  `length`, `pairIndices` and `slice` measure, list and cut in the same units.
-/

namespace Newsfeed.Text

/-- The number of units of a character. -/
def width (c : Char) : Nat := if c.toNat < 0x10000 then 1 else 2

/-- The first half of the pair of a supplementary character. -/
def leadOf (c : Char) : UInt16 := UInt16.ofNat (0xD800 + (c.toNat - 0x10000) / 0x400)

/-- The second half of the pair of a supplementary character. -/
def trailOf (c : Char) : UInt16 := UInt16.ofNat (0xDC00 + (c.toNat - 0x10000) % 0x400)

def encodeChar (c : Char) : List UInt16 :=
  if c.toNat < 0x10000 then [UInt16.ofNat c.toNat] else [leadOf c, trailOf c]

def encode (cs : List Char) : List UInt16 := cs.flatMap encodeChar

def length : List Char → Nat
  | [] => 0
  | c :: cs => width c + length cs

/-- Whether a unit is the first half of a pair. -/
def isLead (u : UInt16) : Bool := 0xD800 ≤ u.toNat && u.toNat < 0xDC00

/-- Whether a unit is the second half of a pair. -/
def isTrail (u : UInt16) : Bool := 0xDC00 ≤ u.toNat && u.toNat < 0xE000

/-- The character of a unit that stands alone. -/
def decodeUnit (u : UInt16) : Char :=
  if isLead u || isTrail u then '\uFFFD' else Char.ofNat u.toNat

/-- The supplementary character of a pair. -/
def decodePair (u v : UInt16) : Char :=
  Char.ofNat (0x10000 + (u.toNat - 0xD800) * 0x400 + (v.toNat - 0xDC00))

/-- The text of a list of units, with U+FFFD for each surrogate without a partner. -/
def decode : List UInt16 → List Char
  | [] => []
  | [u] => [decodeUnit u]
  | u :: v :: rest =>
    if isLead u && isTrail v then decodePair u v :: decode rest
    else decodeUnit u :: decode (v :: rest)

/-- The places of the pairs in a text that begins at unit `n`. -/
def pairIndicesFrom (n : Nat) : List Char → List Nat
  | [] => []
  | c :: cs =>
    if width c = 2 then n :: pairIndicesFrom (n + width c) cs
    else pairIndicesFrom (n + width c) cs

/-- The places of the pairs in a text, in ascending order. -/
def pairIndices (cs : List Char) : List Nat := pairIndicesFrom 0 cs

/-- The text between two offsets, if they lie in the text and in this order. -/
def slice (cs : List Char) (start stop : Offset .display) : Option (List Char) := do
  let i ← start.index?
  let j ← stop.index?
  if i ≤ j ∧ j ≤ length cs then some (decode (((encode cs).drop i).take (j - i))) else none

/-! ## Encoding and decoding -/

theorem width_eq_one_or_two (c : Char) : width c = 1 ∨ width c = 2 := by
  unfold width
  split <;> simp

theorem length_encodeChar (c : Char) : (encodeChar c).length = width c := by
  unfold encodeChar width
  split <;> rfl

@[simp]
theorem encode_nil : encode [] = [] := rfl

@[simp]
theorem encode_cons (c : Char) (cs : List Char) :
    encode (c :: cs) = encodeChar c ++ encode cs := rfl

@[simp]
theorem encode_append (as bs : List Char) : encode (as ++ bs) = encode as ++ encode bs :=
  List.flatMap_append

@[simp]
theorem length_nil : length [] = 0 := rfl

@[simp]
theorem length_cons (c : Char) (cs : List Char) : length (c :: cs) = width c + length cs := rfl

@[simp]
theorem length_append (as bs : List Char) : length (as ++ bs) = length as + length bs := by
  induction as with
  | nil => simp
  | cons a as ih => simp [ih, Nat.add_assoc]

@[simp]
theorem length_encode (cs : List Char) : (encode cs).length = length cs := by
  induction cs with
  | nil => rfl
  | cons c cs ih => simp [length_encodeChar, ih]

theorem toNat_valid (c : Char) : c.toNat < 0xD800 ∨ 0xDFFF < c.toNat ∧ c.toNat < 0x110000 :=
  c.valid

theorem toNat_leadOf {c : Char} (h : 0x10000 ≤ c.toNat) :
    (leadOf c).toNat = 0xD800 + (c.toNat - 0x10000) / 0x400 := by
  have := toNat_valid c
  exact UInt16.toNat_ofNat_of_lt' (by simp only [UInt16.size]; omega)

theorem toNat_trailOf (c : Char) : (trailOf c).toNat = 0xDC00 + (c.toNat - 0x10000) % 0x400 := by
  exact UInt16.toNat_ofNat_of_lt' (by simp only [UInt16.size]; omega)

theorem isLead_leadOf {c : Char} (h : 0x10000 ≤ c.toNat) : isLead (leadOf c) = true := by
  have := toNat_valid c
  simp only [isLead, toNat_leadOf h, Bool.and_eq_true, decide_eq_true_eq]
  omega

theorem isTrail_trailOf (c : Char) : isTrail (trailOf c) = true := by
  simp only [isTrail, toNat_trailOf, Bool.and_eq_true, decide_eq_true_eq]
  omega

theorem decodePair_leadOf_trailOf {c : Char} (h : 0x10000 ≤ c.toNat) :
    decodePair (leadOf c) (trailOf c) = c := by
  rw [decodePair, toNat_leadOf h, toNat_trailOf]
  have : 0x10000 + (0xD800 + (c.toNat - 0x10000) / 0x400 - 0xD800) * 0x400 +
      (0xDC00 + (c.toNat - 0x10000) % 0x400 - 0xDC00) = c.toNat := by omega
  rw [this, Char.ofNat_toNat]

theorem toNat_ofNat_toNat {c : Char} (h : c.toNat < 0x10000) :
    (UInt16.ofNat c.toNat).toNat = c.toNat := UInt16.toNat_ofNat_of_lt' h

theorem isLead_ofNat_toNat {c : Char} (h : c.toNat < 0x10000) :
    isLead (UInt16.ofNat c.toNat) = false := by
  have := toNat_valid c
  simp only [isLead, toNat_ofNat_toNat h, Bool.and_eq_false_iff, decide_eq_false_iff_not]
  omega

theorem isTrail_ofNat_toNat {c : Char} (h : c.toNat < 0x10000) :
    isTrail (UInt16.ofNat c.toNat) = false := by
  have := toNat_valid c
  simp only [isTrail, toNat_ofNat_toNat h, Bool.and_eq_false_iff, decide_eq_false_iff_not]
  omega

theorem decodeUnit_ofNat_toNat {c : Char} (h : c.toNat < 0x10000) :
    decodeUnit (UInt16.ofNat c.toNat) = c := by
  simp [decodeUnit, isLead_ofNat_toNat h, isTrail_ofNat_toNat h, toNat_ofNat_toNat h,
    Char.ofNat_toNat, -UInt16.toNat_ofNat']

theorem decode_encodeChar_append (c : Char) (us : List UInt16) :
    decode (encodeChar c ++ us) = c :: decode us := by
  unfold encodeChar
  split
  next h =>
    cases us with
    | nil => simp [decode, decodeUnit_ofNat_toNat h]
    | cons u us => simp [decode, isLead_ofNat_toNat h, decodeUnit_ofNat_toNat h]
  next h =>
    have h := Nat.le_of_not_lt h
    simp [decode, isLead_leadOf h, isTrail_trailOf, decodePair_leadOf_trailOf h]

theorem decode_encode_append (cs : List Char) (us : List UInt16) :
    decode (encode cs ++ us) = cs ++ decode us := by
  induction cs with
  | nil => rfl
  | cons c cs ih => rw [encode_cons, List.append_assoc, decode_encodeChar_append, ih]; rfl

/-- A text is read back from its units. -/
@[simp]
theorem decode_encode (cs : List Char) : decode (encode cs) = cs := by
  simpa [decode] using decode_encode_append cs []

end Newsfeed.Text
