import Newsfeed.Text.Numeral
import Newsfeed.Word

/-!
# Offsets and spans

An offset is a place in a text, counted in one of two spaces: characters of the text as it was
sent (`Space.raw`) or UTF-16 units of the text as it is shown (`Space.display`).  The space is part
of the type, so offsets of different spaces do not mix.  Arithmetic saturates at the bounds of a
signed 64-bit word: an offset that leaves the text stays a value and is refused where it is used.
-/

namespace Newsfeed

/-- What an offset counts. -/
inductive Space
  /-- Characters of the text as it was sent. -/
  | raw
  /-- UTF-16 units of the text as it is shown. -/
  | display
deriving DecidableEq

/-- The word a printed offset carries in front. -/
def Space.tag : Space → String
  | .raw => "raw"
  | .display => "display"

/-- A place in a text. -/
structure Offset (s : Space) where
  /-- The count, which may lie outside the text. -/
  value : Int64
deriving DecidableEq

namespace Offset

variable {s : Space}

def zero : Offset s := ⟨0⟩

instance : LT (Offset s) := ⟨fun a b => a.value < b.value⟩

instance : LE (Offset s) := ⟨fun a b => a.value ≤ b.value⟩

instance (a b : Offset s) : Decidable (a < b) := inferInstanceAs (Decidable (a.value < b.value))

instance (a b : Offset s) : Decidable (a ≤ b) := inferInstanceAs (Decidable (a.value ≤ b.value))

def toInt (a : Offset s) : Int := a.value.toInt

def ofInt (n : Int) : Offset s := ⟨Word.clamp n⟩

/-- Moves an offset right by `n`, saturating. -/
def shift (a : Offset s) (n : Int) : Offset s := ofInt (a.toInt + n)

/-- How far `a` lies behind `b`, saturating. -/
def distance (a b : Offset s) : Int64 := Word.clamp (a.toInt - b.toInt)

/-- The offset as an index, unless it is negative. -/
def index? (a : Offset s) : Option Nat :=
  if 0 ≤ a.toInt then some a.toInt.toNat else none

/-- The printed form: the space, a colon and the count. -/
def print (a : Offset s) : String := s.tag ++ ":" ++ Numeral.print a.toInt

theorem lt_iff_toInt_lt {a b : Offset s} : a < b ↔ a.toInt < b.toInt := Int64.lt_iff_toInt_lt

theorem le_iff_toInt_le {a b : Offset s} : a ≤ b ↔ a.toInt ≤ b.toInt := Int64.le_iff_toInt_le

theorem toInt_ofInt (n : Int) :
    (ofInt n : Offset s).toInt = max Word.least (min n Word.greatest) := Word.toInt_clamp n

theorem toInt_shift (a : Offset s) (n : Int) :
    (a.shift n).toInt = max Word.least (min (a.toInt + n) Word.greatest) := Word.toInt_clamp _

@[simp]
theorem shift_zero (a : Offset s) : a.shift 0 = a := by
  simp [shift, ofInt, toInt]

theorem index?_eq_some_iff {a : Offset s} {n : Nat} : a.index? = some n ↔ a.toInt = n := by
  unfold index?
  split <;> simp <;> omega

end Offset

/-- A stretch of text, from `start` up to but not including `stop`. -/
structure Span (s : Space) where
  /-- The first place inside. -/
  start : Offset s
  /-- The first place behind. -/
  stop : Offset s
deriving DecidableEq

end Newsfeed
