import Newsfeed.Offset

/-!
# Offsets as numbers

Offsets compare like integers, and an offset made of a number that fits into a word is that number.
-/

namespace Newsfeed.Offset

variable {s : Space}

theorem le_trans {a b c : Offset s} : a ≤ b → b ≤ c → a ≤ c := Int64.le_trans

theorem le_antisymm {a b : Offset s} (hab : a ≤ b) (hba : b ≤ a) : a = b :=
  congrArg mk (Int64.le_antisymm hab hba)

theorem toInt_inj {a b : Offset s} : a.toInt = b.toInt ↔ a = b :=
  ⟨fun h => congrArg mk (Int64.toInt_inj.1 h), congrArg toInt⟩

theorem le_total (a b : Offset s) : a ≤ b ∨ b ≤ a := Int64.le_total a.value b.value

theorem lt_of_le_of_lt {a b c : Offset s} : a ≤ b → b < c → a < c := Int64.lt_of_le_of_lt

theorem lt_of_lt_of_le {a b c : Offset s} : a < b → b ≤ c → a < c := Int64.lt_of_lt_of_le

theorem toInt_le_greatest (o : Offset s) : o.toInt ≤ Word.greatest := Word.toInt_le_greatest o.value

theorem toInt_ofInt_of_le {n : Nat} (h : (n : Int) ≤ Word.greatest) :
    (ofInt n : Offset s).toInt = n := by
  rw [toInt_ofInt]
  simp only [Word.least] at h ⊢
  omega

theorem ofInt_le_ofInt {m n : Int} (h : m ≤ n) : (ofInt m : Offset s) ≤ ofInt n := by
  rw [le_iff_toInt_le, toInt_ofInt, toInt_ofInt]
  omega

/-- Saturation keeps a number that is not negative between zero and itself. -/
theorem toInt_ofInt_mem (n : Nat) :
    0 ≤ (ofInt n : Offset s).toInt ∧ (ofInt n : Offset s).toInt ≤ n := by
  rw [toInt_ofInt]
  simp only [Word.least, Word.greatest]
  omega

/-- Moving right on from a number that saturated ends where the sum does. -/
theorem shift_ofInt {m : Int} (hm : Word.least ≤ m) (n : Nat) :
    (ofInt m : Offset s).shift n = ofInt (m + n) := by
  rw [← toInt_inj, toInt_shift, toInt_ofInt, toInt_ofInt]
  simp only [Word.least, Word.greatest] at hm ⊢
  omega

/-- The offset as a number, 0 if it is negative. -/
def count (o : Offset s) : Nat := o.toInt.toNat

theorem count_le_count {a b : Offset s} (h : a ≤ b) : a.count ≤ b.count :=
  Int.toNat_le_toNat (le_iff_toInt_le.1 h)

theorem count_eq {o : Offset s} (h : 0 ≤ o.toInt) : (o.count : Int) = o.toInt :=
  Int.toNat_of_nonneg h

end Newsfeed.Offset
