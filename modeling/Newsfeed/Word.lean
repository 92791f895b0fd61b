/-!
# 64-bit words

Ids and offsets are signed 64-bit words, and capacities and positions unsigned ones.  Sums of
signed words are taken over the integers and then brought back to the nearest word by `Word.clamp`,
whose value as an integer is given by `toInt_clamp`; a word that needs no clamping is left alone
(`clamp_toInt`).
-/

namespace Newsfeed.Word

/-- The least signed 64-bit word. -/
def least : Int := -0x8000000000000000

/-- The greatest signed 64-bit word. -/
def greatest : Int := 0x7FFFFFFFFFFFFFFF

/-- The number of unsigned 64-bit words. -/
def unsignedBound : Nat := 0x10000000000000000

/-- The word nearest to an integer. -/
def clamp (n : Int) : Int64 := Int64.ofInt (max least (min n greatest))

theorem toInt_clamp (n : Int) : (clamp n).toInt = max least (min n greatest) := by
  unfold clamp
  exact Int64.toInt_ofInt_of_le (by simp only [least, greatest]; omega)
    (by simp only [least, greatest]; omega)

theorem least_le_toInt (a : Int64) : least ≤ a.toInt := by
  have := Int64.le_toInt a
  simp only [least]
  omega

theorem toInt_le_greatest (a : Int64) : a.toInt ≤ greatest := by
  have := Int64.toInt_lt a
  simp only [greatest]
  omega

@[simp]
theorem clamp_toInt (a : Int64) : clamp a.toInt = a := by
  apply Int64.toInt_inj.1
  have h₁ := least_le_toInt a
  have h₂ := toInt_le_greatest a
  rw [toInt_clamp]
  omega

theorem toInt_clamp_of_mem {n : Int} (h₁ : least ≤ n) (h₂ : n ≤ greatest) :
    (clamp n).toInt = n := by
  rw [toInt_clamp]
  omega

/-- The word an integer denotes, if it is one. -/
def ofInt? (n : Int) : Option Int64 :=
  if least ≤ n ∧ n ≤ greatest then some (Int64.ofInt n) else none

@[simp]
theorem ofInt?_toInt (a : Int64) : ofInt? a.toInt = some a := by
  simp [ofInt?, least_le_toInt, toInt_le_greatest]

end Newsfeed.Word
