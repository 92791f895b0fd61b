import Newsfeed.Text.Blank
import Newsfeed.Text.Units

/-!
# Units of decoded text

A decoded text is as long as the units it is read from, paired or not, and trimming makes no text
longer.
-/

namespace Newsfeed.Text

theorem width_decodeUnit (u : UInt16) : width (decodeUnit u) = 1 := by
  have hu := u.toNat_lt
  unfold decodeUnit
  split
  · decide
  · by_cases h : u.toNat.isValidChar
    · rw [Char.ofNat, dif_pos h]
      exact if_pos hu
    · rw [Char.ofNat, dif_neg h]
      decide

theorem width_decodePair {u v : UInt16} (hu : isLead u = true) (hv : isTrail v = true) :
    width (decodePair u v) = 2 := by
  simp only [isLead, isTrail, Bool.and_eq_true, decide_eq_true_eq] at hu hv
  have hvalid : (0x10000 + (u.toNat - 0xD800) * 0x400 + (v.toNat - 0xDC00)).isValidChar :=
    .inr ⟨by omega, by omega⟩
  have hwide : ¬ 0x10000 + (u.toNat - 0xD800) * 0x400 + (v.toNat - 0xDC00) < 0x10000 := by omega
  rw [decodePair, Char.ofNat, dif_pos hvalid]
  exact if_neg hwide

/-- A decoded text has the length of the units it is read from, whatever they are. -/
@[simp]
theorem length_decode (us : List UInt16) : length (decode us) = us.length := by
  induction us using decode.induct with
  | case1 => rfl
  | case2 u => simp [decode, width_decodeUnit]
  | case3 u v rest h ih =>
    obtain ⟨hu, hv⟩ := Bool.and_eq_true_iff.1 h
    rw [decode, if_pos h, length_cons, width_decodePair hu hv, ih]
    simp only [List.length_cons]
    omega
  | case4 u v rest h ih =>
    rw [decode, if_neg h, length_cons, width_decodeUnit, ih]
    simp only [List.length_cons]
    omega

theorem length_perm {as bs : List Char} (h : as.Perm bs) : length as = length bs := by
  induction h with
  | nil => rfl
  | cons c _ ih => rw [length_cons, length_cons, ih]
  | swap c d _ => simp only [length_cons]; omega
  | trans _ _ ih ih' => exact ih.trans ih'

theorem length_le_of_sublist {as bs : List Char} (h : as.Sublist bs) : length as ≤ length bs := by
  induction h with
  | slnil => exact Nat.le_refl 0
  | cons c _ ih => rw [length_cons]; omega
  | cons_cons c _ ih => rw [length_cons, length_cons]; omega

theorem length_trimEnd_le (cs : List Char) : length (trimEnd cs) ≤ length cs := by
  obtain ⟨bs, hbs, -⟩ := exists_append_trimEnd cs
  have := congrArg length hbs
  rw [length_append] at this
  omega

end Newsfeed.Text
