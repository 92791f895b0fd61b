import Newsfeed.Json.Reader
import Newsfeed.Json.Writer

/-!
# Written texts and numbers

The reader takes a written text back character by character: `readMarks_writeChar` says
which mark it finds for each, and `textOf?_cons_markOf` that the mark stands for the
character.  A written number is read whole when what follows goes on neither its digits nor
with a fraction or an exponent (`Ends`).
-/

namespace Newsfeed

namespace Json

/-! ## Texts -/

/-- The mark under which a character is written. -/
def markOf (c : Char) : Mark :=
  if letter? c = none ∧ c.toNat < 0x20 then .unit (UInt16.ofNat c.toNat) else .char c

theorem escaped?_of_letter? {c l : Char} (h : letter? c = some l) :
    escaped? l = some c ∧ l ≠ 'u' := by
  unfold letter? at h
  split at h <;> cases h <;> decide

/-- A control character is read from the digits that are written for it. -/
theorem unit?_digitChar {n : Nat} (h : n < 0x20) :
    unit? '0' '0' (Nat.digitChar (n / 16)) (Nat.digitChar (n % 16)) = some (UInt16.ofNat n) := by
  have hall : ∀ n < 0x20, unit? '0' '0' (Nat.digitChar (n / 16)) (Nat.digitChar (n % 16)) =
      some (UInt16.ofNat n) := by decide
  exact hall n h

theorem readMarks_writeChar (c : Char) (cs : List Char) :
    readMarks (writeChar c ++ cs) =
      (readMarks cs).map fun (marks, rest) => (markOf c :: marks, rest) := by
  rw [writeChar, markOf]
  cases hletter : letter? c with
  | some l =>
    obtain ⟨hescaped, hu⟩ := escaped?_of_letter? hletter
    cases hmarks : readMarks cs <;> simp [readMarks, hescaped, hu, hmarks]
  | none =>
    by_cases hcontrol : c.toNat < 0x20
    · cases hmarks : readMarks cs <;> simp [readMarks, unit?_digitChar hcontrol, hcontrol, hmarks]
    · have hquote : c ≠ '"' := by
        rintro rfl
        exact absurd hletter (by decide)
      have hslash : c ≠ '\\' := by
        rintro rfl
        exact absurd hletter (by decide)
      cases hmarks : readMarks cs <;> simp [readMarks, hslash, hcontrol, hmarks]

/-- A mark stands for its character, whatever follows it. -/
theorem textOf?_cons_markOf (c : Char) (marks : List Mark) :
    textOf? (markOf c :: marks) = (textOf? marks).map (c :: ·) := by
  rw [markOf]
  split
  next h =>
    have hlt : c.toNat < 0x10000 := Nat.lt_trans h.2 (by decide)
    have hlead := Text.isLead_ofNat_toNat hlt
    have htrail := Text.isTrail_ofNat_toNat hlt
    have hunit := Text.decodeUnit_ofNat_toNat hlt
    -- how a unit is read depends on the mark behind it
    rcases marks with _ | ⟨_ | _, marks⟩ <;> simp [textOf?, hlead, htrail, hunit]
  next => rfl

theorem readMarks_flatMap_writeChar (cs rest : List Char) :
    readMarks (cs.flatMap writeChar ++ '"' :: rest) = some (cs.map markOf, rest) := by
  induction cs with
  | nil => rfl
  | cons c cs ih =>
    rw [List.flatMap_cons, List.append_assoc, readMarks_writeChar, ih]
    rfl

theorem textOf?_map_markOf (cs : List Char) : textOf? (cs.map markOf) = some cs := by
  induction cs with
  | nil => rfl
  | cons c cs ih =>
    rw [List.map_cons, textOf?_cons_markOf, ih]
    rfl

/-- A written text is read back behind its opening quote. -/
theorem readText_flatMap_writeChar (s : String) (rest : List Char) :
    readText (s.toList.flatMap writeChar ++ '"' :: rest) = some (some s, rest) := by
  rw [readText, readMarks_flatMap_writeChar]
  simp [textOf?_map_markOf]

end Json

/-! ## Numbers -/

namespace Numeral

theorem isDigit_digitChar {d : Nat} (h : d < 10) : isDigit (Nat.digitChar d) = true := by
  rw [isDigit, digit?_digitChar h]
  rfl

theorem write_of_lt {n : Nat} (h : n < 10) : write n = [Nat.digitChar n] :=
  Nat.toDigits_of_lt_base h

theorem write_of_le {n : Nat} (h : 10 ≤ n) :
    write n = write (n / 10) ++ [Nat.digitChar (n % 10)] := by
  have hlast := Nat.mod_lt n (show 0 < 10 by decide)
  rw [← write_of_lt hlast, write, write, write,
    Nat.toDigits_append_toDigits (by decide) (by omega) hlast, Nat.div_add_mod]

/-- A numeral is a run of digits, and begins with a zero for zero alone. -/
theorem exists_write_eq_cons (n : Nat) :
    ∃ d cs, write n = Nat.digitChar d :: cs ∧ d < 10 ∧ (∀ c ∈ cs, isDigit c = true) ∧
      (d = 0 → n = 0) := by
  induction n using Nat.strongRecOn with
  | ind n ih =>
    by_cases hn : n < 10
    · exact ⟨n, [], write_of_lt hn, hn, nofun, id⟩
    · obtain ⟨d, cs, hwrite, hd, hdigits, hzero⟩ := ih (n / 10) (by omega)
      refine ⟨d, cs ++ [Nat.digitChar (n % 10)], ?_, hd, ?_, fun h => ?_⟩
      · rw [write_of_le (Nat.le_of_not_lt hn), hwrite, List.cons_append]
      · refine List.forall_mem_append.2 ⟨hdigits, List.forall_mem_singleton.2 ?_⟩
        exact isDigit_digitChar (Nat.mod_lt n (by decide))
      · have := hzero h
        omega

end Numeral

namespace Json

/-- A text that does not go on a number. -/
def Ends (cs : List Char) : Prop :=
  ∀ c ∈ cs.head?, Numeral.isDigit c = false ∧ c ∉ ['.', 'e', 'E']

theorem ends_nil : Ends [] := nofun

theorem ends_cons {c : Char} {cs : List Char} (h : Numeral.isDigit c = false)
    (h' : c ∉ ['.', 'e', 'E']) : Ends (c :: cs) := by
  rintro c' ⟨⟩
  exact ⟨h, h'⟩

section Ends

variable {rest : List Char} (h : Ends rest)

include h

theorem Ends.takeWhile_isDigit : rest.takeWhile Numeral.isDigit = [] := by
  cases rest with
  | nil => rfl
  | cons c rest => exact List.takeWhile_cons_of_neg (Bool.eq_false_iff.1 (h c rfl).1)

theorem Ends.dropWhile_isDigit : rest.dropWhile Numeral.isDigit = rest := by
  cases rest with
  | nil => rfl
  | cons c rest => exact List.dropWhile_cons_of_neg (Bool.eq_false_iff.1 (h c rfl).1)

theorem Ends.skip : (skipFraction rest).bind skipExponent = some rest := by
  cases rest with
  | nil => rfl
  | cons c rest =>
    have hc := (h c rfl).2
    simp only [List.mem_cons, List.not_mem_nil, or_false, not_or] at hc
    simp [skipFraction, skipExponent, hc]

theorem Ends.any_head? : (rest.head?.any fun c => decide (c ∈ ['.', 'e', 'E'])) = false := by
  cases rest with
  | nil => rfl
  | cons c rest => exact decide_eq_false (h c rfl).2

end Ends

/-- A number is read up to its end. -/
theorem readNumber_write {negative : Bool} {n : Nat} {rest : List Char}
    (hsign : negative = true → n ≠ 0) (hrest : Ends rest) :
    readNumber negative (Numeral.write n ++ rest) =
      some (int (if negative then -(n : Int) else n), rest) := by
  obtain ⟨d, cs, hwrite, hd, hdigits, hzero⟩ := Numeral.exists_write_eq_cons n
  have hall : ∀ c ∈ Numeral.write n, Numeral.isDigit c = true :=
    hwrite ▸ List.forall_mem_cons.2 ⟨Numeral.isDigit_digitChar hd, hdigits⟩
  have hshort : ¬ ((Numeral.write n).head? = some '0' ∧ (Numeral.write n).length ≠ 1) := by
    rintro ⟨hhead, hlong⟩
    rw [hwrite, List.head?_cons, Option.some_inj] at hhead
    have hfirst : ∀ d < 10, Nat.digitChar d = '0' → d = 0 := by decide
    rw [hzero (hfirst d hd hhead)] at hlong
    exact hlong rfl
  simp only [readNumber, List.takeWhile_append_of_pos hall, List.dropWhile_append_of_pos hall,
    hrest.takeWhile_isDigit, hrest.dropWhile_isDigit, List.append_nil, Numeral.read?_write,
    Option.bind_eq_bind, Option.bind_some, if_neg hshort, hrest.skip, hrest.any_head?]
  simpa using hsign

end Json

end Newsfeed
