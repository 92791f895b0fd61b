/-!
# Numerals

Reading and writing whole numbers in positional notation.  `read?` takes a non-empty run of digits
of the given base, in either case, and nothing else; `write` gives the shortest decimal numeral, and
`read?_write` says that it is read back.
-/

namespace Newsfeed.Numeral

/-- The value of a digit, if it is one in the given base. -/
def digit? (base : Nat) (c : Char) : Option Nat :=
  let value :=
    if '0' ≤ c ∧ c ≤ '9' then c.toNat - '0'.toNat
    else if 'a' ≤ c ∧ c ≤ 'z' then c.toNat - 'a'.toNat + 10
    else if 'A' ≤ c ∧ c ≤ 'Z' then c.toNat - 'A'.toNat + 10
    else base
  if value < base then some value else none

/-- Whether a character is one of the ten decimal digits. -/
def isDigit (c : Char) : Bool := (digit? 10 c).isSome

/-- The number that a run of digits writes after the number `n`. -/
def readFrom? (base : Nat) : Nat → List Char → Option Nat
  | n, [] => some n
  | n, c :: cs => (digit? base c).bind fun d => readFrom? base (n * base + d) cs

/-- The number that a non-empty run of digits writes. -/
def read? (base : Nat) : List Char → Option Nat
  | [] => none
  | c :: cs => readFrom? base 0 (c :: cs)

def write (n : Nat) : List Char := Nat.toDigits 10 n

/-- The decimal numeral of an integer, with a minus sign if it is negative. -/
def writeInt : Int → List Char
  | .ofNat n => write n
  | .negSucc n => '-' :: write (n + 1)

def print (n : Int) : String := String.ofList (writeInt n)

/-! ## Reading what was written -/

theorem readFrom?_append (base n : Nat) (as bs : List Char) :
    readFrom? base n (as ++ bs) = (readFrom? base n as).bind fun m => readFrom? base m bs := by
  induction as generalizing n with
  | nil => rfl
  | cons a as ih =>
    cases h : digit? base a with
    | none => simp [readFrom?, h]
    | some d => simp [readFrom?, h, ih]

theorem digit?_digitChar {d : Nat} (h : d < 10) : digit? 10 d.digitChar = some d := by
  have : ∀ d < 10, digit? 10 (Nat.digitChar d) = some d := by decide
  exact this d h

theorem readFrom?_toDigits (n : Nat) : readFrom? 10 0 (Nat.toDigits 10 n) = some n := by
  induction n using Nat.strongRecOn with
  | ind n ih =>
    by_cases h : n < 10
    · simp [Nat.toDigits_of_lt_base h, readFrom?, digit?_digitChar h]
    · have hd := Nat.toDigits_append_toDigits (b := 10) (n := n / 10) (d := n % 10) (by decide)
        (by omega) (Nat.mod_lt _ (by decide))
      rw [Nat.toDigits_of_lt_base (Nat.mod_lt _ (by decide)), Nat.div_add_mod n 10] at hd
      rw [← hd, readFrom?_append, ih (n / 10) (by omega)]
      simp only [Option.bind_some, readFrom?, digit?_digitChar (Nat.mod_lt n (by decide)),
        Option.some.injEq]
      omega

theorem write_ne_nil (n : Nat) : write n ≠ [] :=
  List.ne_nil_of_length_pos Nat.length_toDigits_pos

theorem read?_write (n : Nat) : read? 10 (write n) = some n := by
  cases h : write n with
  | nil => exact absurd h (write_ne_nil n)
  | cons c cs => rw [read?, ← h, write, readFrom?_toDigits]

end Newsfeed.Numeral
