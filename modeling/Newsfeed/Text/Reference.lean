import Newsfeed.Text.Numeral
import Newsfeed.Text.Reference.Capital
import Newsfeed.Text.Reference.SmallFirst
import Newsfeed.Text.Reference.SmallSecond

/-!
# Character references

A character reference stands for one character: `&name;` for a named one, `&#D;` and `&#xH;` for a
code point in decimal or hexadecimal digits.  `decode?` gives the character from what stands between
the ampersand and the semicolon.
-/

namespace Newsfeed.Reference

/-- The named references, by the initial of the name. -/
def byInitial : List (Char × List (String × Nat)) :=
  [('A', capitalA), ('B', capitalB), ('C', capitalC), ('D', capitalD), ('E', capitalE),
    ('F', capitalF), ('G', capitalG), ('H', capitalH), ('I', capitalI), ('J', capitalJ),
    ('K', capitalK), ('L', capitalL), ('M', capitalM), ('N', capitalN), ('O', capitalO),
    ('P', capitalP), ('Q', capitalQ), ('R', capitalR), ('S', capitalS), ('T', capitalT),
    ('U', capitalU), ('V', capitalV), ('W', capitalW), ('X', capitalX), ('Y', capitalY),
    ('Z', capitalZ), ('a', smallA), ('b', smallB), ('c', smallC), ('d', smallD), ('e', smallE),
    ('f', smallF), ('g', smallG), ('h', smallH), ('i', smallI), ('j', smallJ), ('k', smallK),
    ('l', smallL), ('m', smallM), ('n', smallN), ('o', smallO), ('p', smallP), ('q', smallQ),
    ('r', smallR), ('s', smallS), ('t', smallT), ('u', smallU), ('v', smallV), ('w', smallW),
    ('x', smallX), ('y', smallY), ('z', smallZ)]

/-- The character a name stands for. -/
def named? (name : List Char) : Option Char := do
  let initial ← name.head?
  let names ← byInitial.lookup initial
  let code ← names.lookup (String.ofList name)
  some (Char.ofNat code)

/-- The character with a given code point, unless it is a control below U+0020 other than tab, line
feed, form feed and carriage return. -/
def numbered? (code : Nat) : Option Char :=
  if code.isValidChar ∧ (0x20 ≤ code ∨ code = 0x9 ∨ code = 0xA ∨ code = 0xC ∨ code = 0xD) then
    some (Char.ofNat code)
  else none

/-- The character that the reference with the given body stands for. -/
def decode? : List Char → Option Char
  | '#' :: 'x' :: digits => (Numeral.read? 16 digits).bind numbered?
  | '#' :: 'X' :: digits => (Numeral.read? 16 digits).bind numbered?
  | '#' :: digits => (Numeral.read? 10 digits).bind numbered?
  | name => named? name

end Newsfeed.Reference
