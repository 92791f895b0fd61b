import Newsfeed.Text.Quoted.Invisible

/-!
# Quoted texts

The diagnostic form of a text stands in double quotes.  A quote, a backslash and a few controls are
written with a backslash; a character without a visible form of its own is written as its code
point, `\u` and the hexadecimal digits in braces.
-/

namespace Newsfeed.Quoted

/-- Whether a code point lies in one of the ranges. -/
def within (ranges : List (Nat × Nat)) (n : Nat) : Bool :=
  ranges.any fun r => r.1 ≤ n && n ≤ r.2

/-- Whether a character shows when it stands alone. -/
def isVisible (c : Char) : Bool :=
  let n := c.toNat
  !within unprintable n && !within fillers n && !within extending n

/-- The letter that follows the backslash when a character is written that way. -/
def letter? : Char → Option Char
  | '\x00' => some '0'
  | '\t' => some 't'
  | '\r' => some 'r'
  | '\n' => some 'n'
  | '"' => some '"'
  | '\\' => some '\\'
  | _ => none

/-- The written form of a character. -/
def writeChar (c : Char) : List Char :=
  match letter? c with
  | some l => ['\\', l]
  | none =>
    if isVisible c then [c]
    else ['\\', 'u', '\x7b'] ++ Nat.toDigits 16 c.toNat ++ ['\x7d']

def write (cs : List Char) : List Char := '"' :: cs.flatMap writeChar ++ ['"']

def print (s : String) : String := String.ofList (write s.toList)

end Newsfeed.Quoted
