import Newsfeed.Json
import Newsfeed.Text.Numeral

/-!
# Writing JSON

`Json.write` gives the compact form and `Json.writePretty` the form with one item a
line and two blanks of indentation.  Of a text only the quote, the backslash and the
controls below U+0020 are escaped.
-/

namespace Newsfeed.Json

/-- The letter that follows the backslash when a character is written that way. -/
def letter? : Char → Option Char
  | '"' => some '"'
  | '\\' => some '\\'
  | '\x08' => some 'b'
  | '\t' => some 't'
  | '\n' => some 'n'
  | '\x0c' => some 'f'
  | '\r' => some 'r'
  | _ => none

/-- The written form of a character in a text. -/
def writeChar (c : Char) : List Char :=
  match letter? c with
  | some l => ['\\', l]
  | none =>
    if c.toNat < 0x20 then
      ['\\', 'u', '0', '0', Nat.digitChar (c.toNat / 16), Nat.digitChar (c.toNat % 16)]
    else [c]

/-- The written form of a text, before its closing quote and what follows it. -/
def writeText (s : String) (rest : List Char) : List Char :=
  '"' :: s.toList.flatMap writeChar ++ '"' :: rest

/-! ## The compact form

Each function takes the text that follows what it writes. -/

mutual

def writeBefore : Json → List Char → List Char
  | null, rest => "null".toList ++ rest
  | bool true, rest => "true".toList ++ rest
  | bool false, rest => "false".toList ++ rest
  | int n, rest => Numeral.writeInt n ++ rest
  | string s, rest => writeText s rest
  | array items, rest => '[' :: writeItems items (']' :: rest)
  | object fields, rest => '\x7b' :: writeFields fields ('\x7d' :: rest)
  | foreign, rest => "null".toList ++ rest

/-- The compact form of the items of an array. -/
def writeItems : List Json → List Char → List Char
  | [], rest => rest
  | [v], rest => writeBefore v rest
  | v :: w :: vs, rest => writeBefore v (',' :: writeItems (w :: vs) rest)

/-- The compact form of the fields of an object. -/
def writeFields : List (String × Json) → List Char → List Char
  | [], rest => rest
  | [(name, v)], rest => writeText name (':' :: writeBefore v rest)
  | (name, v) :: field :: fields, rest =>
    writeText name (':' :: writeBefore v (',' :: writeFields (field :: fields) rest))

end

def write (v : Json) : String := String.ofList (writeBefore v [])

/-! ## The form with one item a line -/

def newLine (depth : Nat) : List Char := '\n' :: List.replicate (2 * depth) ' '

mutual

/-- The indented form of a value that stands at the given depth. -/
def writeAt (depth : Nat) : Json → List Char
  | array [] => "[]".toList
  | array (v :: vs) =>
    '[' :: newLine (depth + 1) ++ writeAt (depth + 1) v ++ writeMoreItems depth vs
  | object [] => ['\x7b', '\x7d']
  | object ((name, v) :: fields) =>
    '\x7b' :: newLine (depth + 1) ++ writeText name (": ".toList ++ writeAt (depth + 1) v)
      ++ writeMoreFields depth fields
  | v => writeBefore v []

/-- The items after the first of an array at the given depth, and its end. -/
def writeMoreItems (depth : Nat) : List Json → List Char
  | [] => newLine depth ++ [']']
  | v :: vs => ',' :: newLine (depth + 1) ++ writeAt (depth + 1) v ++ writeMoreItems depth vs

/-- The fields after the first of an object at the given depth, and its end. -/
def writeMoreFields (depth : Nat) : List (String × Json) → List Char
  | [] => newLine depth ++ ['\x7d']
  | (name, v) :: fields =>
    ',' :: newLine (depth + 1) ++ writeText name (": ".toList ++ writeAt (depth + 1) v)
      ++ writeMoreFields depth fields

end

def writePretty (v : Json) : String := String.ofList (writeAt 0 v)

end Newsfeed.Json
