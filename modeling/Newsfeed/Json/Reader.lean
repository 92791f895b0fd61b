import Newsfeed.Json
import Newsfeed.Text.Numeral
import Newsfeed.Text.Units

/-!
# Reading JSON

`Json.read?` reads a text that is one JSON value in the strict sense: white space is space, tab,
line feed and carriage return, a text holds no raw control below U+0020, a number has no superfluous
zero and nothing follows the value.
-/

namespace Newsfeed.Json

/-! ## Tokens -/

/-- Whether a character separates tokens. -/
def isSpace (c : Char) : Bool := c = ' ' || c = '\t' || c = '\n' || c = '\r'

/-- What is left after the white space. -/
def skipSpace (cs : List Char) : List Char := cs.dropWhile isSpace

/-- A part of a text in quotes: a character, or a unit that is written by its number. -/
inductive Mark
  | char (c : Char)
  | unit (u : UInt16)
deriving DecidableEq

/-- The character that a backslash and a letter stand for. -/
def escaped? : Char → Option Char
  | '"' => some '"'
  | '\\' => some '\\'
  | '/' => some '/'
  | 'b' => some '\x08'
  | 'f' => some '\x0c'
  | 'n' => some '\n'
  | 'r' => some '\r'
  | 't' => some '\t'
  | _ => none

/-- The unit that four hexadecimal digits write. -/
def unit? (a b c d : Char) : Option UInt16 := (Numeral.read? 16 [a, b, c, d]).map UInt16.ofNat

/-- The marks up to the closing quote, and what follows it. -/
def readMarks : List Char → Option (List Mark × List Char)
  | [] => none
  | '"' :: rest => some ([], rest)
  | '\\' :: 'u' :: a :: b :: c :: d :: rest => do
    let u ← unit? a b c d
    let (marks, rest) ← readMarks rest
    some (.unit u :: marks, rest)
  | '\\' :: c :: rest => do
    let c ← escaped? c
    let (marks, rest) ← readMarks rest
    some (.char c :: marks, rest)
  | c :: rest =>
    if c = '\\' ∨ c.toNat < 0x20 then none
    else do
      let (marks, rest) ← readMarks rest
      some (.char c :: marks, rest)

/-- The text that marks write, unless one of its surrogates has no partner. -/
def textOf? : List Mark → Option (List Char)
  | [] => some []
  | .char c :: marks => (textOf? marks).map (c :: ·)
  | [.unit u] => if Text.isLead u || Text.isTrail u then none else some [Text.decodeUnit u]
  | .unit u :: .unit v :: marks =>
    if Text.isLead u && Text.isTrail v then (textOf? marks).map (Text.decodePair u v :: ·)
    else if Text.isLead u || Text.isTrail u then none
    else (textOf? (.unit v :: marks)).map (Text.decodeUnit u :: ·)
  | .unit u :: .char c :: marks =>
    if Text.isLead u || Text.isTrail u then none
    else (textOf? (.char c :: marks)).map (Text.decodeUnit u :: ·)

/-- The text in quotes after an opening quote, if it is one, and what follows it. -/
def readText (cs : List Char) : Option (Option String × List Char) :=
  (readMarks cs).map fun (marks, rest) => ((textOf? marks).map String.ofList, rest)

/-- What is left after a fraction, if one stands there. -/
def skipFraction : List Char → Option (List Char)
  | '.' :: cs =>
    if (cs.head?.any Numeral.isDigit) then some (cs.dropWhile Numeral.isDigit) else none
  | cs => some cs

/-- What is left after an exponent, if one stands there. -/
def skipExponent : List Char → Option (List Char)
  | c :: cs =>
    if c = 'e' ∨ c = 'E' then
      let digits :=
        match cs with
        | '+' :: ds => ds
        | '-' :: ds => ds
        | ds => ds
      if digits.head?.any Numeral.isDigit then some (digits.dropWhile Numeral.isDigit) else none
    else some (c :: cs)
  | [] => some []

/-- The number that begins a text after its sign, and what follows it. -/
def readNumber (negative : Bool) (cs : List Char) : Option (Json × List Char) := do
  let digits := cs.takeWhile Numeral.isDigit
  let whole := cs.dropWhile Numeral.isDigit
  let n ← Numeral.read? 10 digits
  if digits.head? = some '0' ∧ digits.length ≠ 1 then none
  else
    let rest ← (skipFraction whole).bind skipExponent
    if whole.head?.any (· ∈ ['.', 'e', 'E']) ∨ (negative ∧ n = 0) then some (foreign, rest)
    else some (int (if negative then -(n : Int) else n), rest)

/-! ## Values -/

/-- Puts a field before the others of an object. An object with a name
that is no text is foreign. -/
def consField (name : Option String) (value : Json) : Json → Json
  | object fields =>
    match name with
    | some name => object ((name, value) :: fields)
    | none => foreign
  | _ => foreign

/-- Removes a word from the front of a text. -/
def dropWord (word : String) (cs : List Char) : Option (List Char) :=
  if word.toList.isPrefixOf cs then some (cs.drop word.length) else none

mutual

/-- The value that begins a text, and what follows it, with at most `fuel` calls in each other. -/
def readValue : (fuel : Nat) → List Char → Option (Json × List Char)
  | 0, _ => none
  | fuel + 1, cs =>
    match skipSpace cs with
    | '"' :: rest => (readText rest).map fun (s, rest) => (s.elim foreign string, rest)
    | '[' :: rest =>
      match skipSpace rest with
      | ']' :: rest => some (array [], rest)
      | rest => (readItems fuel rest).map fun (items, rest) => (array items, rest)
    | '\x7b' :: rest =>
      match skipSpace rest with
      | '\x7d' :: rest => some (object [], rest)
      | rest => readFields fuel rest
    | 'n' :: rest => (dropWord "ull" rest).map fun rest => (null, rest)
    | 't' :: rest => (dropWord "rue" rest).map fun rest => (bool true, rest)
    | 'f' :: rest => (dropWord "alse" rest).map fun rest => (bool false, rest)
    | '-' :: rest => readNumber true rest
    | rest => readNumber false rest

/-- The items of an array up to its end, and what follows it. -/
def readItems : (fuel : Nat) → List Char → Option (List Json × List Char)
  | 0, _ => none
  | fuel + 1, cs => do
    let (v, rest) ← readValue fuel cs
    match skipSpace rest with
    | ',' :: rest =>
      let (vs, rest) ← readItems fuel rest
      some (v :: vs, rest)
    | ']' :: rest => some ([v], rest)
    | _ => none

/-- An object from one of its fields on, and what follows it. -/
def readFields : (fuel : Nat) → List Char → Option (Json × List Char)
  | 0, _ => none
  | fuel + 1, cs =>
    match skipSpace cs with
    | '"' :: rest => do
      let (name, rest) ← readText rest
      match skipSpace rest with
      | ':' :: rest =>
        let (v, rest) ← readValue fuel rest
        match skipSpace rest with
        | ',' :: rest =>
          let (o, rest) ← readFields fuel rest
          some (consField name v o, rest)
        | '\x7d' :: rest => some (consField name v (object []), rest)
        | _ => none
      | _ => none
    | _ => none

end

/-- The value that a text is. -/
def read? (text : String) : Option Json := do
  let cs := text.toList
  let (v, rest) ← readValue (2 * cs.length + 2) cs
  if (skipSpace rest).isEmpty then some v else none

end Newsfeed.Json
