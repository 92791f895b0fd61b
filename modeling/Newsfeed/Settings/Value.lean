import Newsfeed.Settings.Token

/-!
# Values in a settings file

A field that is unknown may have any well-formed value, which is passed over: a scalar, a list of
values, of pairs or of named fields, with a name or not, or `Some` value.

A value stands on a level, and what it holds stands deeper: the value of `Some` by one level,
and what stands in a list by two, one for the list and one for its element.  Values deeper than
the levels reach are refused.
-/

namespace Newsfeed.Settings

/-- The number of levels, of which the record takes the first. -/
def maxLevels : Nat := 128

/-- The words that are values. -/
def valueWords : List String :=
  ["true", "false", "None", "inf", "+inf", "-inf", "NaN", "+NaN", "-NaN"]

/-- What stands between the commas of a list. -/
inductive Element
  /-- A value. -/
  | value
  /-- A value, a colon and a value. -/
  | pair
  /-- A name, a colon and a value. -/
  | field

abbrev Skip := List Symbol → Option (List Symbol)

/-- What is left after a colon and a value. -/
def skipColonValue (skip : Skip) (ss : List Symbol) : Option (List Symbol) := do
  let rest ← skipPast ':' ss
  let rest ← skipBlank rest
  skip rest

/-- What is left after an element, whose values `skip` reads. -/
def skipElement (skip : Skip) : Element → Skip
  | .value, ss => skip ss
  | .pair, ss => do
    let rest ← skip ss
    skipColonValue skip rest
  | .field, ss => do
    let (_, rest) ← readName ss
    skipColonValue skip rest

/-- What is left after the elements of a list and its end, with at most `fuel` elements. -/
def skipElements (skip : Skip) (element : Element) (close : Char) : (fuel : Nat) → Skip
  | 0, _ => none
  | fuel + 1, ss => do
    match ← skipBlank ss with
    | [] => none
    | s :: rest =>
      if s = some close then some rest
      else
        let rest ← skipElement skip element (s :: rest)
        match ← skipBlank rest with
        | some ',' :: rest => skipElements skip element close fuel rest
        | t :: rest => if t = some close then some rest else none
        | [] => none

/-- Whether the inside of parentheses begins with a name and a colon. -/
def beginsWithField (ss : List Symbol) : Option Bool := do
  let ss ← skipBlank ss
  match readName ss with
  | none => some false
  | some (_, rest) =>
    let rest ← skipBlank rest
    some (rest.head? = some (some ':'))

/-- What is left after the inside of parentheses and their end. -/
def skipParentheses (skip : Skip) (inside : List Symbol) : Option (List Symbol) := do
  let element := if ← beginsWithField inside then .field else .value
  skipElements skip element ')' (inside.length + 1) inside

/-- What is left after a list of any form: in parentheses, perhaps after a name, in brackets, or in
braces. A name may also stand alone. -/
def skipList (skip : Option Skip) (ss : List Symbol) : Option (List Symbol) :=
  match readName ss with
  | some (_, rest) => do
    match ← skipBlank rest with
    | some '(' :: inside => skipParentheses (← skip) inside
    | rest => some rest
  | none => do
    match ss with
    | some '(' :: inside => skipParentheses (← skip) inside
    | some '[' :: inside => skipElements (← skip) .value ']' (inside.length + 1) inside
    | some '\x7b' :: inside => skipElements (← skip) .pair '\x7d' (inside.length + 1) inside
    | _ => none

/-- What is left after a value that is no list. -/
def skipScalar (ss : List Symbol) : Option (List Symbol) :=
  match ss with
  | some '\'' :: _ => skipChar ss
  | some '.' :: _ => skipDecimal ss
  | some c :: _ =>
    if c = '"' ∨ c = 'r' then skipString ss
    else if Numeral.isDigit c ∨ c = '+' ∨ c = '-' then skipNumber ss
    else none
  | _ => none

/-- What is left after `Some` and its value. The value stands in parentheses, or may follow without
them if the file says so. -/
def skipSome (implicitSome : Bool) (skip : Skip) (ss : List Symbol) : Option (List Symbol) := do
  match ← skipBlank ss with
  | some '(' :: rest =>
    let rest ← skipBlank rest
    let rest ← skip rest
    match ← skipBlank rest with
    | some ',' :: rest => skipPast ')' rest
    | some ')' :: rest => some rest
    | _ => none
  | rest => if implicitSome then skip rest else none

/-- What is left after a value, with the given number of levels for it and what it holds. -/
def skipValue (implicitSome : Bool) : (levels : Nat) → Skip
  | 0, _ => none
  | levels + 1, ss =>
    match dropText "()" ss <|> valueWords.findSome? (dropWord · ss) with
    | some rest => some rest
    | none =>
      match dropWord "Some" ss with
      | some rest => skipSome implicitSome (skipValue implicitSome levels) rest
      | none =>
        let deeper : Option Skip :=
          match levels with
          | 0 => none
          | levels + 1 => some (skipValue implicitSome levels)
        skipList deeper ss <|> skipScalar ss

end Newsfeed.Settings
