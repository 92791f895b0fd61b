import Newsfeed.Settings.Blank
import Newsfeed.Text.Numeral
import Newsfeed.Word

/-!
# Tokens of a settings file

Names, whole numbers, and the other scalar values that may stand in fields that are passed over:
numbers with a sign, a fraction or an exponent, texts in quotes with escapes or in raw form, and
single characters.  Each reader takes a token from the front and gives what is left.
-/

namespace Newsfeed.Settings

/-! ## Names -/

/-- Whether a symbol may begin a name. -/
def isNameStart (s : Symbol) : Bool := s.any fun c => c.isAlpha || c = '_'

/-- Whether a symbol may stand in a name. -/
def isNamePart (s : Symbol) : Bool := s.any fun c => c.isAlphanum || c = '_'

/-- Whether a symbol may stand in a name that is marked as raw. -/
def isRawNamePart (s : Symbol) : Bool := isNamePart s || s.isOneOf ['.', '+', '-']

/-- The string that some symbols spell. -/
def spelled (ss : List Symbol) : String := String.ofList (Symbol.toChars ss)

/-- A name: letters, digits and underscores, or more after a raw mark. -/
def readName (ss : List Symbol) : Option (String × List Symbol) :=
  match ss with
  | some 'r' :: some '#' :: rest =>
    if rest.head?.any isRawNamePart then
      some (spelled (rest.takeWhile isRawNamePart), rest.dropWhile isRawNamePart)
    else none
  | some 'r' :: some '"' :: _ => none
  | s :: _ =>
    let rest := ss.dropWhile isNamePart
    if isNameStart s && !rest.head?.any isRawNamePart then
      some (spelled (ss.takeWhile isNamePart), rest)
    else none
  | [] => none

/-- What is left after a given word. -/
def dropText (word : String) (ss : List Symbol) : Option (List Symbol) :=
  if (Symbol.ofText word).isPrefixOf ss then some (ss.drop word.length) else none

/-- What is left after a given word that no name goes on from. -/
def dropWord (word : String) (ss : List Symbol) : Option (List Symbol) :=
  match dropText word ss with
  | some rest => if rest.head?.any isNamePart then none else some rest
  | none => none

/-! ## Numbers -/

/-- Whether a symbol is a decimal digit. -/
def isDigit (s : Symbol) : Bool := s.any Numeral.isDigit

/-- Whether a symbol may stand in a whole number of any base. -/
def isNumberPart (s : Symbol) : Bool := s.any fun c => (Numeral.digit? 16 c).isSome || c = '_'

/-- The base that the front of a number gives, and what is left. -/
def readBase : List Symbol → Nat × List Symbol
  | some '0' :: some 'x' :: ss => (16, ss)
  | some '0' :: some 'b' :: ss => (2, ss)
  | some '0' :: some 'o' :: ss => (8, ss)
  | ss => (10, ss)

/-- A whole number without a sign. Underscores may stand between and after its digits. -/
def readNumber (ss : List Symbol) : Option (Nat × List Symbol) := do
  let (base, ss) := readBase ss
  let digits := Symbol.toChars (ss.takeWhile isNumberPart)
  if digits.head? = some '_' then none
  else
    let n ← Numeral.read? base (digits.filter (· ≠ '_'))
    some (n, ss.dropWhile isNumberPart)

/-- A whole number that is an unsigned 64-bit word. -/
def readWord (ss : List Symbol) : Option (Nat × List Symbol) := do
  let (n, rest) ← readNumber ss
  if n < Word.unsignedBound then some (n, rest) else none

/-- What is left after a whole number that is a 64-bit word, a signed one if a sign stands before
it. -/
def skipWord : List Symbol → Option (List Symbol)
  | some '+' :: ss => do
    let (n, rest) ← readNumber ss
    if (n : Int) ≤ Word.greatest then some rest else none
  | some '-' :: ss => do
    let (n, rest) ← readNumber ss
    if Word.least ≤ -(n : Int) then some rest else none
  | ss => (readWord ss).map Prod.snd

/-- What is left after a sign, if one stands there. -/
def skipSign : List Char → List Char
  | '+' :: cs => cs
  | '-' :: cs => cs
  | cs => cs

/-- Whether a symbol may stand in a number with a fraction or an exponent. -/
def isDecimalPart (s : Symbol) : Bool := isDigit s || s.isOneOf ['e', 'E', '.', '+', '-', '_']

/-- Whether a text is a decimal number: digits on one side of a point at least, and perhaps an
exponent. -/
def isDecimal (cs : List Char) : Bool :=
  let cs := skipSign cs
  let whole := cs.takeWhile Numeral.isDigit
  let rest := cs.dropWhile Numeral.isDigit
  let afterPoint := if rest.head? = some '.' then rest.drop 1 else rest
  let fraction := if rest.head? = some '.' then afterPoint.takeWhile Numeral.isDigit else []
  let rest := afterPoint.drop fraction.length
  !(whole ++ fraction).isEmpty &&
    match rest with
    | [] => true
    | e :: exponent =>
      (e = 'e' || e = 'E') && !(skipSign exponent).isEmpty
        && (skipSign exponent).all Numeral.isDigit

/-- What is left after a decimal number. -/
def skipDecimal (ss : List Symbol) : Option (List Symbol) :=
  if isDecimal (Symbol.toChars (ss.takeWhile isDecimalPart)) then some (ss.dropWhile isDecimalPart)
  else none

/-- What is left after a number of any form: a whole one that fits a word if it can be
read so, else a decimal one. -/
def skipNumber (ss : List Symbol) : Option (List Symbol) :=
  let digits := if ss.head?.any (·.isOneOf ['+', '-']) then ss.drop 1 else ss
  let longer := (digits.takeWhile isNumberPart).length < (digits.takeWhile isDecimalPart).length
  (if longer then none else skipWord ss) <|> skipDecimal ss

/-! ## Texts and characters -/

/-- What is left after the escape that a backslash opened. -/
def skipEscape : List Symbol → Option (List Symbol)
  | some 'x' :: some a :: some b :: ss => (Numeral.read? 16 [a, b]).map fun _ => ss
  | some 'u' :: some '\x7b' :: ss =>
    let inside := ss.takeWhile (· ≠ some '\x7d')
    match ss.drop inside.length with
    | some '\x7d' :: rest => do
      let n ← Numeral.read? 16 (← inside.mapM id)
      if inside.length ≤ 6 ∧ n.isValidChar then some rest else none
    | _ => none
  | s :: ss => if s.isOneOf ['\'', '"', '\\', 'n', 'r', 't', '0'] then some ss else none
  | [] => none

/-- What is left after the closing quote of a text, with at most `fuel` parts before it. -/
def skipText : (fuel : Nat) → List Symbol → Option (List Symbol)
  | 0, _ => none
  | _ + 1, [] => none
  | _ + 1, none :: _ => none
  | fuel + 1, some c :: ss =>
    if c = '"' then some ss
    else if c = '\\' then (skipEscape ss).bind (skipText fuel)
    else skipText fuel ss

/-- What is left after a raw text that the given symbols close. -/
def skipRawText (close : List Symbol) : List Symbol → Option (List Symbol)
  | [] => none
  | none :: _ => none
  | some c :: ss =>
    if close.isPrefixOf (some c :: ss) then some ((some c :: ss).drop close.length)
    else skipRawText close ss

/-- What is left after a text in quotes, raw or with escapes. -/
def skipString (ss : List Symbol) : Option (List Symbol) :=
  match ss with
  | some '"' :: rest => skipText (rest.length + 1) rest
  | some 'r' :: rest =>
    let hashes := rest.takeWhile (· = some '#')
    match rest.drop hashes.length with
    | some '"' :: rest => skipRawText (some '"' :: hashes) rest
    | _ => none
  | _ => none

/-- What is left after a single character in quotes. -/
def skipChar : List Symbol → Option (List Symbol)
  | some '\'' :: some '\\' :: ss => do
    match ← skipEscape ss with
    | some '\'' :: rest => some rest
    | _ => none
  | some '\'' :: some c :: some '\'' :: rest => if c = '\'' then none else some rest
  | _ => none

end Newsfeed.Settings
