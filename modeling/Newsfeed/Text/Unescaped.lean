import Newsfeed.Offset
import Newsfeed.Text.Blank
import Newsfeed.Text.Reference

/-!
# Escaped text

The server escapes the text of a post with character references and counts its entities in the
escaped form.  `pieces` cuts a raw text into single characters and the references that collapse into
one character, and `unescape` puts the decoded text beside the raw stretch of each collapse, so that
offsets can follow.  Whatever is no reference is copied.
-/

namespace Newsfeed

/-- A reference that collapsed: its first and its last character in the raw text, the ampersand and
the semicolon. -/
structure Collapse where
  /-- The ampersand. -/
  first : Offset .raw
  /-- The semicolon. -/
  last : Offset .raw
deriving DecidableEq

/-- By how many characters the text became shorter. -/
def Collapse.shrinkage (e : Collapse) : Int64 := e.last.distance e.first

/-- A piece of a raw text and what becomes of it. -/
inductive Piece
  /-- A character that is copied. -/
  | char (c : Char)
  /-- A reference of `size` characters that becomes `c`. -/
  | reference (c : Char) (size : Nat)
deriving DecidableEq

/-- The character a piece becomes. -/
def Piece.value : Piece → Char
  | .char c => c
  | .reference c _ => c

/-- The number of raw characters of a piece. -/
def Piece.size : Piece → Nat
  | .char _ => 1
  | .reference _ n => n

/-- The decoded form of a raw text. -/
structure Unescaped where
  /-- The decoded text. -/
  text : List Char
  /-- What collapsed, in ascending order. -/
  collapses : List Collapse
deriving DecidableEq

namespace Text

/-- The length of the longest body that a reference may have. -/
def maxBody : Nat := 32

/-- Whether a character may stand in the body of a reference. -/
def isBody (c : Char) : Bool := c ≠ ';' && c ≠ '&' && !isBlank c

/-- The character and the body length of the reference that an ampersand before `rest` opens. A
reference to U+FFFD does not count. -/
def reference? (rest : List Char) : Option (Char × Nat) :=
  let body := (rest.take (maxBody + 1)).takeWhile isBody
  if body.length ≤ maxBody ∧ rest[body.length]? = some ';' then
    match Reference.decode? body with
    | some c => if c = '\uFFFD' then none else some (c, body.length)
    | none => none
  else none

/-- The pieces of a raw text. -/
def pieces : List Char → List Piece
  | [] => []
  | c :: rest =>
    if c = '&' then
      match reference? rest with
      | some (d, n) => .reference d (n + 2) :: pieces (rest.drop (n + 1))
      | none => .char c :: pieces rest
    else .char c :: pieces rest
termination_by cs => cs.length

/-- The collapses among pieces of which the first begins at character `n`. -/
def collapsesFrom (n : Nat) : List Piece → List Collapse
  | [] => []
  | .char _ :: ps => collapsesFrom (n + 1) ps
  | .reference _ size :: ps =>
    ⟨.ofInt n, .ofInt (n + size - 1)⟩ :: collapsesFrom (n + size) ps

/-- Decodes the references of a raw text. -/
def unescape (raw : List Char) : Unescaped :=
  let ps := pieces raw
  ⟨ps.map Piece.value, collapsesFrom 0 ps⟩

end Text

end Newsfeed
