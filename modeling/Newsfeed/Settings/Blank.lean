import Newsfeed.Settings.Symbol

/-!
# Blanks in a settings file

Space, tab, line feed and carriage return separate tokens, and so do comments: from two slashes to
the end of the line, or between a slash with an asterisk and an asterisk with a slash, which nest.
-/

namespace Newsfeed.Settings

/-- Whether a symbol separates tokens. -/
def isSpace (s : Symbol) : Bool := s.isOneOf [' ', '\t', '\n', '\r']

/-- Where a reader stands among blanks. -/
inductive BlankState
  /-- Between comments. -/
  | outside
  /-- In a comment that ends with the line. -/
  | line
  /-- In a comment, inside `depth` others. -/
  | block (depth : Nat)

/-- What is left after the blanks, unless a comment is not closed or a slash opens none. -/
def skipFrom : BlankState → List Symbol → Option (List Symbol)
  | .outside, [] => some []
  | .outside, some '/' :: some '/' :: ss => skipFrom .line ss
  | .outside, some '/' :: some '*' :: ss => skipFrom (.block 0) ss
  | .outside, s :: ss =>
    if s = some '/' then none else if isSpace s then skipFrom .outside ss else some (s :: ss)
  | .line, [] => some []
  | .line, some '\n' :: ss => skipFrom .outside ss
  | .line, _ :: ss => skipFrom .line ss
  | .block _, [] => none
  | .block depth, some '/' :: some '*' :: ss => skipFrom (.block (depth + 1)) ss
  | .block 0, some '*' :: some '/' :: ss => skipFrom .outside ss
  | .block (depth + 1), some '*' :: some '/' :: ss => skipFrom (.block depth) ss
  | .block depth, _ :: ss => skipFrom (.block depth) ss

/-- What is left after the blanks. -/
def skipBlank (ss : List Symbol) : Option (List Symbol) := skipFrom .outside ss

/-- What is left after the blanks and a character that must follow them. -/
def skipPast (c : Char) (ss : List Symbol) : Option (List Symbol) := do
  match ← skipBlank ss with
  | s :: rest => if s = some c then some rest else none
  | [] => none

end Newsfeed.Settings
