import Newsfeed.Text.Numeral
import Newsfeed.Text.Quoted

/-!
# Diagnostic forms

The diagnostic form of a value shows its type and parts on one line: a record by its name and
fields, an optional value as `None` or `Some(…)`, a list in brackets and a text in quotes.
-/

namespace Newsfeed.Diagnostic

/-- A record: its name, and its fields in braces. -/
def record (name : String) (fields : List (String × String)) : String :=
  name ++ " \x7b " ++ ", ".intercalate (fields.map fun f => f.1 ++ ": " ++ f.2) ++ " \x7d"

/-- A value wrapped in a name. -/
def wrapped (name value : String) : String := name ++ "(" ++ value ++ ")"

def optional {α : Type} (print : α → String) : Option α → String
  | none => "None"
  | some a => wrapped "Some" (print a)

def list {α : Type} (print : α → String) (as : List α) : String :=
  "[" ++ ", ".intercalate (as.map print) ++ "]"

def bool (b : Bool) : String := if b then "true" else "false"

def int64 (n : Int64) : String := Numeral.print n.toInt

def nat (n : Nat) : String := Numeral.print n

end Newsfeed.Diagnostic
