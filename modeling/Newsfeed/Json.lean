/-!
# JSON values

The values that records of this library are read from and written to.  Numbers are whole, texts are
sequences of characters, and the fields of an object keep their order, so that a repeated field can
be told.  Everything else that is well-formed JSON is `Json.foreign`: it may stand where a value is
skipped, and nowhere else.
-/

namespace Newsfeed

inductive Json
  | null
  | bool (b : Bool)
  | int (n : Int)
  | string (s : String)
  | array (items : List Json)
  | object (fields : List (String × Json))
  /-- A number with a fraction or an exponent, minus zero, a text with half of a surrogate pair, or
  an object with such a text among its names. -/
  | foreign

namespace Json

/-- A value that may be absent. -/
def ofOption {α : Type} (write : α → Json) : Option α → Json
  | none => null
  | some a => write a

def ofList {α : Type} (write : α → Json) (as : List α) : Json := array (as.map write)

end Json

end Newsfeed
