import Newsfeed.Json
import Newsfeed.Word

/-!
# Records in JSON

A record is written as an object of named fields or as an array of its values in the order of their
declaration.  `Record.ofJson?` takes either form apart: names that are not declared are passed over,
a declared name that occurs twice and an array that is too long are refused.  What a field may leave
out is decided where the field is taken.
-/

namespace Newsfeed

/-- The fields of a record that are present. -/
structure Record where
  /-- Whether the values were given by place. -/
  positional : Bool
  /-- The declared fields that are present, each once. -/
  fields : List (String × Json)

namespace Record

/-- Whether no two fields have one name. -/
def allDistinct : List (String × Json) → Bool
  | [] => true
  | (name, _) :: fields => !fields.any (·.1 = name) && allDistinct fields

/-- Takes a record with the given field names apart. -/
def ofJson? (names : List String) : Json → Option Record
  | .object fields =>
    let known := fields.filter fun field => names.contains field.1
    if allDistinct known then some ⟨false, known⟩ else none
  | .array values => if values.length ≤ names.length then some ⟨true, names.zip values⟩ else none
  | _ => none

/-- The value of a field, if it is present. -/
def get? (r : Record) (name : String) : Option Json := r.fields.lookup name

variable {α : Type}

/-- A field that must be present. -/
def required (r : Record) (name : String) (read : Json → Option α) : Option α :=
  (r.get? name).bind read

/-- A field that has the value `a` when it is absent. -/
def defaulted (r : Record) (name : String) (read : Json → Option α) (a : α) : Option α :=
  match r.get? name with
  | none => some a
  | some v => read v

def nullable (read : Json → Option α) : Json → Option (Option α)
  | .null => some none
  | v => (read v).map some

/-- A field that may be null or absent. -/
def optional (r : Record) (name : String) (read : Json → Option α) : Option (Option α) :=
  r.defaulted name (nullable read) none

/-- A field that may be null, and absent only where fields have names. -/
def optionalByName (r : Record) (name : String) (read : Json → Option α) : Option (Option α) :=
  if r.positional then r.required name (nullable read) else r.optional name read

end Record

namespace Json

def string? : Json → Option String
  | string s => some s
  | _ => none

def int64? : Json → Option Int64
  | int n => Word.ofInt? n
  | _ => none

def word? : Json → Option Nat
  | int n => if 0 ≤ n ∧ n < Word.unsignedBound then some n.toNat else none
  | _ => none

def list? {α : Type} (read : Json → Option α) : Json → Option (List α)
  | array items => items.mapM read
  | _ => none

end Json

end Newsfeed
