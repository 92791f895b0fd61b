import Newsfeed.Json.Record

/-!
# Settings of a feed

How many items a feed holds, how many a page has, and whether a refresh waits its turn.
-/

namespace Newsfeed

/-- Whether a refresh is refused while a request is out. -/
inductive RefreshPolicy
  /-- A refresh waits its turn like any other request. -/
  | gated
  /-- A refresh is always sent, and may race with another request. -/
  | ungated
deriving DecidableEq

namespace RefreshPolicy

def name : RefreshPolicy → String
  | gated => "Gated"
  | ungated => "Ungated"

/-- The policy with exactly the given name. -/
def named? (text : String) : Option RefreshPolicy := [gated, ungated].find? (·.name = text)

/-- The policy with the given name in any mixture of cases. -/
def ofName? (text : String) : Option RefreshPolicy :=
  [gated, ungated].find? fun p =>
    p.name.toList.map Char.toLower = text.toList.map Char.toLower

def toJson (p : RefreshPolicy) : Json := .string p.name

/-- Reads a policy: its name, or an object that gives the name and nothing else. -/
def ofJson? : Json → Option RefreshPolicy
  | .string s => named? s
  | .object [(s, .null)] => named? s
  | _ => none

end RefreshPolicy

/-- How a feed behaves. -/
structure Settings where
  /-- The number of items from which on no page is added. -/
  capacity : Nat
  refresh : RefreshPolicy
  /-- The number of items that a source is asked for. -/
  pageSize : Nat
deriving DecidableEq

namespace Settings

/-- The settings where nothing else is said. -/
def standard : Settings := ⟨200, .gated, 30⟩

def fieldNames : List String := ["capacity", "refresh_policy", "page_size"]

def toJson (s : Settings) : Json :=
  .object [("capacity", .int s.capacity), ("refresh_policy", s.refresh.toJson),
    ("page_size", .int s.pageSize)]

/-- Reads settings. An absent field has its standard value. -/
def ofJson? (v : Json) : Option Settings := do
  let r ← Record.ofJson? fieldNames v
  let capacity ← r.defaulted "capacity" Json.word? standard.capacity
  let refresh ← r.defaulted "refresh_policy" RefreshPolicy.ofJson? standard.refresh
  let pageSize ← r.defaulted "page_size" Json.word? standard.pageSize
  some { capacity, refresh, pageSize }

end Settings

end Newsfeed
