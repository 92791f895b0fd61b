import Newsfeed.Settings
import Newsfeed.Settings.Value

/-!
# Reading a settings file

A settings file holds one record: `(capacity: 200, refresh_policy: Gated, page_size: 30)`, with its
name before it or not, in any order, with a comma after the last field or not.  A field that is
absent has its standard value, one that is unknown is passed over if its value is well-formed and
not too deep, and one that is repeated is refused.
-/

namespace Newsfeed.Settings

/-! ## The record -/

/-- The fields read so far. -/
structure Draft where
  capacity : Option Nat
  refresh : Option RefreshPolicy
  pageSize : Option Nat

/-- The settings that a draft gives. -/
def Draft.settings (d : Draft) : Settings :=
  ⟨d.capacity.getD standard.capacity, d.refresh.getD standard.refresh,
    d.pageSize.getD standard.pageSize⟩

/-- A policy by its name. -/
def readPolicy (ss : List Symbol) : Option (RefreshPolicy × List Symbol) := do
  let (name, rest) ← readName ss
  let policy ← RefreshPolicy.named? name
  some (policy, rest)

def Draft.readField (implicitSome : Bool) (d : Draft) (name : String) (ss : List Symbol) :
    Option (Draft × List Symbol) :=
  if name = "capacity" then
    if d.capacity.isSome then none
    else (readWord ss).map fun (n, rest) => ({ d with capacity := some n }, rest)
  else if name = "refresh_policy" then
    if d.refresh.isSome then none
    else (readPolicy ss).map fun (p, rest) => ({ d with refresh := some p }, rest)
  else if name = "page_size" then
    if d.pageSize.isSome then none
    else (readWord ss).map fun (n, rest) => ({ d with pageSize := some n }, rest)
  else (skipValue implicitSome (maxLevels - 1) ss).map fun rest => (d, rest)

def Draft.readFields (implicitSome : Bool) :
    (fuel : Nat) → Draft → List Symbol → Option (Draft × List Symbol)
  | 0, _, _ => none
  | fuel + 1, d, ss => do
    match ← skipBlank ss with
    | some ')' :: rest => some (d, rest)
    | ss =>
      let (name, rest) ← readName ss
      let rest ← skipPast ':' rest
      let rest ← skipBlank rest
      let (d, rest) ← d.readField implicitSome name rest
      match ← skipBlank rest with
      | some ',' :: rest => Draft.readFields implicitSome fuel d rest
      | some ')' :: rest => some (d, rest)
      | _ => none

/-! ## The front of a file -/

/-- The extensions that a file may ask for. The first lets `Some` do without parentheses; the others
do not matter to a settings file. -/
def extensions : List String := ["implicit_some", "unwrap_newtypes", "unwrap_variant_newtypes"]

/-- The names of extensions, separated by commas. -/
def readExtensions : (fuel : Nat) → List Symbol → Option (List String × List Symbol)
  | 0, _ => none
  | fuel + 1, ss => do
    let (name, rest) ← readName ss
    if name ∈ extensions then
      match ← skipBlank rest with
      | some ',' :: rest =>
        let rest ← skipBlank rest
        if rest.head?.any isNamePart then
          let (names, rest) ← readExtensions fuel rest
          some (name :: names, rest)
        else some ([name], rest)
      | rest => if rest.head?.any isNamePart then none else some ([name], rest)
    else none

/-- The extensions that the attributes at the front of a file ask for. -/
def readAttributes : (fuel : Nat) → List Symbol → Option (List String × List Symbol)
  | 0, _ => none
  | fuel + 1, ss => do
    match ← skipBlank ss with
    | some '#' :: rest =>
      let rest ← skipPast '!' rest
      let rest ← skipPast '[' rest
      let rest ← skipBlank rest
      let rest ← dropText "enable" rest
      let rest ← skipPast '(' rest
      let rest ← skipBlank rest
      let (names, rest) ← readExtensions (rest.length + 1) rest
      let rest ← skipPast ')' rest
      let rest ← skipPast ']' rest
      let (others, rest) ← readAttributes fuel rest
      some (names ++ others, rest)
    | rest => some ([], rest)

/-- What is left after the name of the record, if it stands there. -/
def skipRecordName (ss : List Symbol) : Option (List Symbol) :=
  if ss.head?.any isNamePart then do
    let (name, rest) ← readName ss
    if name = "DelegateConfig" then some rest else none
  else some ss

/-- The settings that symbols write. -/
def ofSymbols? (ss : List Symbol) : Option Settings := do
  let (names, ss) ← readAttributes (ss.length + 1) ss
  let ss ← skipRecordName ss
  let ss ← skipPast '(' ss
  let (d, rest) ←
    Draft.readFields (names.contains "implicit_some") (ss.length + 1) ⟨none, none, none⟩ ss
  if (← skipBlank rest).isEmpty then some d.settings else none

/-! ## Files -/

/-- Why no settings could be had from a file. -/
inductive LoadFailure
  /-- There is no such file. -/
  | missing
  /-- The file is not what a settings file must be. -/
  | malformed
deriving DecidableEq

/-- The message of a failure, where it is fixed. -/
def LoadFailure.message? : LoadFailure → Option String
  | missing => some "IO error: No such file or directory (os error 2)"
  | malformed => none

/-- The settings that symbols write. -/
def ofSymbols (ss : List Symbol) : Except LoadFailure Settings :=
  match ofSymbols? ss with
  | none => .error .malformed
  | some settings => .ok settings

/-- The settings that a text writes. -/
def ofText (text : String) : Except LoadFailure Settings := ofSymbols (Symbol.ofText text)

/-- The settings that a file writes. -/
def load : Option ByteArray → Except LoadFailure Settings
  | none => .error .missing
  | some bytes => ofSymbols (Symbol.ofBytes bytes)

end Newsfeed.Settings
