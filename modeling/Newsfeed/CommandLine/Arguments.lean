import Newsfeed.Settings
import Newsfeed.Text.Numeral

/-!
# Arguments of the command line

A command line names a task, `format` or `page`, with its file and options; the options `--config`
and `--verbose` may stand before the task as well.  An option takes its value from the next argument
or after an equals sign, no option is given twice at one place, and after `--` nothing is an option.
-/

namespace Newsfeed.CommandLine

/-! ## Reading arguments -/

/-- The options that are known at one place. -/
structure Known where
  /-- The options without a value. -/
  flags : List String
  /-- The options with a value. -/
  valued : List String

/-- What was given at one place. -/
structure Given where
  flags : List String
  values : List (String × String)
  /-- The arguments that are no options. -/
  plain : List String

namespace Given

def nothing : Given := ⟨[], [], []⟩

/-- Adds an option without a value, which must not be there. -/
def addFlag (g : Given) (name : String) : Option Given :=
  if g.flags.contains name then none else some { g with flags := name :: g.flags }

/-- Adds an option with a value, which must not be there. -/
def addValue (g : Given) (name value : String) : Option Given :=
  if (g.values.lookup name).isSome then none
  else some { g with values := (name, value) :: g.values }

/-- Adds an argument that is no option. -/
def addPlain (g : Given) (arg : String) : Given := { g with plain := g.plain ++ [arg] }

def value? (g : Given) (name : String) : Option String := g.values.lookup name

end Given

/-- An argument by its form. -/
inductive Form
  /-- Two dashes and a name, perhaps with a value after an equals sign. -/
  | long (name : String) (value : Option String)
  /-- A dash and letters. -/
  | short (letters : List Char)
  /-- Two dashes alone. -/
  | divider
  | plain

/-- The form of an argument. A single dash is plain. -/
def formOf (arg : String) : Form :=
  match arg.toList with
  | ['-', '-'] => .divider
  | '-' :: '-' :: cs =>
    let name := cs.takeWhile (· ≠ '=')
    let value :=
      match cs.drop name.length with
      | _ :: value => some (String.ofList value)
      | [] => none
    .long (String.ofList name) value
  | '-' :: c :: cs => .short (c :: cs)
  | _ => .plain

/-- The option that a single letter stands for. -/
def letterName? : Char → Option String
  | 'v' => some "verbose"
  | _ => none

/-- Adds the options that single letters stand for. -/
def addLetters (known : Known) : Given → List Char → Option Given
  | g, [] => some g
  | g, c :: cs => do
    let name ← letterName? c
    if known.flags.contains name then addLetters known (← g.addFlag name) cs else none

def readArguments (known : Known) (untilPlain : Bool) :
    Given → List String → Option (Given × List String)
  | g, [] => some (g, [])
  | g, arg :: rest =>
    match formOf arg with
    | .divider => if untilPlain then none else some (rest.foldl Given.addPlain g, [])
    | .plain =>
      if untilPlain then some (g, arg :: rest)
      else readArguments known untilPlain (g.addPlain arg) rest
    | .short letters => do readArguments known untilPlain (← addLetters known g letters) rest
    | .long name (some value) =>
      if known.valued.contains name then do
        readArguments known untilPlain (← g.addValue name value) rest
      else none
    | .long name none =>
      if known.flags.contains name then do
        readArguments known untilPlain (← g.addFlag name) rest
      else if known.valued.contains name then
        match rest with
        | [] => none
        | value :: rest =>
          match formOf value with
          | .plain => do readArguments known untilPlain (← g.addValue name value) rest
          | _ => none
      else none

/-! ## Values -/

/-- A path, which is not empty. -/
def path? (text : String) : Option String := if text.isEmpty then none else some text

/-- A count: decimal digits, perhaps after a plus sign, within an unsigned 64-bit word. -/
def count? (text : String) : Option Nat := do
  let digits :=
    match text.toList with
    | '+' :: cs => cs
    | cs => cs
  let n ← Numeral.read? 10 digits
  if n < Word.unsignedBound then some n else none

def optional {α : Type} (read : String → Option α) : Option String → Option (Option α)
  | none => some none
  | some text => (read text).map some

/-! ## Tasks -/

/-- What the program is asked to do. -/
inductive Task
  /-- Shows one post. -/
  | format (path : String) (keepPhoto asJson : Bool)
  /-- Goes through the posts of a list, page by page. -/
  | page (path : String) (pageSize capacity : Option Nat) (refresh : Option RefreshPolicy)
      (maxPages : Option Nat)
deriving DecidableEq

/-- A task with the settings file that is to be used. -/
structure Invocation where
  settingsFile : Option String
  task : Task
deriving DecidableEq

/-- The options that are known everywhere. -/
def everywhere : Known := ⟨["verbose"], ["config"]⟩

def formatOptions : Known := ⟨"keep-photo" :: "json" :: everywhere.flags, everywhere.valued⟩

def pageOptions : Known :=
  ⟨everywhere.flags,
    "page-size" :: "capacity" :: "refresh-policy" :: "max-pages" :: everywhere.valued⟩

def Given.path? (g : Given) : Option String :=
  match g.plain with
  | [path] => CommandLine.path? path
  | _ => none

/-- The task that is named, with its arguments. -/
def readTask (name : String) (args : List String) : Option (Given × Task) :=
  if name = "format" then do
    let (g, _) ← readArguments formatOptions false .nothing args
    let path ← g.path?
    some (g, .format path (g.flags.contains "keep-photo") (g.flags.contains "json"))
  else if name = "page" then do
    let (g, _) ← readArguments pageOptions false .nothing args
    let path ← g.path?
    let pageSize ← optional count? (g.value? "page-size")
    let capacity ← optional count? (g.value? "capacity")
    let refresh ← optional RefreshPolicy.ofName? (g.value? "refresh-policy")
    let maxPages ← optional count? (g.value? "max-pages")
    some (g, .page path pageSize capacity refresh maxPages)
  else none

/-- The invocation that arguments give, unless they are misused. A settings file that is named after
the task is preferred. -/
def Invocation.ofArguments? (args : List String) : Option Invocation := do
  let (outer, rest) ← readArguments everywhere true .nothing args
  match rest with
  | [] => none
  | name :: rest =>
    let (inner, task) ← readTask name rest
    let outerFile ← optional path? (outer.value? "config")
    let innerFile ← optional path? (inner.value? "config")
    some ⟨innerFile <|> outerFile, task⟩

end Newsfeed.CommandLine
