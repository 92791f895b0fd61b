import Newsfeed.Annotated.Reconcile
import Newsfeed.Annotated.Shape
import Newsfeed.CommandLine.Arguments
import Newsfeed.Feed.Scroll
import Newsfeed.Hypertext
import Newsfeed.Json.Reader
import Newsfeed.Json.Writer
import Newsfeed.Settings.Reader

/-!
# The command line

`run` carries out a command line over the contents of files and gives what is printed and the exit
code: 0 when all went well, 1 when a file could not be read or understood, 2 when the arguments are
misused.
-/

namespace Newsfeed.CommandLine

/-- The contents of files by path, absent where a file cannot be read. -/
abbrev Files := String → Option ByteArray

/-- What a run of the program comes to. -/
structure Outcome where
  code : Nat
  output : String
  /-- The report of an error. -/
  error : Option String

/-- Why a run fails. -/
inductive Problem
  /-- The arguments are misused. -/
  | usage
  /-- A file cannot be read as text. -/
  | unreadable (path : String)
  /-- The contents of a file are not what is expected. -/
  | malformed (path : String)
  /-- A settings file cannot be read or understood. -/
  | settings (path : String)
deriving DecidableEq

namespace Problem

def code : Problem → Nat
  | usage => 2
  | _ => 1

/-- The report of a problem, if it has one beside the exit code. -/
def report : Problem → Option String
  | usage => none
  | unreadable path => some ("Error: reading " ++ path)
  | malformed path => some ("Error: parsing " ++ path)
  | settings path => some ("Error: loading config " ++ path)

end Problem

def readJson {α : Type} (files : Files) (path : String) (read : Json → Option α) :
    Except Problem α :=
  match (files path).bind String.fromUTF8? with
  | none => .error (.unreadable path)
  | some text =>
    match (Json.read? text).bind read with
    | none => .error (.malformed path)
    | some a => .ok a

def readSettings (files : Files) : Option String → Except Problem Settings
  | none => .ok .standard
  | some path =>
    match Settings.load (files path) with
    | .error _ => .error (.settings path)
    | .ok settings => .ok settings

/-! ## Showing posts -/

/-- How posts are shown on a terminal, where nothing can be clicked. -/
def style (stripPhoto : Bool) : LinkStyle := ⟨stripPhoto, 0, false⟩

/-- The line for an anchor: where it lies, what it shows and where it leads. -/
def anchorLine (h : Hypertext) (a : Anchor) : String :=
  "  [" ++ Numeral.print a.span.start.toInt ++ ".." ++ Numeral.print a.span.stop.toInt ++ ") "
    ++ (h.slice a.span).getD "" ++ " -> " ++ a.url ++ "\n"

/-- A hypertext and the lines for its anchors. -/
def showHypertext (h : Hypertext) : String :=
  h.text ++ "\n" ++ String.join (h.anchors.map (anchorLine h))

/-- The line for the photo that is cut out of a text. -/
def photoLine (a : Annotated .display) : String :=
  match a.lastPhoto? with
  | some photo => "[photo] " ++ photo.url ++ "\n"
  | none => ""

/-- A post as `format` prints it. -/
def showPost (p : Post) (keepPhoto asJson : Bool) : String :=
  let a := p.annotated
  if asJson then a.toJson.writePretty ++ "\n"
  else showHypertext (a.hypertext (style !keepPhoto)) ++ if keepPhoto then "" else photoLine a

/-- A post as one line: its id and its shown text, with new lines as blanks. -/
def postLine (p : Post) : String :=
  let text := (p.annotated.hypertext (style true)).text
  Numeral.print p.id.toInt ++ "\t"
    ++ String.ofList (text.toList.map fun c => if c = '\n' then ' ' else c)

/-- The posts that a reader goes through, one a line. -/
def pageLines (posts : List Post) (settings : Settings) (maxPages : Nat) : List String :=
  (pageThrough posts settings maxPages).map postLine

/-! ## Running -/

/-- The number of pages to go through where nothing else is said. -/
def allPages : Nat := Word.unsignedBound - 1

/-- What an invocation prints. -/
def Invocation.output (files : Files) (i : Invocation) : Except Problem String :=
  match i.task with
  | .format path keepPhoto asJson => do
    let post ← readJson files path Post.ofJson?
    return showPost post keepPhoto asJson
  | .page path pageSize capacity refresh maxPages => do
    let settings ← readSettings files i.settingsFile
    let settings : Settings :=
      { capacity := capacity.getD settings.capacity
        refresh := refresh.getD settings.refresh
        pageSize := pageSize.getD settings.pageSize }
    let posts ← readJson files path (Json.list? Post.ofJson?)
    return String.join ((pageLines posts settings (maxPages.getD allPages)).map (· ++ "\n"))

/-- The outcome of a printed text or a problem. -/
def Outcome.ofExcept : Except Problem String → Outcome
  | .ok output => ⟨0, output, none⟩
  | .error problem => ⟨problem.code, "", problem.report⟩

/-- Carries out a command line. -/
def run (files : Files) (args : List String) : Outcome :=
  match Invocation.ofArguments? args with
  | none => .ofExcept (.error .usage)
  | some invocation => .ofExcept (invocation.output files)

/-- The files that a command line needs. -/
def neededFiles (args : List String) : List String :=
  match Invocation.ofArguments? args with
  | none => []
  | some ⟨_, .format path _ _⟩ => [path]
  | some ⟨settingsFile, .page path _ _ _ _⟩ => settingsFile.toList ++ [path]

end Newsfeed.CommandLine
