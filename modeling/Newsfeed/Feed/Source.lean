import Newsfeed.Feed

/-!
# Sources

A source answers the calls of a feed, which have the numbers of their requests.  It may follow a
script, which says for each call by number what comes of it; where the script says nothing, the
archive behind the source answers, and without an archive the page is empty.
-/

namespace Newsfeed

/-- What comes of a call. -/
inductive Answer (α : Type)
  | page (page : Page α)
  | failure (report : String)
  /-- The source breaks down with these words. -/
  | crash (words : String)

/-- The result that a request has from an answer. -/
def Answer.result {α : Type} : Answer α → Result α
  | page p => .ok p
  | failure report => .error (.source report)
  | crash words => .error (.ofCrash words)

/-- Something that answers calls. -/
structure Source (α : Type) where
  /-- What the source calls itself. -/
  name : String
  archive : Option (Archive α)
  /-- What the script says for each call, if it says anything. -/
  script : List (Option (Answer α))
  /-- Whether a call ends only when it is released. -/
  held : Bool
  /-- Whether calls are reported. -/
  reported : Bool

namespace Source

variable {α : Type}

def plain (archive : Archive α) : Source α := ⟨"memory", some archive, [], false, false⟩

/-- An archive whose calls are reported and may be scripted. -/
def watched (archive : Archive α) (script : List (Option (Answer α))) (held : Bool) : Source α :=
  ⟨"held_memory", some archive, script, held, true⟩

def scripted (script : List (Option (Answer α))) (held : Bool) : Source α :=
  ⟨"script", none, script, held, true⟩

variable [Identified α]

/-- The page that an archive has for a request. -/
def pageOf (archive : Archive α) (kind : RequestKind) (position : Option Int64) : Page α :=
  match kind with
  | .refresh | .newer => archive.newer position
  | .older => archive.older position

def answer (s : Source α) (fetch : Fetch) : Result α :=
  match s.script[fetch.id]?.join with
  | some answer => answer.result
  | none =>
    match s.archive with
    | some archive => .ok (pageOf archive fetch.kind fetch.position)
    | none => .ok (.ofItems [])

def push (s : Source α) (item : α) : Source α := { s with archive := s.archive.map (·.push item) }

end Source

end Newsfeed
