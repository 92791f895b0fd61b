import Newsfeed.Text.Quoted

/-!
# Failures of requests

A request is refused where it is made, for want of room or because another one is out, or it fails
at the source, and then the source says why.
-/

namespace Newsfeed

/-- Why a request or the making of a feed failed. -/
inductive Failure
  /-- A feed was made without a source. -/
  | noSource
  /-- The list is full. -/
  | noRoom
  /-- Another request is out. -/
  | inFlight
  /-- The source reported something. -/
  | source (report : String)
deriving DecidableEq

namespace Failure

def message : Failure → String
  | noSource => "Timeline must not be null"
  | noRoom => "Max capacity reached"
  | inFlight => "Request already in flight"
  | source report => "transport error: " ++ report

/-- Whether the source was not asked. -/
def isRefusal : Failure → Bool
  | noRoom => true
  | inFlight => true
  | _ => false

/-- What the source reported, if the failure stems from it. -/
def report? : Failure → Option String
  | source report => some report
  | _ => none

/-- The failure of a request whose source broke down with the given words. -/
def ofCrash (words : String) : Failure :=
  source ("task # panicked with message " ++ Quoted.print words)

end Failure

end Newsfeed
