import Newsfeed.Session
import Newsfeed.Text.Diagnostic

/-!
# The diagnostic form of sessions and their parts
-/

namespace Newsfeed

def Cursor.describe (c : Cursor) : String :=
  Diagnostic.record "TimelineCursor"
    [("min_position", Diagnostic.optional Diagnostic.int64 c.oldest),
      ("max_position", Diagnostic.optional Diagnostic.int64 c.newest)]

def Edge.describe : Edge → String
  | unknown => "Unknown"
  | hasMore => "HasMore"
  | exhausted => "Exhausted"

def Paging.describe (p : Paging) : String :=
  Diagnostic.record "TimelineStateHolder"
    [("next_cursor", Diagnostic.optional Cursor.describe p.newer),
      ("previous_cursor", Diagnostic.optional Cursor.describe p.older),
      ("next_edge", p.newerEdge.describe), ("previous_edge", p.olderEdge.describe),
      ("in_flight", Diagnostic.bool p.inFlight)]

def Settings.describe (s : Settings) : String :=
  Diagnostic.record "DelegateConfig"
    [("capacity", Diagnostic.nat s.capacity), ("refresh_policy", s.refresh.name),
      ("page_size", Diagnostic.nat s.pageSize)]

def Session.describe {α κ : Type} (s : Session α κ) : String :=
  Diagnostic.record "TimelineDelegate"
    [("timeline", Quoted.print s.source.name), ("items", Diagnostic.nat s.feed.items.length),
      ("state", s.feed.paging.describe), ("pending", Diagnostic.nat s.feed.pending.length)]

def Observer.describeId (id : Nat) : String := Diagnostic.wrapped "ObserverId" (Diagnostic.nat id)

end Newsfeed
