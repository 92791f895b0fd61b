/-!
# Notices

What observers of an item list are told.
-/

namespace Newsfeed

/-- What an observer of an item list is told. -/
inductive Notice
  /-- The list changed; read it again. -/
  | changed
  /-- The list is no longer valid. -/
  | invalidated
deriving DecidableEq

def Notice.name : Notice → String
  | .changed => "changed"
  | .invalidated => "invalidated"

end Newsfeed
