import Newsfeed.Hypertext
import Newsfeed.Text.Diagnostic

/-!
# The diagnostic form of hypertexts
-/

namespace Newsfeed

def Offset.describe (a : Offset .display) : String :=
  Diagnostic.wrapped "DisplayOffset" (Diagnostic.int64 a.value)

def Anchor.describe (a : Anchor) : String :=
  Diagnostic.record "LinkSpan"
    [("start", a.span.start.describe), ("end", a.span.stop.describe),
      ("url", Quoted.print a.url), ("link_color", Diagnostic.nat a.color.toNat),
      ("clickable", Diagnostic.bool a.clickable)]

def Hypertext.describe (h : Hypertext) : String :=
  Diagnostic.record "RichText"
    [("text", Quoted.print h.text), ("spans", Diagnostic.list Anchor.describe h.anchors)]

end Newsfeed
