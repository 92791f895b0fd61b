import Newsfeed.Annotated
import Newsfeed.Text.Unescaped

/-!
# Reconciling entities with the shown text

The server's offsets count characters of the escaped text.  `followCollapses` moves stretches left
by what collapsed before and inside them, in one sweep over entities in ascending order;
`followPairs` then moves them right by the pairs at or before their start, which takes them to
UTF-16 units.  `Post.annotated` does both for a whole post.
-/

namespace Newsfeed

/-- How far a sweep over the entities of a text has come. -/
structure Sweep where
  /-- The number of collapses already passed. -/
  passed : Nat
  /-- By how much the passed collapses shortened the text. -/
  shortened : Int
deriving DecidableEq

namespace Sweep

/-- A sweep that has passed nothing. -/
def start : Sweep := ⟨0, 0⟩

/-- The total shrinkage of some collapses. -/
def total : List Collapse → Int
  | [] => 0
  | e :: es => e.shrinkage.toInt + total es

/-- Of the collapses not yet passed, those that end before the stretch. -/
def before (w : Sweep) (es : List Collapse) (span : Span .raw) : List Collapse :=
  (es.drop w.passed).filter fun e => e.last < span.start

/-- Of the collapses not yet passed, those that end inside the stretch. -/
def inside (w : Sweep) (es : List Collapse) (span : Span .raw) : List Collapse :=
  (es.drop w.passed).filter fun e => ¬ e.last < span.start ∧ e.last < span.stop

/-- Passes the collapses that end before a stretch. -/
def advance (w : Sweep) (es : List Collapse) (span : Span .raw) : Sweep :=
  ⟨w.passed + (w.before es span).length, w.shortened + total (w.before es span)⟩

/-- Where a stretch lies once the text is unescaped. -/
def place (w : Sweep) (es : List Collapse) (span : Span .raw) : Span .raw :=
  let shortened := (w.advance es span).shortened
  ⟨span.start.shift (-shortened), span.stop.shift (-(shortened + total (w.inside es span)))⟩

/-- Moves stretches, one after the other, into the unescaped text. -/
def run (es : List Collapse) : Sweep → List (Span .raw) → List (Span .raw)
  | _, [] => []
  | w, span :: spans => w.place es span :: run es (w.advance es span) spans

@[simp]
theorem length_run (es : List Collapse) (w : Sweep) (spans : List (Span .raw)) :
    (run es w spans).length = spans.length := by
  induction spans generalizing w with
  | nil => rfl
  | cons span spans ih => simp [run, ih]

end Sweep

/-- Moves entities, in ascending order of their start, from the escaped into the unescaped text. -/
def followCollapses (es : List Collapse) (entities : List (Entity .raw)) : List (Entity .raw) :=
  entities.zipWith Entity.place (Sweep.run es .start (entities.map Entity.span))

@[simp]
theorem length_followCollapses (es : List Collapse) (entities : List (Entity .raw)) :
    (followCollapses es entities).length = entities.length := by
  simp [followCollapses]

/-- The number of leading pairs that lie at or before a place counted in characters, when `passed`
pairs have been counted: pair number `i` is preceded by `i` units that count no character. -/
def pairShift (passed : Nat) (start : Int) : List Int → Nat
  | [] => passed
  | pair :: pairs => if pair - passed ≤ start then pairShift (passed + 1) start pairs else passed

/-- Moves a stretch from characters to UTF-16 units: both ends move by the pairs at or before the
start. -/
def Span.followPairs (span : Span .raw) (pairs : List Int) : Span .display :=
  let shift := pairShift 0 span.start.toInt pairs
  ⟨.ofInt (span.start.toInt + shift), .ofInt (span.stop.toInt + shift)⟩

/-- Moves entities from characters to UTF-16 units of a text with the given pairs. -/
def followPairs (pairs : List Int) (entities : List (Entity .raw)) : List (Entity .display) :=
  entities.map fun e => e.place (e.span.followPairs pairs)

@[simp]
theorem length_followPairs (pairs : List Int) (entities : List (Entity .raw)) :
    (followPairs pairs entities).length = entities.length := List.length_map _

/-- Moves entities from characters to UTF-16 units of a text. -/
def followText (text : List Char) (entities : List (Entity .raw)) : List (Entity .display) :=
  followPairs ((Text.pairIndices text).map Int.ofNat) entities

/-- Unescapes the text of a post and moves staged entities into it. Where the post has no text, the
staged text and the offsets stay as they are. -/
def Annotated.reconcile (a : Annotated .raw) (p : Post) : Annotated .display :=
  let raw := p.rawText.toList
  if raw.isEmpty then ⟨a.text, followPairs [] a.links, followPairs [] a.media⟩
  else
    let u := Text.unescape raw
    ⟨String.ofList u.text,
      followText u.text (followCollapses u.collapses a.links),
      followText u.text (followCollapses u.collapses a.media)⟩

/-- The shown text of a post with its entities. -/
def Post.annotated (p : Post) : Annotated .display :=
  (Annotated.empty.addEntities p).reconcile p

end Newsfeed
