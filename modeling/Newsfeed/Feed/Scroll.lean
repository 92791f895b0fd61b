import Newsfeed.Feed.Source

/-!
# Scrolling through an archive

A reader who refreshes a feed and then stays at its last item makes it load page after page, until
the archive ends, the list is full or the reader has seen enough pages.
-/

namespace Newsfeed

namespace Feed

variable {α κ : Type} [Identified α]

/-- Answers a request from an archive and applies the page at once. -/
def serve (archive : Archive α) : Feed α κ × Response κ → Feed α κ
  | (f, .issued fetch) =>
    (f.complete fetch.id (.ok (Source.pageOf archive fetch.kind fetch.position))).1
  | (f, .refused _ _) => f

/-- Loads up to so many pages of older items, each when the last item is shown. -/
def scroll (archive : Archive α) : Nat → Feed α κ → Feed α κ
  | 0, f => f
  | pages + 1, f =>
    match f.requestMore (f.items.length - 1) with
    | (f, some response) => scroll archive pages (serve archive (f, response))
    | (f, none) => f

end Feed

/-- The items that a reader sees who goes through up to so many pages of them, counting the first,
which is always loaded. -/
def pageThrough {α : Type} [Identified α] (items : List α) (settings : Settings) (maxPages : Nat) :
    List α :=
  let archive := (Archive.ofList items).withPageSize settings.pageSize
  let feed : Feed α Unit := .create settings [] .initial
  (Feed.scroll archive (maxPages - 1) (Feed.serve archive (feed.refresh none))).items

end Newsfeed
