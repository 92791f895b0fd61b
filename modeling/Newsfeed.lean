import Newsfeed.Main
import Newsfeed.Hypertext.Diagnostic
import Newsfeed.Session.Diagnostic
import Newsfeed.Proofs.Feed.Requests
import Newsfeed.Proofs.Session.History
import Newsfeed.Proofs.Session.SingleFlight
import Newsfeed.Proofs.Session.Overtaking
import Newsfeed.Proofs.Session.Accounting
import Newsfeed.Proofs.Session.Settling
import Newsfeed.Proofs.Feed.Pages
import Newsfeed.Proofs.Session.Browsing
import Newsfeed.Proofs.Text.Pieces
import Newsfeed.Proofs.Annotated.Sweep
import Newsfeed.Proofs.Annotated.Pairs
import Newsfeed.Proofs.Annotated.Placing
import Newsfeed.Proofs.Hypertext.Patchwork
import Newsfeed.Proofs.Hypertext.Splicing
import Newsfeed.Proofs.Hypertext.Rendering
import Newsfeed.Proofs.Annotated.Slicing
import Newsfeed.Proofs.Feed.Scrolling
import Newsfeed.Proofs.Hypertext.OnePass
import Newsfeed.Proofs.CommandLine.Lines
import Newsfeed.Proofs.Hypertext.Survival
import Newsfeed.Proofs.Session.Gaps
import Newsfeed.Proofs.Session.OlderEnd
import Newsfeed.Proofs.Session.Failing
import Newsfeed.Proofs.Text.Escaping
import Newsfeed.Proofs.Session.Served
import Newsfeed.Proofs.Notice.Telling
import Newsfeed.Proofs.Session.Recall
import Newsfeed.Proofs.Session.Replay
import Newsfeed.Proofs.Session.Capacity
import Newsfeed.Proofs.Annotated.Order
import Newsfeed.Proofs.Annotated.Shifting
import Newsfeed.Proofs.Feed.Holdings
import Newsfeed.Proofs.Notice.Spending
import Newsfeed.Proofs.Notice.Nesting
import Newsfeed.Proofs.Text.Occurrences
import Newsfeed.Proofs.Hypertext.Soundness
import Newsfeed.Proofs.Session.Atomicity
import Newsfeed.Proofs.Feed.Backward
import Newsfeed.Proofs.Notice.Course
import Newsfeed.Proofs.Notice.Registry
import Newsfeed.Proofs.Annotated.Photos
import Newsfeed.Proofs.Json.Tokens
import Newsfeed.Proofs.Json.Reading
import Newsfeed.Proofs.Post.Shape
import Newsfeed.Proofs.Annotated.Tally
import Newsfeed.Proofs.Session.LoadingMore
import Newsfeed.Proofs.Session.Entries
import Newsfeed.Proofs.Hypertext.Merging
import Newsfeed.Proofs.Text.Addressing
import Newsfeed.Proofs.Annotated.Counting
import Newsfeed.Proofs.Text.Seams
