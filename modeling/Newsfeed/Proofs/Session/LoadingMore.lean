import Newsfeed.Proofs.Session.Atomicity

/-!
# Loading more at the end of the list

When the last item is shown, the session tests whether older items are wanted, and if they are, it
makes a request for them, which tests once more whether it may go out.  The answer to the owner
rests on the first test alone.  What it lets through is never refused by the second one, in whatever
state the feed is (`Feed.requestMore_of_wantsMore`), so the answer says just whether a request has
gone out (`more_at_last_item`).
-/

namespace Newsfeed

variable {α κ : Type}

namespace Feed

variable {f : Feed α κ} {position : Nat}

/-- Older items are wanted at the last item of a list with room, while no request is out and the
older end has not been reached. -/
theorem wantsMore_iff :
    f.wantsMore position = true ↔
      position + 1 = f.items.length ∧ f.items.length < f.settings.capacity ∧
        f.paging.inFlight = false ∧ f.paging.olderEdge ≠ .exhausted := by
  simp [wantsMore, isLast, hasRoom, and_assoc]

/-- If older items are wanted, the request for them goes out. -/
theorem requestMore_of_wantsMore (h : f.wantsMore position = true) :
    f.requestMore position = (f.sent .older none, some (.issued (f.nextFetch .older))) := by
  obtain ⟨-, room, free, -⟩ := wantsMore_iff.1 h
  rw [requestMore_eq, if_pos h, request_of_free none free fun _ => hasRoom_iff.2 room]

theorem requestMore_of_not_wantsMore (h : ¬ f.wantsMore position = true) :
    f.requestMore position = (f, none) := by
  rw [requestMore_eq, if_neg h]

end Feed

namespace Session

variable [Identified α] (s : Session α κ) (position : Nat)

/-- The owner is told just whether older items are wanted. -/
theorem requestMore_eq_true_iff :
    (s.requestMore position).2 = true ↔ s.feed.wantsMore position = true := by
  show (s.feed.requestMore position).2.isSome = true ↔ _
  by_cases h : s.feed.wantsMore position = true
  · rw [Feed.requestMore_of_wantsMore h]
    exact iff_of_true rfl h
  · rw [Feed.requestMore_of_not_wantsMore h]
    exact iff_of_false nofun h

/-- In whatever state a session is, showing an item is answered by true just if it is the last one
of a list with room, no request is out and the older end has not been reached.  Then exactly one
request has gone out, for items older than the older cursor says, under a number that no pending
request has, and the flag is set; otherwise nothing has changed, and no call has been made. -/
theorem more_at_last_item :
    ((s.requestMore position).2 = true ↔
      position + 1 = s.feed.items.length ∧ s.feed.items.length < s.feed.settings.capacity ∧
        s.feed.paging.inFlight = false ∧ s.feed.paging.olderEdge ≠ .exhausted) ∧
    (s.requestMore position).1 = (s.move (.more position)).attend ∧
    ((s.requestMore position).2 = true →
      s.move (.more position) =
        { s with
          feed.paging.inFlight := true
          feed.pending := s.feed.pending ++ [⟨s.feed.nextRequest, .older, none⟩]
          feed.nextRequest := s.feed.nextRequest + 1
          running := s.running ++
            [⟨⟨s.feed.nextRequest, .older, s.feed.paging.olderThan⟩, none⟩] } ∧
      (s.Reachable → ∀ p ∈ s.feed.pending, p.id ≠ s.feed.nextRequest)) ∧
    ((s.requestMore position).2 = false → s.move (.more position) = s) := by
  have hmove : s.move (.more position) = s.followIfAny (s.feed.requestMore position) := rfl
  have htrue := s.requestMore_eq_true_iff position
  refine ⟨htrue.trans Feed.wantsMore_iff, rfl, fun h => ⟨?_, fun hreachable p hp => ?_⟩,
    fun h => ?_⟩
  · rw [hmove, Feed.requestMore_of_wantsMore (htrue.1 h)]
    rfl
  · obtain ⟨log, hbooks⟩ := hreachable.exists_books
    exact Nat.ne_of_lt (hbooks.lt_nextRequest hp)
  · have hwants : ¬ s.feed.wantsMore position = true := fun hwants => by
      rw [htrue.2 hwants] at h
      cases h
    rw [hmove, Feed.requestMore_of_not_wantsMore hwants]
    rfl

/-- A session in which a refresh has come back before an older request for newer items, so that the
flag is clear although that request is still pending. -/
def overtakenByRefresh : Session Post Nat :=
  (((((create ⟨200, .ungated, 30⟩ [] .initial (.scripted [] true)).act
    (.move (.request .newer (some 5)))).act (.move (.request .refresh none))).act
    (.move (.answer 1 (.ok (.ofItems
      [⟨9, none, none, none, none⟩, ⟨7, none, none, none, none⟩]))))).act (.move (.release 1))).act
    .process

/-- Its last item loads older ones beside the request that is pending,
and its first item does not. -/
theorem more_at_last_item_overtaken :
    let s := overtakenByRefresh
    (s.requestMore 1).2 = true ∧
      (s.move (.more 1)).feed.pending = [⟨0, .newer, some 5⟩, ⟨2, .older, none⟩] ∧
      (s.move (.more 1)).running.map Call.fetch = [⟨0, .newer, none⟩, ⟨2, .older, some 7⟩] ∧
      (∀ p ∈ s.feed.pending, p.id ≠ 2) ∧
      (s.requestMore 0).2 = false ∧ s.move (.more 0) = s := by
  intro s
  have hs : s.Reachable := (((((Reachable.create _ _ _ _).act _).act _).act _).act _).act _
  obtain ⟨-, -, hsent, -⟩ := more_at_last_item s 1
  obtain ⟨-, -, -, hkept⟩ := more_at_last_item s 0
  obtain ⟨hmove, hnew⟩ := hsent rfl
  exact ⟨rfl, by rw [hmove]; rfl, by rw [hmove]; rfl, hnew hs, rfl, hkept rfl⟩

end Session

end Newsfeed
