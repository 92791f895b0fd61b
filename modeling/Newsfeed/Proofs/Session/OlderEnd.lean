import Newsfeed.Proofs.Feed.Scrolling
import Newsfeed.Proofs.Session.Exchange

/-!
# The older end of the list

A feed stops asking for older items once a page of them has come back empty.  If that page was
wanted from the last item of the list, the list has indeed reached the end of the archive, and
nothing that happens until the next refresh changes this.  But a page that is wanted while the list
is empty starts from no item, and says only that the archive is empty at this moment.  If the list
is then filled from the other end, what is known about the older end stays, and it is wrong as soon
as the archive has more than one page.
-/

namespace Newsfeed

variable {α κ : Type} [Identified α]

/-- The last answer since the last refresh to a request for older items. -/
def lastOlder? (answers : List (Fetch × Result α)) : Option (Fetch × Result α) :=
  ((leg answers).filter fun x => x.1.kind = .older).getLast?

omit [Identified α] in
theorem lastOlder?_concat (answers : List (Fetch × Result α)) (x : Fetch × Result α) :
    lastOlder? (answers ++ [x]) = match x.1.kind with
      | .refresh => none
      | .newer => lastOlder? answers
      | .older => some x := by
  unfold lastOlder?
  rw [leg_concat]
  cases hk : x.1.kind <;> simp [hk]

namespace Feed

/-- The list has items, and nothing in the archive is below all of them. -/
structure ReachesEnd (f : Feed α κ) (a : Archive α) : Prop where
  ne_nil : f.items ≠ []
  bottom : ∀ item ∈ a.items, ∃ old ∈ f.items, Identified.id old ≤ Identified.id item

/-- What is known about the older end comes from the last page of older items, which was empty, and
it is right if that page was wanted from an item. -/
structure KnowsEnd (f : Feed α κ) (a : Archive α) (answers : List (Fetch × Result α)) : Prop where
  tracks : f.Tracks a
  known : f.paging.olderEdge = .exhausted →
    ∃ x page, lastOlder? answers = some (x, .ok page) ∧ page.items = [] ∧
      (x.position ≠ none → f.ReachesEnd a)

section Archive

variable {f : Feed α κ} {a : Archive α} {answers : List (Fetch × Result α)}

theorem ReachesEnd.push (h : f.ReachesEnd a) (hf : f.Follows a) {item : α}
    (hnew : ∀ other ∈ a.items, Identified.id other < Identified.id item) :
    f.ReachesEnd (a.push item) := by
  refine ⟨h.ne_nil, ?_⟩
  rw [Archive.items_push_of_newest hnew]
  refine List.forall_mem_cons.2 ⟨?_, h.bottom⟩
  obtain ⟨old, ho⟩ := List.exists_mem_of_ne_nil _ h.ne_nil
  exact ⟨old, ho, Int64.le_of_lt (hnew old (hf.held old ho))⟩

/-- An empty page of older items that was wanted from an item comes from the end of the archive. -/
theorem Tracks.reachesEnd (h : f.Tracks a) (hbound : f.paging.bound .older ≠ none)
    (hnil : (f.pageFrom a .older).items = []) : f.ReachesEnd a := by
  refine ⟨?_, fun item hi => ?_⟩
  · rintro hitems
    refine hbound (h.anchored.older.trans ?_)
    rw [hitems]
    rfl
  · refine Classical.byContradiction fun hnone => ?_
    have hbelow : ∀ old ∈ f.items, Identified.id item < Identified.id old := fun old ho =>
      Int64.not_le.1 fun hle => hnone ⟨old, ho, hle⟩
    exact Source.pageOf_ne_nil h.ordered h.size hi (h.older_of_lt hbelow) hnil

theorem knowsEnd_create (settings : Settings) {items : List α}
    (distinct : (items.map Identified.id).Nodup) (n : Nat) :
    (create settings [] .initial : Feed α κ).KnowsEnd ((Archive.ofList items).withPageSize n) [] :=
  ⟨tracks_create_ofList settings distinct n, fun hedge => nomatch hedge⟩

theorem KnowsEnd.push (h : f.KnowsEnd a answers) {item : α}
    (hnew : ∀ other ∈ a.items, Identified.id other < Identified.id item) :
    f.KnowsEnd (a.push item) answers := by
  refine ⟨h.tracks.push hnew, fun hedge => ?_⟩
  obtain ⟨x, page, hx, hnil, hend⟩ := h.known hedge
  exact ⟨x, page, hx, hnil, fun hne => (hend hne).push h.tracks.toFollows hnew⟩

theorem KnowsEnd.exchange (h : f.KnowsEnd a answers) (hpending : f.pending = [])
    (kind : RequestKind) (callback : Option κ) :
    (f.exchange kind callback (.ok (f.pageFrom a kind))).KnowsEnd a
      (answers ++ [(f.nextFetch kind, .ok (f.pageFrom a kind))]) := by
  refine ⟨h.tracks.exchange hpending kind callback, fun hedge => ?_⟩
  rw [olderEdge_exchange hpending] at hedge
  rw [lastOlder?_concat]
  have hmem := h.tracks.mem_items_exchange hpending kind callback
  cases kind with
  | refresh => cases hedge
  | newer =>
    obtain ⟨x, page, hx, hnil, hend⟩ := h.known hedge
    refine ⟨x, page, hx, hnil, fun hne => ?_⟩
    have hkept : ∀ old ∈ f.items,
        old ∈ (f.exchange .newer callback (.ok (f.pageFrom a .newer))).items :=
      fun old ho => (hmem old).2 (Or.inr ⟨by decide, ho⟩)
    obtain ⟨hitems, hbottom⟩ := hend hne
    obtain ⟨first, hfirst⟩ := List.exists_mem_of_ne_nil _ hitems
    refine ⟨List.ne_nil_of_mem (hkept first hfirst), fun item hi => ?_⟩
    obtain ⟨old, ho, hle⟩ := hbottom item hi
    exact ⟨old, hkept old ho, hle⟩
  | older =>
    have hnil : (f.pageFrom a .older).items = [] := by
      refine Classical.byContradiction fun hitems => ?_
      have hfull : ¬ (f.pageFrom a .older).isEmpty = true := fun he =>
        hitems (List.isEmpty_iff.1 he)
      rw [if_pos rfl, if_neg hfull] at hedge
      cases hedge
    refine ⟨_, _, rfl, hnil, fun hne => ?_⟩
    have hitems : (f.exchange .older callback (.ok (f.pageFrom a .older))).items = f.items := by
      rw [h.tracks.items_exchange hpending, hnil]
      exact List.append_nil _
    have hend := h.tracks.reachesEnd hne hnil
    refine ⟨?_, ?_⟩ <;> rw [hitems]
    exacts [hend.ne_nil, hend.bottom]

/-- The first page of newer items fills an empty list. -/
theorem Tracks.items_exchange_newer (h : f.Tracks a) (hpending : f.pending = [])
    (hnil : f.items = []) (callback : Option κ) :
    (f.exchange .newer callback (.ok (f.pageFrom a .newer))).items = a.items.take a.pageSize := by
  have hbound : f.paging.newerThan = none := by
    rw [h.anchored.newer, hnil]
    rfl
  have hpage : f.pageFrom a .newer = .ofItems (a.items.take a.pageSize) := by
    show a.query f.paging.newerThan none = _
    rw [hbound, Archive.query_newest]
  rw [h.items_exchange hpending, hnil, hpage]
  exact List.append_nil _

/-- If the archive has more than that page, the list ends above the end of the archive. -/
theorem Tracks.exists_below (h : f.Tracks a) (hpending : f.pending = []) (hnil : f.items = [])
    (hlength : a.pageSize < a.items.length) (callback : Option κ) :
    ∃ last ∈ (f.exchange .newer callback (.ok (f.pageFrom a .newer))).items.getLast?,
      ∃ item ∈ a.items, Identified.id item < Identified.id last := by
  have hsize : 0 < a.pageSize := Nat.pos_of_ne_zero h.size
  have hpage : a.items.take a.pageSize ≠ [] := by
    rw [← List.length_pos_iff, List.length_take]
    omega
  have hrest : a.items.drop a.pageSize ≠ [] := by
    rw [← List.length_pos_iff, List.length_drop]
    omega
  obtain ⟨last, hlast⟩ : ∃ last, (a.items.take a.pageSize).getLast? = some last :=
    ⟨_, List.getLast?_eq_some_getLast hpage⟩
  obtain ⟨item, hi⟩ := List.exists_mem_of_ne_nil _ hrest
  have hordered := h.ordered
  rw [Descending, ← List.take_append_drop a.pageSize a.items] at hordered
  have hlt := (List.pairwise_append.1 hordered).2.2 last (List.mem_of_getLast? hlast) item hi
  rw [h.items_exchange_newer hpending hnil]
  exact ⟨last, hlast, item, List.mem_of_mem_drop hi, hlt⟩

/-- What is known about the older end of an empty list is kept, and is wrong, if a page of newer
items fills the list from an archive of more than one page. -/
theorem Tracks.stale_exchange (h : f.Tracks a) (hpending : f.pending = []) (hnil : f.items = [])
    (hedge : f.paging.olderEdge = .exhausted) (hcapacity : a.pageSize < f.settings.capacity)
    (hlength : a.pageSize < a.items.length) (callback : Option κ) :
    let g := f.exchange .newer callback (.ok (f.pageFrom a .newer))
    g.hasRoom = true ∧ g.paging.olderEdge = .exhausted ∧
      ∃ last ∈ g.items.getLast?, ∃ item ∈ a.items, Identified.id item < Identified.id last := by
  intro g
  have hitems : g.items = a.items.take a.pageSize := h.items_exchange_newer hpending hnil callback
  have hsettings : g.settings = f.settings := settings_exchange _ _ _
  have hedge' : g.paging.olderEdge = f.paging.olderEdge := olderEdge_exchange hpending _ _ _
  refine ⟨?_, hedge'.trans hedge, h.exists_below hpending hnil hlength callback⟩
  simp only [hasRoom, hitems, hsettings, List.length_take, decide_eq_true_eq]
  omega

end Archive

end Feed

namespace Session

theorem requestMore_eq_false_iff {s : Session α κ} (hne : s.feed.items ≠ [])
    (room : s.feed.hasRoom = true) (free : s.feed.paging.inFlight = false) :
    (s.requestMore (s.feed.items.length - 1)).2 = false ↔ s.feed.paging.olderEdge = .exhausted := by
  have hlast : s.feed.isLast (s.feed.items.length - 1) = true := by
    have := List.length_pos_iff.2 hne
    simp only [Feed.isLast, decide_eq_true_eq]
    omega
  show (s.feed.requestMore (s.feed.items.length - 1)).2.isSome = false ↔ _
  rw [Feed.requestMore_eq]
  by_cases hedge : s.feed.paging.olderEdge = .exhausted <;>
    simp [Feed.wantsMore, hlast, room, free, hedge]

/-- Where no more is wanted at the last item of a list with room, the last page of older items since
the last refresh was empty, and the list has reached the end of the archive if that page was wanted
from an item.  If it was wanted while the list was empty, and a page of newer items then fills the
list from an archive of more than one page, no more is wanted although there are older items. -/
theorem older_end_of_requestMore_eq_false {settings : Settings}
    (gated : settings.refresh = .gated) {items : List α}
    (distinct : (items.map Identified.id).Nodup) (n : Nat) :
    let s : Session α κ :=
      create settings [] .initial (.plain ((Archive.ofList items).withPageSize n))
    ∀ actions, s.Orderly actions →
      let t := s.run actions
      t.feed.paging.inFlight = false → ∀ a ∈ t.source.archive,
      (∀ last ∈ t.feed.items.getLast?, t.feed.hasRoom = true →
        (t.requestMore (t.feed.items.length - 1)).2 = false →
        ∃ x page, lastOlder? (s.answers actions) = some (x, .ok page) ∧ page.items = [] ∧
          (x.position ≠ none → ∀ item ∈ a.items, ¬ Identified.id item < Identified.id last)) ∧
      (t.feed.items = [] → t.feed.paging.olderEdge = .exhausted → max n 1 < settings.capacity →
        max n 1 < a.items.length → ∀ callback,
        let u := (t.move (.request .newer callback)).settle
        u.feed.paging.inFlight = false ∧ u.feed.hasRoom = true ∧
          (u.requestMore (u.feed.items.length - 1)).2 = false ∧
          ∃ last ∈ u.feed.items.getLast?, ∃ item ∈ a.items,
            Identified.id item < Identified.id last) := by
  intro s actions horderly t free b hb
  obtain ⟨a, hsize, h⟩ := orderly_exchange_induction
    (Q := fun a answers f => Feed.KnowsEnd f a answers)
    (fun a answers f item hnew hf => hf.push hnew)
    (fun a answers f kind callback idle hf => hf.exchange idle.pending kind callback) gated
    (Feed.knowsEnd_create settings distinct n) horderly
  have hsize : a.pageSize = max n 1 := hsize
  obtain rfl : a = b := Option.some.inj (h.archive.symm.trans hb)
  obtain ⟨idle, hend, -⟩ := h.at_rest free
  have hsettings : t.feed.settings = settings := settings_run s actions
  refine ⟨fun last hlast room hmore => ?_, fun hnil hedge hcapacity hlength callback => ?_⟩
  · have hne : t.feed.items ≠ [] := List.ne_nil_of_mem (List.mem_of_getLast? hlast)
    obtain ⟨x, page, hx, hpage, hbottom⟩ :=
      hend.known ((requestMore_eq_false_iff hne room free).1 hmore)
    refine ⟨x, page, hx, hpage, fun hposition item hi hlt => ?_⟩
    obtain ⟨old, ho, hle⟩ := (hbottom hposition).bottom item hi
    have hlow := hend.tracks.sorted.last_le hlast old ho
    exact Int64.not_lt.2 (Int64.le_trans hlow hle) hlt
  · intro u
    rw [← hsize] at hcapacity hlength
    rw [← hsettings] at hcapacity
    have hroom : t.feed.hasRoom = true := by
      simp only [Feed.hasRoom, hnil, List.length_nil, decide_eq_true_eq]
      omega
    have hfeed : u.feed = t.feed.exchange .newer callback (.ok (t.feed.pageFrom a .newer)) :=
      h.feed_settle free (fun _ => hroom) callback
    have hfree := (Feed.idle_exchange idle.pending .newer callback
      (.ok (t.feed.pageFrom a .newer))).free
    obtain ⟨hroom', hedge', hbelow⟩ :=
      hend.tracks.stale_exchange idle.pending hnil hedge hcapacity hlength callback
    rw [← hfeed] at hfree hroom' hedge' hbelow
    have hne : u.feed.items ≠ [] := by
      obtain ⟨last, hlast, -⟩ := hbelow
      exact List.ne_nil_of_mem (List.mem_of_getLast? hlast)
    exact ⟨hfree, hroom', (requestMore_eq_false_iff hne hroom' hfree).2 hedge', hbelow⟩

/-- The last page of two is wanted from an item, and the list reaches the end; an empty list that
wanted older items too early leaves out the older of two. -/
theorem requestMore_eq_false_two_pages :
    (let s : Session Post Nat := create .standard [] .initial
        (.plain ((Archive.ofList [⟨1, none, none, none, none⟩]).withPageSize 1))
      let t := s.run [.move (.push ⟨2, none, none, none, none⟩), .move (.request .refresh none),
        .settle, .move (.request .older none), .settle, .move (.request .older none), .settle]
      (t.requestMore 1).2 = false ∧ ∀ a ∈ t.source.archive, ∀ item ∈ a.items, ¬ item.id < 1) ∧
    let s : Session Post Nat := create .standard [] .initial
      (.plain ((Archive.ofList []).withPageSize 1))
    let t := s.run [.move (.request .older none), .settle,
      .move (.push ⟨1, none, none, none, none⟩), .move (.push ⟨2, none, none, none, none⟩)]
    let u := (t.move (.request .newer none)).settle
    (u.requestMore (u.feed.items.length - 1)).2 = false ∧
      ∃ last ∈ u.feed.items.getLast?,
        ∃ item ∈ ([⟨2, none, none, none, none⟩, ⟨1, none, none, none, none⟩] : List Post),
          item.id < last.id := by
  refine ⟨⟨by decide +kernel, ?_⟩, ?_⟩
  · intro a ha item hi
    have hdistinct : (([⟨1, none, none, none, none⟩] : List Post).map Identified.id).Nodup := by
      decide
    obtain ⟨x, page, hx, -, hend⟩ := (older_end_of_requestMore_eq_false
      (rfl : Settings.standard.refresh = .gated) hdistinct 1 _ (by decide +kernel)
      (by decide +kernel) a ha).1 ⟨1, none, none, none, none⟩
      (by decide +kernel) (by decide +kernel) (by decide +kernel)
    have hposition := congrArg (Option.map fun x => x.1.position) hx
    refine hend (fun hnone => ?_) item hi
    rw [Option.map_some, hnone] at hposition
    exact absurd hposition (by decide +kernel)
  · have h := (older_end_of_requestMore_eq_false (rfl : Settings.standard.refresh = .gated)
      (by decide : (([] : List Post).map Identified.id).Nodup) 1
      [.move (.request .older none), .settle, .move (.push ⟨1, none, none, none, none⟩),
        .move (.push ⟨2, none, none, none, none⟩)] (by decide +kernel) (by decide +kernel)
      ⟨[⟨2, none, none, none, none⟩, ⟨1, none, none, none, none⟩], 1⟩ (by decide +kernel)).2
      (by decide +kernel) (by decide +kernel) (by decide) (by decide) (none : Option Nat)
    exact h.2.2

end Session

end Newsfeed
