import Mathlib.Data.List.Nodup
import Newsfeed.Proofs.Feed.Anchored
import Newsfeed.Proofs.Session.Settling

/-!
# Paging through an archive

A feed that starts empty and pages through an archive under the gated policy keeps its list and
its cursors in step: the list descends, and between requests the cursors are the ids of its two
ends.  The calls may reach the archive at any moment, and newer items may be published at any
moment.  The exception is a list whose oldest item has the least of all ids, since the bound made
of that id does not exclude it; such an item can only be the first that is published in an empty
archive.
-/

namespace Newsfeed

variable {α κ : Type} [Identified α]

/-! ## Phases -/

/-- Where the traffic over an archive is: either nothing is out, or one request is, and then its
call runs or its page waits. -/
inductive Phase (a : Archive α) (f : Feed α κ) : List (Call α) → List (Nat × Result α) → Prop
  | quiet (pending : f.pending = []) (free : f.paging.inFlight = false) (anchored : f.Anchored) :
    Phase a f [] []
  | asked {request : Pending κ} {page : Option (Page α)} (pending : f.pending = [request])
    (out : f.paging.inFlight = true) (awaits : f.Awaits request.kind)
    (suits : ∀ p ∈ page, f.Suits a request.kind p) :
    Phase a f [⟨⟨request.id, request.kind, f.paging.bound request.kind⟩, page.map .ok⟩] []
  | arrived {request : Pending κ} {page : Page α} (pending : f.pending = [request])
    (out : f.paging.inFlight = true) (awaits : f.Awaits request.kind)
    (suits : f.Suits a request.kind page) :
    Phase a f [] [(request.id, .ok page)]

theorem Phase.anchored_of_free {a : Archive α} {f : Feed α κ} {running : List (Call α)}
    {waiting : List (Nat × Result α)} (h : Phase a f running waiting)
    (free : f.paging.inFlight = false) : f.Anchored := by
  cases h with
  | quiet _ _ anchored => exact anchored
  | asked _ out => rw [free] at out; cases out
  | arrived _ out => rw [free] at out; cases out

/-- The traffic of a session that pages through an archive. -/
structure Traffic.Browses (a : Archive α) (t : Traffic α κ) : Prop where
  gated : t.feed.settings.refresh = .gated
  size : a.pageSize ≠ 0
  ordered : Descending a.items
  descending : Descending t.feed.items
  held : ∀ item ∈ t.feed.items, item ∈ a.items
  /-- No request for older items can start from the least id. -/
  bounded : t.feed.settings.capacity ≤ 1 ∨ ∀ item ∈ a.items, Identified.id item ≠ Int64.minValue
  phase : Phase a t.feed t.running t.waiting

namespace Traffic.Browses

variable {a : Archive α} {t : Traffic α κ}

theorem nodup_running (h : t.Browses a) : (t.running.map (·.fetch.id)).Nodup := by
  obtain ⟨f, running, waiting, told⟩ := t
  have hphase : Phase a f running waiting := h.phase
  cases hphase with
  | quiet => exact List.nodup_nil
  | asked => exact List.nodup_singleton _
  | arrived => exact List.nodup_nil

/-- The older cursor of a list with room to grow is not the least id. -/
theorem olderThan_ne_least (h : t.Browses a) (anchored : t.feed.Anchored)
    (room : t.feed.hasRoom = true) : t.feed.paging.olderThan ≠ some Int64.minValue := by
  rw [anchored.older]
  intro he
  obtain ⟨last, hlast, hid⟩ := Option.map_eq_some_iff.1 he
  have hmem := List.mem_of_getLast? hlast
  have hroom := Feed.hasRoom_iff.1 room
  have hpos := List.length_pos_of_mem hmem
  rcases h.bounded with hcapacity | hleast
  · omega
  · exact hleast last (h.held last hmem) hid

theorem issued (h : t.Browses a) {kind : RequestKind} {callback : Option κ}
    (hr : t.feed.Responds kind callback
      (t.feed.sent kind callback, .issued (t.feed.nextFetch kind))) :
    Browses a { t with
      feed := t.feed.sent kind callback
      running := t.running ++ [⟨t.feed.nextFetch kind, none⟩] } := by
  obtain ⟨f, running, waiting, told⟩ := t
  refine ⟨h.gated, h.size, h.ordered, h.descending, h.held, h.bounded, ?_⟩
  obtain ⟨free, room⟩ := hr.allowed
  have gated : f.settings.refresh = .gated := h.gated
  have idle : f.paging.inFlight ≠ true := by
    intro out
    rw [(free out).2] at gated
    cases gated
  have hphase : Phase a f running waiting := h.phase
  cases hphase with
  | quiet pending _ anchored =>
    have hleast : kind = .older → f.paging.olderThan ≠ some Int64.minValue := by
      rintro rfl
      exact h.olderThan_ne_least anchored (room (by decide))
    have hpending : (f.sent kind callback).pending = [⟨f.nextRequest, kind, callback⟩] := by
      rw [Feed.sent, pending]
      rfl
    have hfetch : f.nextFetch kind =
        ⟨f.nextRequest, kind, (f.sent kind callback).paging.bound kind⟩ := by
      rw [Feed.bound_sent]
      rfl
    show Phase a (f.sent kind callback) [⟨f.nextFetch kind, none⟩] []
    rw [hfetch]
    have hawaits := anchored.awaits_sent hleast callback
    exact .asked hpending (Paging.inFlight_requested _ _) hawaits
      (by simp : ∀ p ∈ (none : Option (Page α)), _)
  | asked _ out => exact absurd out idle
  | arrived _ out => exact absurd out idle

theorem answered (h : t.Browses a) {as bs : List (Call α)} {fetch : Fetch} {result : Result α}
    (hr : t.running = as ++ ⟨fetch, none⟩ :: bs)
    (hresult : result = .ok (Source.pageOf a fetch.kind fetch.position)) :
    Browses a { t with running := as ++ ⟨fetch, some result⟩ :: bs } := by
  obtain ⟨f, running, waiting, told⟩ := t
  refine ⟨h.gated, h.size, h.ordered, h.descending, h.held, h.bounded, ?_⟩
  have hphase : Phase a f running waiting := h.phase
  have hr : running = as ++ ⟨fetch, none⟩ :: bs := hr
  show Phase a f (as ++ ⟨fetch, some result⟩ :: bs) waiting
  cases hphase with
  | quiet => simp at hr
  | arrived => simp at hr
  | @asked request page pending out awaits suits =>
    obtain ⟨rfl, hcall⟩ | ⟨-, hcall⟩ := List.singleton_eq_append_iff.1 hr
    · cases page with
      | some page => cases hcall
      | none =>
        cases hcall
        rw [hresult]
        have hfit := Feed.suits_pageOf h.size h.ordered h.descending h.held awaits
        exact .asked pending out awaits
          (by simpa using hfit : ∀ p ∈ some (Source.pageOf a _ _), f.Suits a request.kind p)
    · cases hcall

theorem released (h : t.Browses a) {as bs : List (Call α)} {fetch : Fetch} {result : Result α}
    (hr : t.running = as ++ ⟨fetch, some result⟩ :: bs) :
    Browses a { t with running := as ++ bs, waiting := t.waiting ++ [(fetch.id, result)] } := by
  obtain ⟨f, running, waiting, told⟩ := t
  refine ⟨h.gated, h.size, h.ordered, h.descending, h.held, h.bounded, ?_⟩
  have hphase : Phase a f running waiting := h.phase
  have hr : running = as ++ ⟨fetch, some result⟩ :: bs := hr
  show Phase a f (as ++ bs) (waiting ++ [(fetch.id, result)])
  cases hphase with
  | quiet => simp at hr
  | arrived => simp at hr
  | @asked request page pending out awaits suits =>
    obtain ⟨rfl, hcall⟩ | ⟨-, hcall⟩ := List.singleton_eq_append_iff.1 hr
    · cases page with
      | none => cases hcall
      | some page =>
        cases hcall
        exact .arrived pending out awaits (suits page rfl)
    · cases hcall

theorem applied (h : t.Browses a) {request : Nat} {result : Result α}
    {waiting : List (Nat × Result α)} (hw : t.waiting = (request, result) :: waiting)
    (told : List (κ × Result α)) :
    Browses a ⟨(t.feed.complete request result).1, t.running, waiting, told⟩ := by
  obtain ⟨f, running, queue, earlier⟩ := t
  have hphase : Phase a f running queue := h.phase
  have hw : queue = (request, result) :: waiting := hw
  cases hphase with
  | quiet => cases hw
  | asked => cases hw
  | @arrived p page pending out awaits suits =>
    cases hw
    have hfind : f.pending.find? (·.id = p.id) = some p := by simp [pending]
    show Browses a ⟨(f.complete p.id (.ok page)).1, [], [], told⟩
    rw [Feed.complete_ok hfind]
    -- what is pending does not matter for the merge
    let f' : Feed α κ := { f with pending := f.pending.filter (·.id ≠ p.id) }
    have hawaits : f'.Awaits p.kind := Feed.Awaits.congr (f := f) (g := f') rfl rfl awaits
    have hsuits : f'.Suits a p.kind page := Feed.Suits.congr (f := f) (g := f') rfl suits
    have hsettings : (f'.merge p.kind page).settings = f.settings := Feed.settings_merge _ _ _
    have hpending : (f'.merge p.kind page).pending = [] := by
      rw [Feed.pending_merge]
      simp [f', pending]
    have hanchored := Feed.anchored_merge hawaits hsuits
    refine ⟨?_, h.size, h.ordered, Feed.descending_merge h.descending hsuits, ?_, ?_, ?_⟩
    · exact (congrArg Settings.refresh hsettings).trans h.gated
    · intro item hi
      exact (Feed.mem_items_merge hi).elim (h.held item) (suits.held item)
    · show (f'.merge p.kind page).settings.capacity ≤ 1 ∨ _
      rw [hsettings]
      exact h.bounded
    · exact .quiet hpending rfl ⟨hanchored.newer, hanchored.older, hanchored.unset⟩

/-- What a move does to the traffic keeps it in order, if calls are answered from the archive. -/
theorem step (h : t.Browses a) {d : Option (Deed α κ)} {u : Traffic α κ} (hs : t.Step d u)
    (hd : ∀ fetch result, d = some (.answered fetch result) →
      result = .ok (Source.pageOf a fetch.kind fetch.position)) : u.Browses a := by
  cases hs with
  | still => exact h
  | refused => exact ⟨h.gated, h.size, h.ordered, h.descending, h.held, h.bounded, h.phase⟩
  | issued hr => exact h.issued hr
  | answered hr => exact h.answered hr (hd _ _ rfl)
  | released hr => exact h.released hr
  | applied hw => exact h.applied hw _
  | stray hw hp =>
    have := h.applied hw t.told
    rwa [Feed.complete_of_find?_eq_none hp] at this

/-- Something newer than all items may be published at any moment. -/
theorem push (h : t.Browses a) {item : α}
    (hnew : ∀ other ∈ a.items, Identified.id other < Identified.id item)
    (hbounded : t.feed.settings.capacity ≤ 1 ∨ Identified.id item ≠ Int64.minValue) :
    t.Browses (a.push item) := by
  have hitems := Archive.items_push_of_newest hnew
  have hmem : ∀ other ∈ a.items, other ∈ (a.push item).items := by
    intro other ho
    rw [hitems]
    exact List.mem_cons_of_mem item ho
  have hsuits {kind : RequestKind} {page : Page α} (hs : t.feed.Suits a kind page) :
      t.feed.Suits (a.push item) kind page :=
    ⟨hs.cursor, hs.descending, fun i hi => hmem i (hs.held i hi), hs.refresh, hs.newer, hs.older⟩
  refine ⟨h.gated, h.size, ?_, h.descending, fun i hi => hmem i (h.held i hi), ?_, ?_⟩
  · rw [hitems]
    exact List.pairwise_cons.2 ⟨hnew, h.ordered⟩
  · rcases h.bounded with hcapacity | hleast
    · exact Or.inl hcapacity
    · refine hbounded.imp_right fun hitem => ?_
      rw [hitems]
      exact List.forall_mem_cons.2 ⟨hitem, hleast⟩
  · obtain ⟨f, running, waiting, told⟩ := t
    have hphase : Phase a f running waiting := h.phase
    show Phase (a.push item) f running waiting
    cases hphase with
    | quiet pending free anchored => exact .quiet pending free anchored
    | asked pending out awaits suits =>
      exact .asked pending out awaits fun p hp => hsuits (suits p hp)
    | arrived pending out awaits suits => exact .arrived pending out awaits (hsuits suits)

end Traffic.Browses

/-! ## Runs -/

/-- The items that an action publishes. -/
def Action.published? : Action α κ → Option α
  | .move (.push item) => some item
  | _ => none

namespace Session

/-- The move is one of a session whose calls are all answered by its source, and what it publishes
is newer than everything before. -/
def Allows (s : Session α κ) : Move α κ → Prop
  | .answer _ _ => False
  | .push item =>
    ∀ a ∈ s.source.archive, ∀ other ∈ a.items, Identified.id other < Identified.id item
  | _ => True

/-- The run consists of moves that are allowed when their turn comes. -/
def Orderly (s : Session α κ) : List (Action α κ) → Prop
  | [] => True
  | a :: actions => (∀ m, a = .move m → s.Allows m) ∧ (s.act a).Orderly actions

/-- The list and the cursors are in step with each other and with the archive. -/
structure InStep (s : Session α κ) : Prop where
  descending : Descending s.feed.items
  held : ∀ item ∈ s.feed.items, ∃ a ∈ s.source.archive, item ∈ a.items
  newer : s.feed.paging.inFlight = false →
    s.feed.paging.newerThan = s.feed.items.head?.map Identified.id
  older : s.feed.paging.inFlight = false →
    s.feed.paging.olderThan = s.feed.items.getLast?.map Identified.id

/-- What allowed moves keep holds after every orderly run. -/
theorem orderly_induction {P : Session α κ → Prop} {Q : α → Prop}
    (hmove : ∀ s m, s.Allows m → (∀ item, m = .push item → Q item) → P s → P (s.move m))
    {s : Session α κ} (h : P s) {actions : List (Action α κ)} (ha : s.Orderly actions)
    (hq : ∀ item ∈ actions.filterMap Action.published?, Q item) : P (s.run actions) := by
  -- `process` and `settle` consist of moves that are allowed at any time
  have hmoves (moves : List (Move α κ))
      (hfree : ∀ m ∈ moves, ∀ s : Session α κ, s.Allows m ∧ ∀ item, m ≠ .push item)
      {s : Session α κ} (h : P s) : P (moves.foldl move s) := by
    induction moves generalizing s with
    | nil => exact h
    | cons m moves ih =>
      obtain ⟨hm, hfree⟩ := List.forall_mem_cons.1 hfree
      exact ih hfree (hmove s m (hm s).1 (fun item he => absurd he ((hm s).2 item)) h)
  induction actions generalizing s with
  | nil => exact h
  | cons a actions ih =>
    have hq' : ∀ item ∈ actions.filterMap Action.published?, Q item := by
      intro item hi
      obtain ⟨b, hb, he⟩ := List.mem_filterMap.1 hi
      exact hq item (List.mem_filterMap.2 ⟨b, List.mem_cons_of_mem a hb, he⟩)
    refine ih ?_ ha.2 hq'
    cases a with
    | move m =>
      refine hmove s m (ha.1 m rfl) ?_ h
      rintro item rfl
      exact hq item (List.mem_filterMap.2 ⟨_, List.mem_cons_self, rfl⟩)
    | process =>
      rw [act_eq_foldl]
      refine hmoves _ (fun m hm s => ?_) h
      rw [List.eq_of_mem_replicate hm]
      exact ⟨trivial, by simp⟩
    | settle =>
      rw [act_eq_foldl]
      refine hmoves _ (fun m hm s => ?_) h
      rcases List.mem_append.1 hm with hm | hm
      · obtain ⟨n, -, hm⟩ := List.mem_flatMap.1 hm
        obtain rfl | rfl : m = .reach n ∨ m = .release n := by simpa using hm
        · exact ⟨trivial, by simp⟩
        · exact ⟨trivial, by simp⟩
      · rw [List.eq_of_mem_replicate hm]
        exact ⟨trivial, by simp⟩

/-- The session pages through an archive that answers all its calls. -/
def Browses (s : Session α κ) : Prop :=
  ∃ a, s.source.archive = some a ∧ s.source.script = [] ∧ s.traffic.Browses a

theorem Browses.move {s : Session α κ} (h : s.Browses) {m : Move α κ} (hm : s.Allows m)
    (hbounded : ∀ item, m = .push item →
      s.feed.settings.capacity ≤ 1 ∨ Identified.id item ≠ Int64.minValue) :
    (s.move m).Browses := by
  obtain ⟨a, ha, hscript, h⟩ := h
  by_cases hpush : ∃ item, m = .push item
  · obtain ⟨item, rfl⟩ := hpush
    refine ⟨a.push item, ?_, hscript, h.push (hm a ha) (hbounded item rfl)⟩
    show s.source.archive.map _ = _
    rw [ha]
    rfl
  · have hsource := source_move s fun item he => hpush ⟨item, he⟩
    refine ⟨a, by rw [hsource, ha], by rw [hsource, hscript], ?_⟩
    refine h.step (step_move h.nodup_running m) fun fetch result hd => ?_
    have hown : ∀ n result, m ≠ .answer n result := by
      rintro n result rfl
      exact hm
    rw [answer_of_deed hown hd, Source.answer, hscript, ha]
    rfl

theorem Browses.inStep {s : Session α κ} (h : s.Browses) : s.InStep := by
  obtain ⟨a, ha, -, h⟩ := h
  refine ⟨h.descending, fun item hi => ⟨a, ha, h.held item hi⟩, fun free => ?_, fun free => ?_⟩
  · exact (h.phase.anchored_of_free free).newer
  · exact (h.phase.anchored_of_free free).older

theorem browses_create {settings : Settings} (gated : settings.refresh = .gated) {items : List α}
    (distinct : (items.map Identified.id).Nodup)
    (above : ∀ item ∈ items, Identified.id item ≠ Int64.minValue) (n : Nat) :
    (create settings [] .initial (.plain ((Archive.ofList items).withPageSize n)) :
      Session α κ).Browses := by
  have hheld : ∀ item ∈ ([] : List α), item ∈ (Archive.ofList items).items := by simp
  refine ⟨_, rfl, rfl, gated, ?_, Archive.descending_ofList distinct, .nil, hheld, ?_, ?_⟩
  · have := Nat.le_max_right n 1
    show max n 1 ≠ 0
    omega
  · exact Or.inr fun item hi => above item (Archive.mem_items_ofList.1 hi)
  · exact .quiet rfl rfl ⟨rfl, rfl, fun _ => ⟨rfl, rfl⟩⟩

/-! ## The least id -/

theorem answer_plain (a : Archive α) (fetch : Fetch) :
    (Source.plain a).answer fetch = .ok (Source.pageOf a fetch.kind fetch.position) := rfl

/-- An item of the least id comes again when what is older is wanted. -/
theorem items_run_least {s : Session α κ} {settings : Settings} {item : α} {n : Nat}
    (hfeed : s.feed = .create settings [] .initial) (room : 1 < settings.capacity)
    (hsource : s.source = .plain ⟨[item], n⟩) (hsize : n ≠ 0) (hrunning : s.running = [])
    (hwaiting : s.waiting = []) (hleast : Identified.id item = Int64.minValue) :
    (s.run [.move (.request .refresh none), .settle,
      .move (.request .older none), .settle]).feed.items = [item, item] := by
  have hnewest : Source.pageOf ⟨[item], n⟩ .refresh none = .ofItems [item] :=
    Archive.query_singleton hsize rfl
  have holder : Source.pageOf ⟨[item], n⟩ .older (some (Identified.id item)) = .ofItems [item] :=
    Archive.query_singleton hsize (least_le_inclusiveBound hleast)
  have hsource' : (s.move (.request .refresh none)).settle.source = .plain ⟨[item], n⟩ := by
    rw [source_settle, source_move s (by simp), hsource]
  have hfeed' : (s.move (.request .refresh none)).settle.feed =
      ⟨[item], ⟨some (.ofItems [item]), some (.ofItems [item]), .hasMore, .unknown, false⟩,
        settings, [], 1⟩ := by
    rw [feed_request_settle hrunning hwaiting (by rw [hfeed]; rfl) (by simp), hsource,
      answer_plain, hfeed]
    show (Feed.complete _ 0 (.ok (Source.pageOf ⟨[item], n⟩ .refresh none))).1 = _
    rw [hnewest]
    rfl
  have hroom : (s.move (.request .refresh none)).settle.feed.hasRoom = true := by
    rw [hfeed']
    simpa [Feed.hasRoom] using room
  simp only [run_cons, run_nil, act]
  rw [feed_request_settle (running_settle _) (waiting_settle _) (by rw [hfeed'])
    (fun _ => hroom), hsource', answer_plain, hfeed']
  show (Feed.complete _ 1 (.ok (Source.pageOf ⟨[item], n⟩ .older
    (some (Identified.id item))))).1.items = _
  rw [holder]
  rfl

/-- Over an archive of distinct ids above the least one, the list and the cursors are in step after
every run in which nothing of the least id is published, or in which the list cannot grow beyond one
page.  In every other case some run leaves them out of step. -/
theorem in_step_run {settings : Settings} (gated : settings.refresh = .gated) {items : List α}
    (distinct : (items.map Identified.id).Nodup)
    (above : ∀ item ∈ items, Identified.id item ≠ Int64.minValue) (n : Nat) :
    let s : Session α κ :=
      create settings [] .initial (.plain ((Archive.ofList items).withPageSize n))
    (∀ actions, s.Orderly actions →
        (settings.capacity ≤ 1 ∨
          ∀ item ∈ actions.filterMap Action.published?, Identified.id item ≠ Int64.minValue) →
        (s.run actions).InStep) ∧
      (items = [] → 1 < settings.capacity → ∀ item, Identified.id item = Int64.minValue →
        ∃ actions, s.Orderly actions ∧ actions.filterMap Action.published? = [item] ∧
          ¬ (s.run actions).InStep) := by
  intro s
  refine ⟨fun actions horderly hbounded => ?_, ?_⟩
  · have hs : s.Browses ∧ s.feed.settings = settings :=
      ⟨browses_create gated distinct above n, rfl⟩
    let Q (item : α) : Prop := settings.capacity ≤ 1 ∨ Identified.id item ≠ Int64.minValue
    have hq : ∀ item ∈ actions.filterMap Action.published?, Q item := by
      intro item hi
      exact hbounded.imp_right fun h => h item hi
    let P (s : Session α κ) : Prop := s.Browses ∧ s.feed.settings = settings
    have hmove (s : Session α κ) (m : Move α κ) (hm : s.Allows m)
        (hitem : ∀ item, m = .push item → Q item) (h : P s) : P (s.move m) := by
      refine ⟨h.1.move hm fun item he => ?_, (settings_move s m).trans h.2⟩
      rw [h.2]
      exact hitem item he
    exact (orderly_induction hmove hs horderly hq).1.inStep
  · rintro rfl room item hleast
    refine ⟨.move (.push item) :: [.move (.request .refresh none), .settle,
      .move (.request .older none), .settle], ?_, rfl, fun h => ?_⟩
    · have hpush : s.Allows (.push item) := by
        rintro a ⟨⟩ other ho
        cases Archive.mem_items_ofList.1 ho
      refine ⟨?_, ?_, ?_, ?_, ?_, trivial⟩
      · rintro m ⟨⟩
        exact hpush
      all_goals
        rintro m ⟨⟩
        try trivial
    · have hsource : (s.push item).source = .plain ⟨[item], max n 1⟩ := by
        simp [s, push, create, Source.push, Source.plain, Archive.withPageSize, Archive.push,
          Archive.ofList]
      have hfeed : (s.push item).feed = .create settings [] .initial := rfl
      have hitems := items_run_least hfeed room hsource (by omega) rfl rfl hleast
      have hdescending := h.descending
      rw [run_cons, act, Session.move, hitems] at hdescending
      simp [Descending] at hdescending

/-- An item is published while the first page is on its way. -/
theorem in_step_two_pages :
    let s : Session Post Nat := create .standard [] .initial
      (.plain ((Archive.ofList [⟨1, none, none, none, none⟩]).withPageSize 1))
    let t := s.run [.move (.request .refresh none), .move (.push ⟨2, none, none, none, none⟩),
      .settle, .move (.request .older none), .settle]
    t.feed.items.map Post.id = [2, 1] ∧ t.InStep := by
  refine ⟨by decide +kernel, ?_⟩
  refine (in_step_run rfl (by decide) (by decide) 1).1 _ ⟨?_, ?_, ?_, ?_, ?_, trivial⟩
    (Or.inr (by decide))
  · rintro m ⟨⟩
    trivial
  · rintro m ⟨⟩ a ⟨⟩ other ho
    rw [List.mem_singleton.1 (Archive.mem_items_ofList.1 ho)]
    decide
  all_goals
    rintro m ⟨⟩
    try trivial

end Session

end Newsfeed
