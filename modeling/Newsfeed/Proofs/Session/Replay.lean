import Newsfeed.Proofs.Feed.Anchored
import Newsfeed.Proofs.Notice.Telling
import Newsfeed.Proofs.Session.Served

/-!
# The list as a replay of pages

The list of a session is what the applied pages make of the first one, one after the other, and each
page with items is announced on the board once, when it is applied; nothing else that happens to a
session touches the list or the board.  Others use the board as well: between the actions of the
owner, `Session.through` carries out commands that come from outside.  The `chronicle` of such a run
has both the deeds and the commands, and the board is as if `orders` had been carried out on it:
the commands, and one notice of change for every page with items.
-/

namespace Newsfeed

variable {α κ : Type}

/-- Something that happens to a session or is done at its board from outside. -/
inductive Incident (α κ : Type)
  | action (a : Action α κ)
  | command (c : Command)

/-- A list with a page more. An empty page changes nothing, whatever it was requested for. -/
def listWith (items : List α) : RequestKind × Page α → List α
  | (kind, page) =>
    if page.isEmpty then items
    else
      match kind with
      | .refresh => page.items
      | .newer => page.items ++ items
      | .older => items ++ page.items

/-- A page with items is applied. -/
def Deed.fills : Deed α κ → Bool
  | .applied _ _ (.ok page) => !page.isEmpty
  | _ => false

/-- What a session does at the board with a deed. -/
def Deed.orders (d : Deed α κ) : List Command := if d.fills then [.notify .changed] else []

/-- What is done at the board in a chronicle. -/
def orders : Deed α κ ⊕ Command → List Command
  | .inl d => d.orders
  | .inr c => [c]

def deedsOf (chronicle : List (Deed α κ ⊕ Command)) : List (Deed α κ) :=
  chronicle.filterMap Sum.getLeft?

/-- A board, and all that has happened on it, after a command. -/
def Board.obey (view : Board × List Happening) (c : Command) : Board × List Happening :=
  let b := ({ view.1 with trace := [] }.perform c).1
  (b, view.2 ++ b.trace)

theorem Feed.items_merge_eq_listWith (f : Feed α κ) (kind : RequestKind) (page : Page α) :
    (f.merge kind page).items = listWith f.items (kind, page) := by
  cases h : page.isEmpty <;> cases kind <;> simp [merge, listWith, h]

theorem Feed.items_complete_ok {f : Feed α κ} {id : Nat} {request : Pending κ}
    (h : f.pending.find? (·.id = id) = some request) (page : Page α) :
    (f.complete id (.ok page)).1.items = listWith f.items (request.kind, page) := by
  rw [complete_ok h]
  exact items_merge_eq_listWith _ _ _

namespace Session

/-- What has happened on the board. -/
def happenings (s : Session α κ) : List Happening :=
  s.trace.filterMap fun
    | .board h => some h
    | _ => none

def view (s : Session α κ) : Board × List Happening := (s.board, s.happenings)

section Runs

variable [Identified α]

def undergo (s : Session α κ) : Incident α κ → Session α κ
  | .action a => s.act a
  | .command c => (s.perform c).1

def through (s : Session α κ) (incidents : List (Incident α κ)) : Session α κ :=
  incidents.foldl undergo s

def entries (s : Session α κ) : Incident α κ → List (Deed α κ ⊕ Command)
  | .action a => (s.history (s.movesOf a)).map .inl
  | .command c => [.inr c]

def chronicle (s : Session α κ) : List (Incident α κ) → List (Deed α κ ⊕ Command)
  | [] => []
  | i :: incidents => s.entries i ++ (s.undergo i).chronicle incidents

/-- What every move and every command keeps, together with the chronicle so far, holds after every
run. -/
theorem chronicle_induction {P : Session α κ → List (Deed α κ ⊕ Command) → Prop}
    (hmove : ∀ s c m, P s c → P (s.move m) (c ++ (s.deed m).toList.map .inl))
    (hcommand : ∀ s c order, P s c → P (s.perform order).1 (c ++ [.inr order]))
    {s : Session α κ} (h : P s []) (incidents : List (Incident α κ)) :
    P (s.through incidents) (s.chronicle incidents) := by
  have moves (ms : List (Move α κ)) (s : Session α κ) (c) (h : P s c) :
      P (ms.foldl move s) (c ++ (s.history ms).map .inl) := by
    induction ms generalizing s c with
    | nil => simpa [history] using h
    | cons m ms ih =>
      rw [history, List.map_append, ← List.append_assoc]
      exact ih _ _ (hmove s c m h)
  suffices ∀ (s : Session α κ) c, P s c →
      P (s.through incidents) (c ++ s.chronicle incidents) from this s [] h
  induction incidents with
  | nil => intro s c h; simpa [chronicle, through] using h
  | cons i incidents ih =>
    intro s c h
    rw [chronicle, ← List.append_assoc]
    refine ih (s.undergo i) _ ?_
    cases i with
    | action a =>
      show P (s.act a) _
      rw [act_eq_foldl]
      exact moves _ s c h
    | command order => exact hcommand s c order h

end Runs

/-! ## The board of a session -/

section View

variable (s : Session α κ)

theorem view_perform (c : Command) : (s.perform c).1.view = Board.obey s.view c := by
  simp [perform, onBoard, view, happenings, Board.obey, List.filterMap_append, List.filterMap_map]

theorem traffic_perform (c : Command) : (s.perform c).1.traffic = s.traffic := by
  simp [perform, onBoard, traffic, told, List.filterMap_append, List.filterMap_map]

theorem view_tell (callback : Option κ) (result : Result α) :
    (s.tell callback result).view = s.view := by
  cases callback with
  | none => rfl
  | some callback => simp [tell, record, view, happenings]

theorem view_follow (response : Feed α κ × Response κ) : (s.follow response).view = s.view := by
  obtain ⟨feed, why | fetch⟩ := response
  · exact view_tell _ _ _
  · rfl

theorem view_answer (request : Nat) (result : Fetch → Result α) :
    (s.answer request result).view = s.view := by
  unfold answer
  split <;> rfl

theorem view_release (request : Nat) : (s.release request).1.view = s.view := by
  unfold release
  split <;> rfl

theorem view_apply (request : Nat) (result : Result α) :
    (s.apply request result).view =
      if (s.feed.complete request result).2.changed then Board.obey s.view (.notify .changed)
      else s.view := by
  unfold apply
  dsimp only
  rw [view_tell]
  split
  · exact view_perform _ _
  · rfl

end View

variable [Identified α]

theorem view_reach (s : Session α κ) (request : Nat) : (s.reach request).view = s.view := by
  unfold reach
  split
  · dsimp only
    rw [view_answer]
    split
    · simp [record, view, happenings]
    · rfl
  · rfl

omit [Identified α] in
/-- The list changes with a result that fills it. -/
theorem changed_complete (s : Session α κ) (request : Nat) (result : Result α) :
    (s.feed.complete request result).2.changed = (s.deedOfResult request result).fills := by
  unfold Feed.complete deedOfResult
  cases s.feed.pending.find? (·.id = request) with
  | none => rfl
  | some p => cases result <;> rfl

omit [Identified α] in
/-- A deed that does not fill the list leaves the board alone, and another one has it notify. -/
theorem foldl_obey_orders (d : Option (Deed α κ)) (view : Board × List Happening) :
    (d.toList.flatMap Deed.orders).foldl Board.obey view =
      if d.any Deed.fills then Board.obey view (.notify .changed) else view := by
  cases d with
  | none => rfl
  | some d => cases h : d.fills <;> simp [Deed.orders, h]

/-- The board obeys what a move orders. -/
theorem view_move (s : Session α κ) (m : Move α κ) :
    (s.move m).view = ((s.deed m).toList.flatMap Deed.orders).foldl Board.obey s.view := by
  rw [foldl_obey_orders]
  have request (kind : RequestKind) (callback : Option κ) :
      (s.deed (.request kind callback)).any Deed.fills = false := by
    rcases deed_request_cases s kind callback with ⟨why, -, h⟩ | h <;> rw [h] <;> rfl
  have answer (n : Nat) (result : Fetch → Result α) :
      (s.deedOfAnswer n result).any Deed.fills = false := by
    unfold deedOfAnswer
    split <;> rfl
  cases m with
  | request kind callback =>
    rw [request]
    exact view_follow s _
  | more position =>
    rcases move_more_cases s position with ⟨hm, hd⟩ | ⟨hm, hd⟩
    · rw [hm, hd, request]
      exact view_follow s _
    · rw [hm, hd]
      rfl
  | reach n =>
    show (s.reach n).view = if (s.deedOfAnswer n s.source.answer).any Deed.fills then _ else _
    rw [answer]
    exact view_reach s n
  | answer n result =>
    show (s.answer n fun _ => result).view =
      if (s.deedOfAnswer n fun _ => result).any Deed.fills then _ else _
    rw [answer]
    exact view_answer s n _
  | release n => exact view_release s n
  | applyNext =>
    show s.applyNext.view = if (s.waiting.head?.map fun r => s.deedOfResult r.1 r.2).any Deed.fills
      then _ else _
    unfold applyNext
    split
    next h => rw [h]; rfl
    next request result waiting h =>
      rw [h, view_apply, changed_complete]
      rfl
  | push item => rfl

end Session

/-! ## The replay -/

namespace Traffic

/-- The list is what the pages make of the first one that were applied. -/
structure Replays (items : List α) (t : Traffic α κ) (log : List (Deed α κ)) : Prop
    extends t.Ledger log where
  items : t.feed.items = (served log log).foldl listWith items

variable {items : List α} {t u : Traffic α κ} {log : List (Deed α κ)} {d : Option (Deed α κ)}

/-- Only a deed that fills the list changes it. -/
theorem items_step (hs : t.Step d u) (hd : d.any Deed.fills = false) :
    u.feed.items = t.feed.items := by
  cases hs with
  | @applied request result waiting p hw hp =>
    show (t.feed.complete request result).1.items = _
    cases result with
    | error why => rw [Feed.complete_error hp]
    | ok page =>
      have hempty : page.isEmpty = true := by simpa [Deed.fills] using hd
      exact (Feed.items_complete_ok hp page).trans (if_pos hempty)
  | _ => rfl

theorem Replays.step (h : t.Replays items log) (hs : t.Step d u) :
    u.Replays items (log ++ d.toList) := by
  refine ⟨h.toLedger.step hs, ?_⟩
  rw [h.served_append (fun _ he => he), List.foldl_append, ← h.items]
  cases hs with
  | stray hw hp => exact absurd hp (h.not_stray hw)
  | @applied request result waiting p hw hp =>
    show (t.feed.complete request result).1.items = _
    cases result with
    | error why => rw [Feed.complete_error hp]; rfl
    | ok page =>
      rw [Option.toList_some, h.served_applied hp]
      exact Feed.items_complete_ok hp page
  | _ => rfl

end Traffic

/-- As many notices are ordered as pages with items have been served. -/
theorem Traffic.Books.flatMap_orders {t : Traffic α κ} {log : List (Deed α κ)} (h : t.Books log)
    {deeds : List (Deed α κ)} (hsub : ∀ d ∈ deeds, d ∈ log) :
    deeds.flatMap Deed.orders =
      List.replicate ((served log deeds).countP (!·.2.isEmpty)) (.notify .changed) := by
  induction deeds with
  | nil => rfl
  | cons d deeds ih =>
    obtain ⟨hd, hsub⟩ := List.forall_mem_cons.1 hsub
    rw [List.flatMap_cons, ih hsub]
    cases d with
    | applied request callback result =>
      cases result with
      | error why => rfl
      | ok page =>
        obtain ⟨kind, hk⟩ := h.kindIn_applied hd
        have hpage : (Deed.applied request callback (.ok page)).page? log = some (kind, page) := by
          rw [Deed.page?, hk]
          rfl
        have hserved : served log (.applied request callback (.ok page) :: deeds) =
            (kind, page) :: served log deeds := List.filterMap_cons_some hpage
        rw [hserved, List.countP_cons]
        cases hempty : page.isEmpty <;>
          simp [Deed.orders, Deed.fills, hempty, List.replicate_succ]
    | _ => rfl

/-! ## What is told of a change -/

/-- The board is sound, and the numbers of the notifications so far are used up. -/
def Board.InOrder (view : Board × List Happening) : Prop :=
  view.1.Sound ∧ ∀ h ∈ view.2, ∀ k ∈ h.notification?, k < view.1.nextNotification

theorem Board.InOrder.after {view : Board × List Happening} (h : InOrder view) (c : Command) :
    InOrder (Board.obey view c) := by
  obtain ⟨hs, hgrows⟩ := grows_perform (b := { view.1 with trace := [] }) { h.1 with } c
  refine ⟨hgrows.sound { h.1 with }, fun x hx k hk => ?_⟩
  rcases List.mem_append.1 hx with hx | hx
  · exact Nat.lt_of_lt_of_le (h.2 x hx k hk) hgrows.next
  · rw [hgrows.trace] at hx
    exact (hgrows.numbered x hx k hk).2

theorem Board.inOrder_foldl_obey (commands : List Command) :
    InOrder (commands.foldl obey (.empty, [])) :=
  List.foldlRecOn commands obey ⟨sound_empty, fun _ hx => (nomatch hx)⟩
    fun _ h c _ => h.after c

/-- A notice of change is told once to each observer that is registered, in order, and broadcast
once. -/
theorem Board.InOrder.own_obey {view : Board × List Happening} (h : InOrder view) :
    ownHappenings view.1.nextNotification (obey view (.notify .changed)).2 =
      (view.1.registered.map fun n => .told view.1.nextNotification .changed n true) ++
        [.sent view.1.nextNotification .changed] := by
  obtain ⟨hs, hgrows, hown⟩ := own_notify (b := { view.1 with trace := [] }) { h.1 with } .changed
  have hbefore : ownHappenings view.1.nextNotification view.2 = [] :=
    ownHappenings_eq_nil_iff.2 fun x hx hk => Nat.lt_irrefl _ (h.2 x hx _ hk)
  have hlistens : ∀ n ∈ view.1.registered,
      ({ view.1 with trace := [] } : Board).listens .changed n = true := by
    intro n hn
    obtain ⟨o, ho⟩ := h.1.known hn
    rw [listens, show ({ view.1 with trace := [] } : Board).observer? n = some o from ho]
    simp
  show ownHappenings _ (view.2 ++ _) = _
  rw [ownHappenings_append, hbefore, hgrows.trace]
  refine hown.trans (congrArg (· ++ _) (List.map_congr_left fun n hn => ?_))
  rw [hlistens n hn]

namespace Session

variable [Identified α]

/-- The list is the replay of the pages that were applied, in order, and the board is as if it had
been told of each one with items by hand, and of nothing else.  Such a page is announced to all who
are registered when it is applied, and by one broadcast; any other move leaves the list and the
board alone. -/
theorem items_and_view_through (settings : Settings) (items : List α) (paging : Paging)
    (source : Source α) (incidents : List (Incident α κ)) :
    let s : Session α κ := create settings items paging source
    let t := s.through incidents
    let deeds := deedsOf (s.chronicle incidents)
    t.feed.items = (served deeds deeds).foldl listWith items ∧
      t.view = ((s.chronicle incidents).flatMap orders).foldl Board.obey s.view ∧
      deeds.flatMap Deed.orders =
        List.replicate ((served deeds deeds).countP (!·.2.isEmpty)) (.notify .changed) ∧
      ∀ m, if (t.deed m).any Deed.fills then
          ownHappenings t.board.nextNotification (t.move m).happenings =
            (t.board.registered.map fun n => .told t.board.nextNotification .changed n true) ++
              [.sent t.board.nextNotification .changed]
        else (t.move m).feed.items = t.feed.items ∧ (t.move m).view = t.view := by
  intro s t deeds
  have h : t.traffic.Replays items deeds ∧
      t.view = ((s.chronicle incidents).flatMap orders).foldl Board.obey (.empty, []) := by
    refine chronicle_induction
      (P := fun u c => u.traffic.Replays items (deedsOf c) ∧
        u.view = (c.flatMap orders).foldl Board.obey (.empty, [])) ?_ ?_
      ⟨⟨ledger_create settings items paging source, rfl⟩, rfl⟩ incidents
    · rintro u c m ⟨htraffic, hview⟩
      have hdeeds : deedsOf (c ++ (u.deed m).toList.map .inl) = deedsOf c ++ (u.deed m).toList := by
        rw [deedsOf, List.filterMap_append, List.filterMap_map]
        exact congrArg (_ ++ ·) List.filterMap_some
      rw [hdeeds, List.flatMap_append, List.foldl_append, ← hview, List.flatMap_map]
      exact ⟨htraffic.step (step_move htraffic.nodup_running m), view_move u m⟩
    · rintro u c order ⟨htraffic, hview⟩
      have hdeeds : deedsOf (c ++ [.inr order]) = deedsOf c := by
        rw [deedsOf, List.filterMap_append]
        exact List.append_nil _
      rw [hdeeds, List.flatMap_append, List.foldl_append, ← hview, traffic_perform]
      exact ⟨htraffic, view_perform u order⟩
  obtain ⟨htraffic, hview⟩ := h
  refine ⟨htraffic.items, hview, htraffic.flatMap_orders fun _ hd => hd, fun m => ?_⟩
  have hmove := (view_move t m).trans (foldl_obey_orders (t.deed m) t.view)
  split
  next hfills =>
    have horder : Board.InOrder t.view := hview ▸ Board.inOrder_foldl_obey _
    rw [if_pos hfills] at hmove
    have hnext : (t.move m).happenings = (Board.obey t.view (.notify .changed)).2 :=
      congrArg Prod.snd hmove
    rw [hnext]
    exact horder.own_obey
  next hfills =>
    rw [if_neg hfills] at hmove
    have hstep := step_move htraffic.nodup_running m
    exact ⟨Traffic.items_step hstep (by simpa using hfills), hmove⟩

end Session

end Newsfeed
