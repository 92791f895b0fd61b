import Newsfeed.Notice.Board

/-!
# A notification from start to end

A notification tells the observers that are registered when it starts, each once, and then
broadcasts its notice (`own_notify`).  What observers do meanwhile belongs to other
notifications: numbers are given out in ascending order, so a notification inside another one has
a later number.  `Board.Grows` is what everything that is done to a board has in common, and
`Board.IsRunner` says it of a way of carrying out commands, which a notification keeps
(`grows_notifyBy`).  It keeps boards `Sound`, so that ids are never given out twice and observers
stand in the order of their registration.
-/

namespace Newsfeed

namespace Channel

/-- A channel has become another one by sending some notices. Who reads it may have changed too. -/
def Carries (es : List Notice) (c c' : Channel) : Prop :=
  c' = { es.foldl send c with readers := c'.readers, nextReader := c'.nextReader }

theorem foldl_send_readers (es : List Notice) (c : Channel) (readers : List (Nat × Nat))
    (nextReader : Nat) : es.foldl send { c with readers, nextReader } =
      { es.foldl send c with readers, nextReader } := by
  induction es generalizing c with
  | nil => rfl
  | cons e es ih => exact ih (c.send e)

theorem Carries.trans {es es' : List Notice} {c c' c'' : Channel} (h : Carries es c c')
    (h' : Carries es' c' c'') : Carries (es ++ es') c c'' := by
  rw [Carries, h, foldl_send_readers] at h'
  rw [Carries, List.foldl_append]
  exact h'

theorem carries_receive (c : Channel) (n : Nat) : Carries [] c (c.receive n).1 := by
  unfold receive
  split
  · rfl
  · dsimp only
    split
    · rfl
    · split <;> rfl

end Channel

/-- The notification that a happening is part of. A reaction is part of none. -/
def Happening.notification? : Happening → Option Nat
  | told k _ _ _ => some k
  | reacted _ _ => none
  | sent k _ => some k

/-- What a notification has done itself. -/
def ownHappenings (k : Nat) (hs : List Happening) : List Happening :=
  hs.filter (·.notification? = some k)

theorem ownHappenings_eq_nil_iff {k : Nat} {hs : List Happening} :
    ownHappenings k hs = [] ↔ ∀ x ∈ hs, k ∉ x.notification? := by
  simp [ownHappenings, List.filter_eq_nil_iff]

theorem ownHappenings_sent (k : Nat) (e : Notice) :
    ownHappenings k [.sent k e] = [.sent k e] := by
  simp [ownHappenings, Happening.notification?]

/-- The notices that were broadcast among some happenings, in order. -/
def broadcasts (hs : List Happening) : List Notice :=
  hs.filterMap fun
    | .sent _ e => some e
    | _ => none

theorem broadcasts_append (hs hs' : List Happening) :
    broadcasts (hs ++ hs') = broadcasts hs ++ broadcasts hs' := List.filterMap_append

theorem ownHappenings_append (k : Nat) (hs hs' : List Happening) :
    ownHappenings k (hs ++ hs') = ownHappenings k hs ++ ownHappenings k hs' :=
  List.filter_append _ _

namespace Board

def observer? (b : Board) (n : Nat) : Option Observer := b.observers.find? (·.id = n)

/-- Whether an observer listens when it is told of a notice. -/
def listens (b : Board) (e : Notice) (n : Nat) : Bool :=
  (b.observer? n).any fun o => !(o.changesOnly && e = .invalidated)

/-- The board when an observer has these reactions left. -/
def leave (b : Board) (n : Nat) (reactions : List (Notice × List Command)) : Board :=
  { b with observers := b.observers.map fun o => if o.id = n then { o with reactions } else o }

/-- An observer that the board has is told; it listens, and then spends a reaction, or does not. -/
theorem tell_cases (b : Board) (k : Nat) (e : Notice) (n : Nat) :
    b.observer? n = none ∧ b.tell k e n = (b, []) ∨
    ∃ o, b.observer? n = some o ∧
      (b.listens e n = false ∧ b.tell k e n = (b.record (.told k e n false), []) ∨
        b.listens e n = true ∧ b.tell k e n =
          ((b.leave n (takeReaction e o.reactions).2).record (.told k e n true),
            (takeReaction e o.reactions).1)) := by
  unfold tell listens
  rw [← observer?]
  cases b.observer? n with
  | none => exact .inl ⟨rfl, rfl⟩
  | some o =>
    refine .inr ⟨o, rfl, ?_⟩
    dsimp only
    rw [Option.any_some]
    cases o.changesOnly && decide (e = .invalidated) with
    | true => exact .inl ⟨rfl, rfl⟩
    | false => exact .inr ⟨rfl, rfl⟩

/-- The observers bear the numbers that were given out, and those that are registered stand in the
order of their registration. -/
structure Sound (b : Board) : Prop where
  ids : b.observers.map Observer.id = List.range b.nextId
  registered : b.registered.Sublist (List.range b.nextId)

namespace Sound

variable {b : Board} (hb : b.Sound)

include hb

theorem nodup : (b.observers.map Observer.id).Nodup := hb.ids ▸ List.nodup_range

/-- Observers stand in ascending order. -/
theorem ascending : b.registered.Pairwise (· < ·) := List.pairwise_lt_range.sublist hb.registered

/-- The board has the observers that are registered. -/
theorem known {n : Nat} (hn : n ∈ b.registered) : ∃ o, b.observer? n = some o := by
  have hid : n ∈ b.observers.map Observer.id := hb.ids ▸ hb.registered.subset hn
  obtain ⟨o, ho, rfl⟩ := List.mem_map.1 hid
  exact Option.isSome_iff_exists.1 (List.find?_isSome.2 ⟨o, ho, by simp⟩)

end Sound

theorem sound_empty : empty.Sound := ⟨rfl, .refl _⟩

/-- A board has become another one, and these things happened. Each is part of notification
`m` or of one with a new number, which is used up. No observer is lost, and subscribers
were sent what is said to be. -/
structure Grows (m : Nat) (b b' : Board) (hs : List Happening) : Prop where
  trace : b'.trace = b.trace ++ hs
  numbered : ∀ h ∈ hs, ∀ k ∈ h.notification?,
    (k = m ∨ b.nextNotification ≤ k) ∧ k < b'.nextNotification
  next : b.nextNotification ≤ b'.nextNotification
  kept : ∀ n o, b.observer? n = some o →
    ∃ o', b'.observer? n = some o' ∧ o'.changesOnly = o.changesOnly
  sound : b.Sound → b'.Sound
  carries : Channel.Carries (broadcasts hs) b.channel b'.channel

namespace Grows

variable {m : Nat} {b b' b'' : Board} {hs hs' : List Happening}

theorem refl (m : Nat) (b : Board) : b.Grows m b [] where
  trace := (List.append_nil _).symm
  numbered _ h := nomatch h
  next := Nat.le_refl _
  kept _ o h := ⟨o, h, rfl⟩
  sound h := h
  carries := rfl

theorem trans (h : b.Grows m b' hs) (h' : b'.Grows m b'' hs') : b.Grows m b'' (hs ++ hs') where
  trace := by rw [h'.trace, h.trace, List.append_assoc]
  numbered x hx k hk := by
    rcases List.mem_append.1 hx with hx | hx
    · obtain ⟨hm, hlt⟩ := h.numbered x hx k hk
      exact ⟨hm, Nat.lt_of_lt_of_le hlt h'.next⟩
    · obtain ⟨hm, hlt⟩ := h'.numbered x hx k hk
      exact ⟨hm.imp_right (Nat.le_trans h.next), hlt⟩
  next := Nat.le_trans h.next h'.next
  kept n o ho := by
    obtain ⟨o', ho', hc⟩ := h.kept n o ho
    obtain ⟨o'', ho'', hc'⟩ := h'.kept n o' ho'
    exact ⟨o'', ho'', hc'.trans hc⟩
  sound hb := h'.sound (h.sound hb)
  carries := broadcasts_append hs hs' ▸ h.carries.trans h'.carries

/-- What has new numbers may happen inside any notification. -/
theorem inside (h : b.Grows b.nextNotification b' hs) (m : Nat) : b.Grows m b' hs :=
  have hnum : ∀ x ∈ hs, ∀ k ∈ x.notification?,
      (k = m ∨ b.nextNotification ≤ k) ∧ k < b'.nextNotification := by
    intro x hx k hk
    obtain ⟨hm, hlt⟩ := h.numbered x hx k hk
    exact ⟨.inr (by omega), hlt⟩
  { h with numbered := hnum }

theorem known (h : b.Grows m b' hs) {n : Nat} (hn : ∃ o, b.observer? n = some o) :
    ∃ o, b'.observer? n = some o := by
  obtain ⟨o, ho⟩ := hn
  obtain ⟨o', ho', -⟩ := h.kept n o ho
  exact ⟨o', ho'⟩

theorem listens_eq (h : b.Grows m b' hs) {n : Nat} (hn : ∃ o, b.observer? n = some o)
    (e : Notice) : b'.listens e n = b.listens e n := by
  obtain ⟨o, ho⟩ := hn
  obtain ⟨o', ho', hc⟩ := h.kept n o ho
  rw [listens, listens, ho, ho', Option.any_some, Option.any_some, hc]

/-- Nothing happens in a notification with a number used before, but for one. -/
theorem ownHappenings_eq_nil (h : b.Grows m b' hs) {k : Nat} (hk : k < b.nextNotification)
    (hm : k ≠ m) : ownHappenings k hs = [] := by
  refine ownHappenings_eq_nil_iff.2 fun x hx hown => ?_
  have := (h.numbered x hx k hown).1
  omega

end Grows

theorem grows_record {m : Nat} (b : Board) {h : Happening} (hunsent : broadcasts [h] = [])
    (hnum : ∀ k ∈ h.notification?, k = m ∧ k < b.nextNotification) :
    b.Grows m (b.record h) [h] where
  trace := rfl
  numbered x hx k hk := by
    obtain rfl := List.mem_singleton.1 hx
    exact ⟨.inl (hnum k hk).1, (hnum k hk).2⟩
  next := Nat.le_refl _
  kept _ o ho := ⟨o, ho, rfl⟩
  sound hb := { hb with }
  carries := hunsent ▸ rfl

theorem grows_channel (m : Nat) (b : Board) {channel : Channel}
    (h : Channel.Carries [] b.channel channel) : b.Grows m { b with channel } [] :=
  { Grows.refl m b with carries := h, sound := fun hb => { hb with } }

theorem grows_number (b : Board) :
    b.Grows b.nextNotification { b with nextNotification := b.nextNotification + 1 } [] :=
  { Grows.refl b.nextNotification b with
    numbered := fun _ h => nomatch h
    next := Nat.le_succ _
    sound := fun hb => { hb with } }

theorem grows_broadcast {b : Board} {k : Nat} (hk : k < b.nextNotification) (e : Notice) :
    b.Grows k (b.broadcast k e) [.sent k e] where
  trace := rfl
  numbered x hx j hj := by
    obtain rfl := List.mem_singleton.1 hx
    obtain rfl := Option.some.inj hj
    exact ⟨.inl rfl, hk⟩
  next := Nat.le_refl _
  kept _ o ho := ⟨o, ho, rfl⟩
  sound hb := { hb with }
  carries := rfl

theorem grows_register (m : Nat) (b : Board) (changesOnly : Bool)
    (reactions : List (Notice × List Command)) :
    b.Grows m (b.register changesOnly reactions).1 [] where
  trace := (List.append_nil _).symm
  numbered _ h := nomatch h
  next := Nat.le_refl _
  kept n o ho := ⟨o, by
    rw [observer?, register, List.find?_append, ← observer?, ho]
    rfl, rfl⟩
  sound hb := by
    refine ⟨?_, ?_⟩
    · simp [register, hb.ids, List.range_succ]
    · exact List.range_succ ▸ hb.registered.append (.refl _)
  carries := rfl

theorem grows_unregister (m : Nat) (b : Board) (n : Nat) : b.Grows m (b.unregister n).1 [] :=
  { Grows.refl m b with
    sound := fun hb => { hb with registered := List.filter_sublist.trans hb.registered } }

/-- What becomes of an observer's reactions is of no concern to the others. -/
theorem grows_leave (m : Nat) (b : Board) (n : Nat) (reactions : List (Notice × List Command)) :
    b.Grows m (b.leave n reactions) [] := by
  let spend (o : Observer) : Observer := if o.id = n then { o with reactions } else o
  have hid : ∀ o, (spend o).id = o.id := fun o => by dsimp only [spend]; split <;> rfl
  have hchanges : ∀ o, (spend o).changesOnly = o.changesOnly := fun o => by
    dsimp only [spend]
    split <;> rfl
  have hfind : ∀ n', (b.leave n reactions).observer? n' = (b.observer? n').map spend := by
    intro n'
    have hsame :
        (fun o : Observer => decide (o.id = n')) ∘ spend = fun o => decide (o.id = n') := by
      funext o
      rw [Function.comp, hid]
    rw [observer?, leave, List.find?_map, hsame]
    rfl
  refine { Grows.refl m b with
    kept := fun n' o ho => ⟨spend o, ?_, hchanges o⟩
    sound := fun hb => { hb with ids := ?_ } }
  · rw [hfind, ho]
    rfl
  · refine Eq.trans ?_ hb.ids
    rw [leave, List.map_map]
    exact List.map_congr_left fun o _ => hid o

/-- Steps that make boards grow may be taken one after the other. -/
theorem grows_foldl {α : Type} {f : Board → α → Board}
    (hf : ∀ (b : Board) a, b.Sound → ∃ hs, b.Grows b.nextNotification (f b a) hs) (as : List α)
    {b : Board} (hb : b.Sound) : ∃ hs, b.Grows b.nextNotification (as.foldl f b) hs := by
  induction as generalizing b with
  | nil => exact ⟨[], .refl _ b⟩
  | cons a as ih =>
    obtain ⟨hs, h⟩ := hf b a hb
    obtain ⟨hs', h'⟩ := ih (h.sound hb)
    exact ⟨_, h.trans (h'.inside _)⟩

/-! ## One observer -/

/-- One command of an observer's reaction, carried out with `run`. -/
def reactBy (run : Board → Command → Board × Reply) (n : Nat) (b : Board) (c : Command) : Board :=
  (run b c).1.record (.reacted n (run b c).2)

theorem tellBy_eq (run : Board → Command → Board × Reply) (k : Nat) (e : Notice) (b : Board)
    (n : Nat) : tellBy run k e b n = (b.tell k e n).2.foldl (reactBy run n) (b.tell k e n).1 := rfl

/-- A way of carrying out commands under which boards grow. -/
def IsRunner (run : Board → Command → Board × Reply) : Prop :=
  ∀ (b : Board) c, b.Sound → ∃ hs, b.Grows b.nextNotification (run b c).1 hs

variable {run : Board → Command → Board × Reply}

theorem grows_reactBy (run : Board → Command → Board × Reply) (m n : Nat) (b : Board)
    (c : Command) : (run b c).1.Grows m (reactBy run n b c) [.reacted n (run b c).2] :=
  grows_record _ rfl fun _ hk => nomatch hk

theorem IsRunner.grows_foldl_reactBy (hrun : IsRunner run) (n : Nat) (commands : List Command)
    {b : Board} (hb : b.Sound) :
    ∃ hs, b.Grows b.nextNotification (commands.foldl (reactBy run n) b) hs := by
  refine grows_foldl (fun b c hb => ?_) commands hb
  obtain ⟨hs, h⟩ := hrun b c hb
  exact ⟨_, h.trans (grows_reactBy run _ n b c)⟩

section Tell

variable {b : Board} {k n : Nat} (hk : k < b.nextNotification) (hn : ∃ o, b.observer? n = some o)
  (e : Notice)

include hk hn

/-- An observer that the board has is told. -/
theorem grows_tell : b.Grows k (b.tell k e n).1 [.told k e n (b.listens e n)] := by
  have hnum (listened : Bool) : ∀ j ∈ (Happening.told k e n listened).notification?,
      j = k ∧ j < b.nextNotification := by
    intro j hj
    obtain rfl := Option.some.inj hj
    exact ⟨rfl, hk⟩
  obtain ⟨hnone, -⟩ | ⟨o, -, ⟨hlistens, htell⟩ | ⟨hlistens, htell⟩⟩ := b.tell_cases k e n
  · obtain ⟨o, ho⟩ := hn
    rw [hnone] at ho
    cases ho
  · rw [htell, hlistens]
    exact grows_record b rfl (hnum false)
  · rw [htell, hlistens]
    exact (grows_leave k b n _).trans (grows_record _ rfl (hnum true))

/-- An observer is told once in a notification, and its reaction belongs to others. -/
theorem IsRunner.grows_tellBy (hrun : IsRunner run) (hb : b.Sound) :
    ∃ hs, b.Grows k (tellBy run k e b n) hs ∧
      ownHappenings k hs = [.told k e n (b.listens e n)] := by
  have htell := grows_tell hk hn e
  obtain ⟨hs, h⟩ := hrun.grows_foldl_reactBy n (b.tell k e n).2 (htell.sound hb)
  have hlater : k < (b.tell k e n).1.nextNotification := Nat.lt_of_lt_of_le hk htell.next
  refine ⟨_, htell.trans (h.inside k), ?_⟩
  rw [ownHappenings_append, h.ownHappenings_eq_nil hlater (Nat.ne_of_lt hlater)]
  simp [ownHappenings, Happening.notification?]

end Tell

/-! ## All observers -/

theorem IsRunner.grows_foldl_tellBy (hrun : IsRunner run) {k : Nat} (e : Notice) {ns : List Nat}
    {b : Board} (hk : k < b.nextNotification) (hb : b.Sound)
    (hns : ∀ n ∈ ns, ∃ o, b.observer? n = some o) :
    ∃ hs, b.Grows k (ns.foldl (tellBy run k e) b) hs ∧
      ownHappenings k hs = ns.map fun n => .told k e n (b.listens e n) := by
  induction ns generalizing b with
  | nil => exact ⟨[], .refl k b, rfl⟩
  | cons n ns ih =>
    obtain ⟨hn, hns⟩ := List.forall_mem_cons.1 hns
    obtain ⟨hs, h, hown⟩ := hrun.grows_tellBy hk hn e hb
    obtain ⟨hs', h', hown'⟩ := ih (Nat.lt_of_lt_of_le hk h.next) (h.sound hb)
      fun n' hn' => h.known (hns n' hn')
    have hsame : (ns.map fun n' => Happening.told k e n' ((tellBy run k e b n).listens e n')) =
        ns.map fun n' => .told k e n' (b.listens e n') :=
      List.map_congr_left fun n' hn' => by rw [h.listens_eq (hns n' hn')]
    refine ⟨_, h.trans h', ?_⟩
    rw [ownHappenings_append, hown, hown', hsame]
    rfl

/-- A notification tells everyone who is registered when it starts, and broadcasts its notice. -/
theorem IsRunner.grows_notifyBy (hrun : IsRunner run) {b : Board} (hb : b.Sound) (e : Notice) :
    ∃ hs, b.Grows b.nextNotification (b.notifyBy run e) (hs ++ [.sent b.nextNotification e]) ∧
      ownHappenings b.nextNotification hs =
        b.registered.map fun n => .told b.nextNotification e n (b.listens e n) := by
  have hstart := grows_number b
  obtain ⟨hs, h, hown⟩ := hrun.grows_foldl_tellBy e
    (b := { b with nextNotification := b.nextNotification + 1 }) (Nat.lt_succ_self _)
    (hstart.sound hb) fun _ hn => hb.known hn
  have hsent := grows_broadcast (Nat.lt_of_lt_of_le (Nat.lt_succ_self b.nextNotification) h.next) e
  exact ⟨hs, (hstart.trans h).trans hsent, hown⟩

/-- So does a row of notifications. -/
theorem IsRunner.grows_foldl_notifyBy (hrun : IsRunner run) (e : Nat → Notice) (is : List Nat)
    {b : Board} (hb : b.Sound) :
    ∃ hs, b.Grows b.nextNotification (is.foldl (fun b i => b.notifyBy run (e i)) b) hs := by
  refine grows_foldl (fun b i hb => ?_) is hb
  obtain ⟨hs, h, -⟩ := hrun.grows_notifyBy hb (e i)
  exact ⟨_, h⟩

theorem isRunner_performWithin (fuel : Nat) : IsRunner (performWithin fuel) := by
  induction fuel with
  | zero => exact fun b c hb => ⟨[], .refl _ b⟩
  | succ fuel ih =>
    intro b c hb
    cases c with
    | register changesOnly reactions => exact ⟨[], grows_register _ b changesOnly reactions⟩
    | unregister n => exact ⟨[], grows_unregister _ b n⟩
    | notify e =>
      obtain ⟨hs, h, -⟩ := ih.grows_notifyBy hb e
      exact ⟨_, h⟩
    | notifyMany count => exact ih.grows_foldl_notifyBy numbered (List.range count) hb
    | subscribe => exact ⟨[], grows_channel _ b rfl⟩
    | unsubscribe n => exact ⟨[], grows_channel _ b rfl⟩
    | receive n => exact ⟨[], grows_channel _ b (b.channel.carries_receive n)⟩
    | describe => exact ⟨[], .refl _ b⟩

theorem isRunner_perform : IsRunner perform := fun b c hb => isRunner_performWithin _ b c hb

/-- Whatever is done to a board makes it grow. -/
theorem grows_perform {b : Board} (hb : b.Sound) (c : Command) :
    ∃ hs, b.Grows b.nextNotification (b.perform c).1 hs := isRunner_perform b c hb

theorem grows_notify {b : Board} (hb : b.Sound) (e : Notice) :
    ∃ hs, b.Grows b.nextNotification (b.perform (.notify e)).1
        (hs ++ [.sent b.nextNotification e]) ∧
      ownHappenings b.nextNotification hs =
        b.registered.map fun n => .told b.nextNotification e n (b.listens e n) :=
  (isRunner_performWithin _).grows_notifyBy hb e

/-- A notice is told to everyone who is registered, in order, and is then broadcast, whatever the
observers do meanwhile. -/
theorem own_notify {b : Board} (hb : b.Sound) (e : Notice) :
    ∃ hs, b.Grows b.nextNotification (b.perform (.notify e)).1 hs ∧
      ownHappenings b.nextNotification hs =
        (b.registered.map fun n => .told b.nextNotification e n (b.listens e n)) ++
          [.sent b.nextNotification e] := by
  obtain ⟨hs, h, hown⟩ := grows_notify hb e
  refine ⟨_, h, ?_⟩
  rw [ownHappenings_append, hown, ownHappenings_sent]

end Board

end Newsfeed
