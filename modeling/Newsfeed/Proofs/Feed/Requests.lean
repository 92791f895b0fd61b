import Newsfeed.Feed

/-!
# What a feed does with requests and results

`Feed.request` makes a request of any kind, and `Feed.Responds` lists the ways in which a feed may
respond: it refuses and stays as it is, or it issues the request under the next number.  A result
only touches the request that it belongs to; `Feed.pending_complete` and `Feed.callback_complete`
say this without a distinction of cases.
-/

namespace Newsfeed

variable {α κ : Type}

/-- The bound that a request of some kind starts from. -/
def Paging.bound (p : Paging) : RequestKind → Option Int64
  | .refresh => none
  | .newer => p.newerThan
  | .older => p.olderThan

/-- The state of paging once a request of some kind is out. -/
def Paging.requested (p : Paging) : RequestKind → Paging
  | .refresh => p.depart.reset
  | .newer | .older => p.depart

@[simp]
theorem Paging.inFlight_requested (p : Paging) (kind : RequestKind) :
    (p.requested kind).inFlight = true := by
  cases kind <;> rfl

namespace Feed

theorem hasRoom_iff {f : Feed α κ} :
    f.hasRoom = true ↔ f.items.length < f.settings.capacity := decide_eq_true_iff

def request (f : Feed α κ) (kind : RequestKind) (callback : Option κ) : Feed α κ × Response κ :=
  match kind with
  | .refresh => f.refresh callback
  | .newer => f.requestNewer callback
  | .older => f.requestOlder callback

/-- The feed that has issued a request of some kind. -/
def sent (f : Feed α κ) (kind : RequestKind) (callback : Option κ) : Feed α κ :=
  { f with
    paging := f.paging.requested kind
    pending := f.pending ++ [⟨f.nextRequest, kind, callback⟩]
    nextRequest := f.nextRequest + 1 }

def nextFetch (f : Feed α κ) (kind : RequestKind) : Fetch :=
  ⟨f.nextRequest, kind, f.paging.bound kind⟩

/-- How a feed may respond to a request. -/
inductive Responds (f : Feed α κ) (kind : RequestKind) (callback : Option κ) :
    Feed α κ × Response κ → Prop
  | noRoom (grows : kind ≠ .refresh) (full : f.hasRoom = false) :
    Responds f kind callback (f, .refused .noRoom callback)
  | busy (out : f.paging.inFlight = true) (gated : kind = .refresh → f.settings.refresh = .gated) :
    Responds f kind callback (f, .refused .inFlight callback)
  | issued (free : f.paging.inFlight = true → kind = .refresh ∧ f.settings.refresh = .ungated)
    (room : kind ≠ .refresh → f.hasRoom = true) :
    Responds f kind callback (f.sent kind callback, .issued (f.nextFetch kind))

theorem responds_extend (f : Feed α κ) {kind : RequestKind} (hk : kind ≠ .refresh)
    (callback : Option κ) :
    Responds f kind callback (f.extend kind (f.paging.bound kind) callback) := by
  unfold extend
  have hr : f.paging.requested kind = f.paging.depart := by
    cases kind with
    | refresh => exact absurd rfl hk
    | newer | older => rfl
  cases room : f.hasRoom with
  | false => exact .noRoom hk room
  | true =>
    rw [if_pos rfl]
    cases out : f.paging.inFlight with
    | true =>
      rw [Paging.begin?_eq_none_iff.2 out]
      exact .busy out fun h => absurd h hk
    | false =>
      rw [Paging.begin?_eq_some_iff.2 ⟨out, rfl⟩, ← hr]
      exact .issued (fun h => by simp [out] at h) fun _ => room

theorem responds_refresh (f : Feed α κ) (callback : Option κ) :
    Responds f .refresh callback (f.refresh callback) := by
  unfold refresh
  split
  next h => exact .busy h.1 fun _ => h.2
  next h =>
    refine .issued (fun out => ⟨rfl, ?_⟩) fun h => absurd rfl h
    cases hp : f.settings.refresh with
    | gated => exact absurd ⟨out, hp⟩ h
    | ungated => rfl

theorem responds_request (f : Feed α κ) (kind : RequestKind) (callback : Option κ) :
    Responds f kind callback (f.request kind callback) := by
  cases kind with
  | refresh => exact responds_refresh f callback
  | newer => exact responds_extend f (by decide) callback
  | older => exact responds_extend f (by decide) callback

/-- A request is refused for two causes. -/
theorem Responds.cause {f : Feed α κ} {kind : RequestKind} {callback c : Option κ}
    {response : Feed α κ × Response κ} {why : Failure} (h : f.Responds kind callback response)
    (hr : response.2 = .refused why c) : why = .noRoom ∨ why = .inFlight := by
  cases h with
  | noRoom => cases hr; exact Or.inl rfl
  | busy => cases hr; exact Or.inr rfl
  | issued => cases hr

/-- A request is issued only if the flag and the length of the list allow it. -/
theorem Responds.allowed {f g : Feed α κ} {kind : RequestKind} {callback : Option κ} {fetch : Fetch}
    (h : f.Responds kind callback (g, .issued fetch)) :
    (f.paging.inFlight = true → kind = .refresh ∧ f.settings.refresh = .ungated) ∧
      (kind ≠ .refresh → f.hasRoom = true) := by
  cases h with
  | issued free room => exact ⟨free, room⟩

/-- A request is issued if no other one is out and there is room for what it asks for. -/
theorem request_of_free {f : Feed α κ} {kind : RequestKind} (callback : Option κ)
    (free : f.paging.inFlight = false) (room : kind ≠ .refresh → f.hasRoom = true) :
    f.request kind callback = (f.sent kind callback, .issued (f.nextFetch kind)) := by
  have h := f.responds_request kind callback
  generalize f.request kind callback = response at h
  cases h with
  | noRoom grows full => rw [room grows] at full; cases full
  | busy out => rw [free] at out; cases out
  | issued => rfl

/-- While a request is out, one for either end is refused. -/
theorem request_of_inFlight {f : Feed α κ} {kind : RequestKind} (hk : kind ≠ .refresh)
    (out : f.paging.inFlight = true) (callback : Option κ) :
    f.request kind callback =
      (f, .refused (if f.hasRoom then .inFlight else .noRoom) callback) := by
  have hextend (position : Option Int64) : f.extend kind position callback =
      (f, .refused (if f.hasRoom then .inFlight else .noRoom) callback) := by
    rw [extend, Paging.begin?_eq_none_iff.2 out]
    cases f.hasRoom <;> rfl
  cases kind with
  | refresh => exact absurd rfl hk
  | newer | older => exact hextend _

@[simp]
theorem settings_request (f : Feed α κ) (kind : RequestKind) (callback : Option κ) :
    (f.request kind callback).1.settings = f.settings := by
  have h := f.responds_request kind callback
  generalize f.request kind callback = response at h
  cases h <;> rfl

/-- A request for more is a request for older items without a callback, or none at all. -/
theorem requestMore_eq (f : Feed α κ) (position : Nat) :
    f.requestMore position =
      if f.wantsMore position then
        ((f.request .older none).1, some (f.request .older none).2)
      else (f, none) := rfl

/-- While a request is out, no more items are requested. -/
theorem requestMore_of_inFlight {f : Feed α κ} (out : f.paging.inFlight = true) (position : Nat) :
    f.requestMore position = (f, none) := by
  rw [requestMore_eq, if_neg]
  simp [wantsMore, out]

/-! ## Results -/

@[simp]
theorem pending_merge (f : Feed α κ) (kind : RequestKind) (page : Page α) :
    (f.merge kind page).pending = f.pending := by
  unfold merge
  split <;> cases kind <;> rfl

@[simp]
theorem nextRequest_merge (f : Feed α κ) (kind : RequestKind) (page : Page α) :
    (f.merge kind page).nextRequest = f.nextRequest := by
  unfold merge
  split <;> cases kind <;> rfl

@[simp]
theorem settings_merge (f : Feed α κ) (kind : RequestKind) (page : Page α) :
    (f.merge kind page).settings = f.settings := by
  unfold merge
  split <;> cases kind <;> rfl

/-- The request that a result belongs to is not pending any more, and every other one still is. -/
theorem pending_complete (f : Feed α κ) (id : Nat) (result : Result α) :
    (f.complete id result).1.pending = f.pending.filter (·.id ≠ id) := by
  unfold complete
  split
  next h =>
    symm
    simpa using h
  next request h => cases result <;> simp

@[simp]
theorem nextRequest_complete (f : Feed α κ) (id : Nat) (result : Result α) :
    (f.complete id result).1.nextRequest = f.nextRequest := by
  unfold complete
  split
  · rfl
  · cases result <;> simp

@[simp]
theorem settings_complete (f : Feed α κ) (id : Nat) (result : Result α) :
    (f.complete id result).1.settings = f.settings := by
  unfold complete
  split
  · rfl
  · cases result <;> simp

/-- The callback of a result is that of its own request. -/
theorem callback_complete (f : Feed α κ) (id : Nat) (result : Result α) :
    (f.complete id result).2.callback = (f.pending.find? (·.id = id)).bind Pending.callback := by
  unfold complete
  split
  next h => rw [h]; rfl
  next request h => rw [h]; cases result <;> rfl

/-- No request is out once a result has been applied to its request. -/
theorem inFlight_complete {f : Feed α κ} {id : Nat} {request : Pending κ}
    (h : f.pending.find? (·.id = id) = some request) (result : Result α) :
    (f.complete id result).1.paging.inFlight = false := by
  unfold complete
  rw [h]
  cases result <;> rfl

/-- A result with distinct pending requests takes one of them away. -/
theorem perm_cons_pending_complete {f : Feed α κ} {id : Nat} {request : Pending κ}
    (hnodup : (f.pending.map Pending.id).Nodup)
    (h : f.pending.find? (·.id = id) = some request) (result : Result α) :
    f.pending.Perm (request :: (f.complete id result).1.pending) := by
  obtain ⟨hid, as, bs, hs, -⟩ := List.find?_eq_some_iff_append.1 h
  have hid : request.id = id := by simpa using hid
  have hperm : f.pending.Perm (request :: (as ++ bs)) := by
    rw [hs]
    exact List.perm_middle
  have hne : ∀ p ∈ as ++ bs, p.id ≠ id := by
    intro p hp he
    refine (List.nodup_cons.1 ((hperm.map Pending.id).nodup hnodup)).1 ?_
    exact List.mem_map.2 ⟨p, hp, he.trans hid.symm⟩
  have hfilter : f.pending.filter (·.id ≠ id) = as ++ bs := by
    rw [hs, List.filter_append, List.filter_cons_of_neg (by simpa using hid),
      ← List.filter_append]
    exact List.filter_eq_self.2 fun p hp => by simpa using hne p hp
  rw [pending_complete, hfilter]
  exact hperm

theorem complete_of_find?_eq_none {f : Feed α κ} {id : Nat}
    (h : f.pending.find? (·.id = id) = none) (result : Result α) :
    (f.complete id result).1 = f := by
  unfold complete
  rw [h]

end Feed

end Newsfeed
