import Newsfeed.Annotated.Reconcile

/-!
# The photo of a post

A post and its annotated text are both searched for the last photo, each in its own list and by its
own test.  Reconciling changes nothing of an entity but its place, so that the lists say the same
one by one (`Post.map_payload_annotated`), and both searches end at the same number
(`Post.lastAt_annotated_iff`).
-/

namespace Newsfeed

/-- What an entity shows and opens, wherever it lies. -/
structure Payload where
  url : String
  shown : Option String
  expanded : Option String
  kind : EntityKind

/-- Whether it is the payload of a photo. -/
def Payload.isPhoto (x : Payload) : Bool :=
  match x.kind with
  | .url => false
  | .media _ kind _ => kind = some "photo"

def Link.payload (l : Link) : Payload where
  url := l.url
  shown := l.shown
  expanded := l.expanded
  kind := .url

def Media.payload (m : Media) : Payload where
  url := m.url
  shown := m.shown
  expanded := m.expanded
  kind := .media m.id m.kind m.image

theorem Media.isPhoto_eq : Media.isPhoto = Payload.isPhoto ∘ Media.payload := rfl

namespace Entity

variable {s : Space}

def payload (e : Entity s) : Payload where
  url := e.url
  shown := e.shown
  expanded := e.expanded
  kind := e.kind

theorem isPhoto_eq : (isPhoto : Entity s → Bool) = Payload.isPhoto ∘ payload := by
  funext e
  obtain ⟨span, url, shown, expanded, kind⟩ := e
  cases kind <;> rfl

end Entity

/-! ## Lists of entities -/

/-- Entities that are placed over other stretches keep their payloads. -/
theorem map_payload_zipWith_place {s t : Space} {entities : List (Entity s)} {spans : List (Span t)}
    (h : entities.length ≤ spans.length) :
    (entities.zipWith Entity.place spans).map Entity.payload = entities.map Entity.payload := by
  rw [← List.map_uncurry_zip_eq_zipWith, List.map_map]
  -- the payload is that of the entity, whatever stretch stands beside it
  show (entities.zip spans).map (Entity.payload ∘ Prod.fst) = _
  rw [← List.map_map, List.map_fst_zip h]

theorem map_payload_followCollapses (es : List Collapse) (entities : List (Entity .raw)) :
    (followCollapses es entities).map Entity.payload = entities.map Entity.payload :=
  map_payload_zipWith_place (by simp)

theorem map_payload_followPairs (pairs : List Int) (entities : List (Entity .raw)) :
    (followPairs pairs entities).map Entity.payload = entities.map Entity.payload := by
  rw [followPairs, List.map_map]
  rfl

theorem Annotated.map_payload_reconcile (a : Annotated .raw) (p : Post) :
    (a.reconcile p).links.map Entity.payload = a.links.map Entity.payload ∧
      (a.reconcile p).media.map Entity.payload = a.media.map Entity.payload := by
  rw [reconcile]
  dsimp only
  split
  · exact ⟨map_payload_followPairs [] a.links, map_payload_followPairs [] a.media⟩
  · have hkept (entities : List (Entity .raw)) :
        (followText (Text.unescape p.rawText.toList).text
          (followCollapses (Text.unescape p.rawText.toList).collapses entities)).map
            Entity.payload =
        entities.map Entity.payload :=
      (map_payload_followPairs _ _).trans (map_payload_followCollapses _ entities)
    exact ⟨hkept a.links, hkept a.media⟩

namespace Post

/-- The links of a post. -/
def links (p : Post) : List Link := p.entities.elim [] Entities.linkList

/-- The media of a post. -/
def media (p : Post) : List Media := p.entities.elim [] Entities.mediaList

/-- The last photo of a post, if it has photos. -/
def lastPhoto? (p : Post) : Option Media := p.entities.bind Entities.lastPhoto?

theorem map_payload_annotated (p : Post) :
    p.annotated.links.map Entity.payload = p.links.map Link.payload ∧
      p.annotated.media.map Entity.payload = p.media.map Media.payload := by
  obtain ⟨hlinks, hmedia⟩ := (Annotated.empty.addEntities p).map_payload_reconcile p
  rw [annotated, hlinks, hmedia, Annotated.addEntities, links, media]
  cases p.entities with
  | none => exact ⟨rfl, rfl⟩
  | some es => simp [Annotated.empty, Entity.ofLink, Entity.ofMedia, Entity.payload, Link.payload,
      Media.payload]

theorem any_hasPhoto (p : Post) : p.entities.any Entities.hasPhoto = p.lastPhoto?.isSome := by
  rw [lastPhoto?]
  cases p.entities <;> rfl

end Post

/-! ## The last one -/

section Last

variable {α β γ : Type} {q : α → Bool} {xs : List α} {i : Nat} {x : α}

/-- Entry number `i` of a list has a property, and no later one has it. -/
def LastAt (q : α → Bool) (xs : List α) (i : Nat) (x : α) : Prop :=
  ∃ before later, xs = before ++ x :: later ∧ before.length = i ∧ q x = true ∧
    ∀ y ∈ later, q y = false

theorem find?_reverse_eq_some_iff : xs.reverse.find? q = some x ↔ ∃ i, LastAt q xs i x := by
  rw [List.find?_eq_some_iff_append]
  constructor
  · rintro ⟨hx, later, before, hxs, hlater⟩
    refine ⟨_, before.reverse, later.reverse, ?_, rfl, hx, fun y hy => ?_⟩
    · simpa using congrArg List.reverse hxs
    · simpa using hlater y (List.mem_reverse.1 hy)
  · rintro ⟨_, before, later, rfl, -, hx, hlater⟩
    refine ⟨hx, later.reverse, before.reverse, by simp, fun y hy => ?_⟩
    simpa using hlater y (List.mem_reverse.1 hy)

/-- In lists that map to the same one, the last entry with a property has the same number. -/
theorem LastAt.exists_of_map_eq {f : α → γ} {g : β → γ} {q : γ → Bool} {ys : List β}
    (h : LastAt (q ∘ f) xs i x) (hmap : xs.map f = ys.map g) : ∃ y, LastAt (q ∘ g) ys i y := by
  obtain ⟨before, later, rfl, rfl, hx, hlater⟩ := h
  rw [List.map_append, List.map_cons, eq_comm, List.map_eq_append_iff] at hmap
  obtain ⟨before', rest, rfl, hbefore, hrest⟩ := hmap
  obtain ⟨y, later', rfl, hy, hlater'⟩ := List.map_eq_cons_iff.1 hrest
  refine ⟨y, before', later', rfl, ?_, ?_, fun z hz => ?_⟩
  · simpa using congrArg List.length hbefore
  · rwa [Function.comp_apply, hy]
  · have hmem : g z ∈ later.map f := hlater' ▸ List.mem_map_of_mem hz
    obtain ⟨w, hw, hwz⟩ := List.mem_map.1 hmem
    rw [Function.comp_apply, ← hwz]
    exact hlater w hw

end Last

theorem Annotated.lastPhoto?_eq_some_iff {s : Space} {a : Annotated s} {e : Entity s} :
    a.lastPhoto? = some e ↔ ∃ i, LastAt Entity.isPhoto a.media i e := find?_reverse_eq_some_iff

namespace Post

theorem lastPhoto?_eq_some_iff {p : Post} {m : Media} :
    p.lastPhoto? = some m ↔ ∃ i, LastAt Media.isPhoto p.media i m := by
  rw [← find?_reverse_eq_some_iff, lastPhoto?, media]
  cases p.entities <;> exact .rfl

/-- The last photos of a post and of its annotated text have the same number. -/
theorem lastAt_annotated_iff {p : Post} {i : Nat} :
    (∃ m, LastAt Media.isPhoto p.media i m) ↔ ∃ e, LastAt Entity.isPhoto p.annotated.media i e := by
  obtain ⟨-, hmedia⟩ := p.map_payload_annotated
  rw [Media.isPhoto_eq, Entity.isPhoto_eq]
  constructor
  · rintro ⟨m, hm⟩
    exact hm.exists_of_map_eq hmedia.symm
  · rintro ⟨e, he⟩
    exact he.exists_of_map_eq hmedia

theorem lastPhoto?_agree (p : Post) :
    (p.lastPhoto? = none ∧ p.annotated.lastPhoto? = none) ∨
      ∃ i m e, LastAt Media.isPhoto p.media i m ∧ p.lastPhoto? = some m ∧
        LastAt Entity.isPhoto p.annotated.media i e ∧ p.annotated.lastPhoto? = some e := by
  cases hraw : p.lastPhoto? with
  | none =>
    refine .inl ⟨rfl, Option.eq_none_iff_forall_ne_some.2 fun e hshown => ?_⟩
    obtain ⟨i, he⟩ := Annotated.lastPhoto?_eq_some_iff.1 hshown
    obtain ⟨m, hm⟩ := lastAt_annotated_iff.2 ⟨e, he⟩
    rw [lastPhoto?_eq_some_iff.2 ⟨i, hm⟩] at hraw
    cases hraw
  | some m =>
    obtain ⟨i, hm⟩ := lastPhoto?_eq_some_iff.1 hraw
    obtain ⟨e, he⟩ := lastAt_annotated_iff.1 ⟨m, hm⟩
    exact .inr ⟨i, m, e, hm, rfl, he, Annotated.lastPhoto?_eq_some_iff.2 ⟨i, he⟩⟩

/-- Reconciling keeps the links and media of a post, one by one, with all that they show and open.
So an annotated text has a photo just if its post has one, and its last photo is the image of the
very entry that is the last photo of the post. -/
theorem photo_annotated (p : Post) :
    p.annotated.links.map Entity.payload = p.links.map Link.payload ∧
    p.annotated.media.map Entity.payload = p.media.map Media.payload ∧
    p.annotated.hasPhoto = p.entities.any Entities.hasPhoto ∧
    ((p.lastPhoto? = none ∧ p.annotated.lastPhoto? = none) ∨
      ∃ i m e, LastAt Media.isPhoto p.media i m ∧ p.lastPhoto? = some m ∧
        LastAt Entity.isPhoto p.annotated.media i e ∧ p.annotated.lastPhoto? = some e) := by
  obtain ⟨hlinks, hmedia⟩ := p.map_payload_annotated
  have hlast := p.lastPhoto?_agree
  refine ⟨hlinks, hmedia, ?_, hlast⟩
  rw [p.any_hasPhoto, Annotated.hasPhoto]
  rcases hlast with ⟨hnone, hnone'⟩ | ⟨i, m, e, -, hm, -, he⟩
  · rw [hnone, hnone']
    rfl
  · rw [hm, he]
    rfl

end Post

end Newsfeed
