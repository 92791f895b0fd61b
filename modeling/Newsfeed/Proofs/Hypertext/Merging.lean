import Newsfeed.Hypertext
import Newsfeed.Proofs.Offset

/-!
# Merging links and media

Sorting by the start is stable: what starts at a place keeps its order, whatever stands between
(`startingAt_mergeSort`).  A list in order of its starts is made up of what starts at each place
(`eq_of_startingAt_eq`), so three things tell the merged list of links and media from every other
(`eq_mergeEntitiesIfAny_iff`): it holds the entities of both, it ascends, and where several start at
one place, the media stand before the links, each in the order of their list.
-/

namespace Newsfeed

/-- The entities of a list that start at a place, in their order. -/
def startingAt {s : Space} (place : Offset s) (es : List (Entity s)) : List (Entity s) :=
  es.filter fun e => e.span.start = place

namespace Entity

variable {s : Space}

theorem start_trans (a b c : Entity s) (hab : decide (a.span.start ≤ b.span.start) = true)
    (hbc : decide (b.span.start ≤ c.span.start) = true) :
    decide (a.span.start ≤ c.span.start) = true :=
  decide_eq_true (Offset.le_trans (of_decide_eq_true hab) (of_decide_eq_true hbc))

theorem start_total (a b : Entity s) :
    (decide (a.span.start ≤ b.span.start) || decide (b.span.start ≤ a.span.start)) = true := by
  simpa using Offset.le_total a.span.start b.span.start

theorem pairwise_mergeSort_start (es : List (Entity s)) :
    (es.mergeSort fun a b => a.span.start ≤ b.span.start).Pairwise fun a b =>
      a.span.start ≤ b.span.start :=
  (List.pairwise_mergeSort start_trans start_total es).imp of_decide_eq_true

end Entity

section Starts

variable {s : Space}

theorem mem_startingAt {place : Offset s} {es : List (Entity s)} {e : Entity s} :
    e ∈ startingAt place es ↔ e ∈ es ∧ e.span.start = place := by
  simp [startingAt]

theorem startingAt_cons_self (e : Entity s) (es : List (Entity s)) :
    startingAt e.span.start (e :: es) = e :: startingAt e.span.start es :=
  List.filter_cons_of_pos (by simp)

theorem startingAt_append (place : Offset s) (es fs : List (Entity s)) :
    startingAt place (es ++ fs) = startingAt place es ++ startingAt place fs :=
  List.filter_append es fs

/-- Sorting by the start keeps the order of what starts at one place. -/
theorem startingAt_mergeSort (place : Offset s) (es : List (Entity s)) :
    startingAt place (es.mergeSort fun a b => a.span.start ≤ b.span.start) =
      startingAt place es := by
  have hlevel : (startingAt place es).Pairwise fun a b =>
      decide (a.span.start ≤ b.span.start) = true := by
    refine List.pairwise_filter.2 (List.pairwise_of_forall fun a b ha hb => ?_)
    rw [of_decide_eq_true ha, of_decide_eq_true hb]
    exact decide_eq_true (Int64.le_refl _)
  have hkept := (List.sublist_mergeSort Entity.start_trans Entity.start_total hlevel
    List.filter_sublist).filter fun e => e.span.start = place
  have hsame : (startingAt place es).filter (fun e => e.span.start = place) =
      startingAt place es := List.filter_eq_self.2 fun e he => by
    simpa using (mem_startingAt.1 he).2
  rw [hsame] at hkept
  exact (hkept.eq_of_length ((List.mergeSort_perm es _).filter _).length_eq.symm).symm

/-- The first entities of two lists in order start at the same place if the lists have the same
entities at every place. -/
theorem start_le_of_startingAt_eq {a b : Entity s} {as bs : List (Entity s)}
    (hb : (b :: bs).Pairwise fun e f => e.span.start ≤ f.span.start)
    (h : ∀ place, startingAt place (a :: as) = startingAt place (b :: bs)) :
    b.span.start ≤ a.span.start := by
  have ha : a ∈ startingAt a.span.start (b :: bs) := by
    rw [← h, startingAt_cons_self]
    exact List.mem_cons_self
  rcases List.mem_cons.1 (mem_startingAt.1 ha).1 with rfl | ha
  · exact Int64.le_refl _
  · exact List.rel_of_pairwise_cons hb ha

/-- A list in order is told by what starts at each place. -/
theorem eq_of_startingAt_eq {as bs : List (Entity s)}
    (ha : as.Pairwise fun e f => e.span.start ≤ f.span.start)
    (hb : bs.Pairwise fun e f => e.span.start ≤ f.span.start)
    (h : ∀ place, startingAt place as = startingAt place bs) : as = bs := by
  induction as generalizing bs with
  | nil =>
    cases bs with
    | nil => rfl
    | cons b bs =>
      have hnil := h b.span.start
      rw [startingAt_cons_self] at hnil
      cases hnil
  | cons a as ih =>
    cases bs with
    | nil =>
      have hnil := h a.span.start
      rw [startingAt_cons_self] at hnil
      cases hnil
    | cons b bs =>
      have hstart : a.span.start = b.span.start :=
        Offset.le_antisymm (start_le_of_startingAt_eq ha fun place => (h place).symm)
          (start_le_of_startingAt_eq hb h)
      have hfirst := h a.span.start
      rw [startingAt_cons_self, hstart, startingAt_cons_self] at hfirst
      obtain ⟨rfl, -⟩ := List.cons_eq_cons.1 hfirst
      refine congrArg (a :: ·) (ih ha.tail hb.tail fun place => ?_)
      -- the same entity has been taken off both lists
      have hplace : startingAt place [a] ++ startingAt place as =
          startingAt place [a] ++ startingAt place bs := by
        rw [← startingAt_append, ← startingAt_append]
        exact h place
      exact List.append_cancel_left hplace

end Starts

/-- The list has the links and media in order of their start. Of those that start at one place media
come first, and those of one list stand as they do there. -/
structure Merged (links media merged : List (Entity .display)) : Prop where
  perm : merged.Perm (media ++ links)
  ascending : merged.Pairwise fun a b => a.span.start ≤ b.span.start
  ties : ∀ place, startingAt place merged = startingAt place media ++ startingAt place links

theorem merged_mergeEntities (links media : List (Entity .display)) :
    Merged links media (mergeEntities links media) where
  perm := List.mergeSort_perm _ _
  ascending := Entity.pairwise_mergeSort_start _
  ties place := (startingAt_mergeSort place _).trans (startingAt_append place media links)

/-- Merging with a list of media, in whatever order the lists are, gives the one list that has the
entities of both in order of their start, with media first and each list in its own order where
several start at one place. -/
theorem eq_mergeEntitiesIfAny_iff {links media merged : List (Entity .display)} :
    merged = mergeEntitiesIfAny links (some media) ↔ Merged links media merged := by
  have hmerged := merged_mergeEntities links media
  constructor
  · rintro rfl
    exact hmerged
  · intro h
    exact eq_of_startingAt_eq h.ascending hmerged.ascending fun place =>
      (h.ties place).trans (hmerged.ties place).symm

end Newsfeed
