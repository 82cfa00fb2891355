import Krometrail.Lib.Sorting

/-!
# Coalescing intervals

A walk over closed intervals that are listed by where they begin.  An interval that begins within the reach of where the
last one of the result ends widens that one, any other comes behind it.  The points are those of a second order, into
which the ends are mapped (`points`), so that the gap behind an interval may or may not have points: with `reach` the
successor the result has no intervals that touch, with `reach` the identity none that meet.
-/

namespace Coalescing

variable {α β : Type*} [LinearOrder α] [LinearOrder β] {reach : α → α} {place : α → β}
  {seen coalesced l : List (NonemptyInterval α)} {a b range : NonemptyInterval α}

/-- From where the first begins to where the last of the two ends. -/
def widen (last range : NonemptyInterval α) : NonemptyInterval α :=
  ⟨⟨last.fst, max last.snd range.snd⟩, last.fst_le_snd.trans (le_max_left _ _)⟩

/-- The body of the walk. -/
def absorb (reach : α → α) (coalesced : List (NonemptyInterval α)) (range : NonemptyInterval α) :
    List (NonemptyInterval α) :=
  match coalesced.getLast? with
  | some last => if range.fst ≤ reach last.snd then coalesced.dropLast ++ [widen last range] else coalesced ++ [range]
  | none => [range]

theorem absorb_nil (range : NonemptyInterval α) : absorb reach [] range = [range] := rfl

theorem absorb_of_le (h : range.fst ≤ reach a.snd) : absorb reach (l ++ [a]) range = l ++ [widen a range] := by
  simp [absorb, h]

theorem absorb_of_lt (h : reach a.snd < range.fst) : absorb reach (l ++ [a]) range = l ++ [a] ++ [range] := by
  simp [absorb, not_le.2 h]

/-- The second interval begins beyond the reach of the first. -/
def Beyond (reach : α → α) (a b : NonemptyInterval α) : Prop := reach a.snd < b.fst

def points (place : α → β) (l : List (NonemptyInterval α)) : Set β :=
  {y | ∃ range ∈ l, place range.fst ≤ y ∧ y ≤ place range.snd}

theorem points_append (place : α → β) (l l' : List (NonemptyInterval α)) :
    points place (l ++ l') = points place l ∪ points place l' := by
  ext y
  simp only [points, Set.mem_ofPred_eq, Set.mem_union, List.mem_append, or_and_right, exists_or]

theorem points_singleton (place : α → β) (a : NonemptyInterval α) :
    points place [a] = Set.Icc (place a.fst) (place a.snd) := by
  ext y
  simp [points]

theorem points_perm (h : seen.Perm l) : points place seen = points place l := by
  ext y
  exact exists_congr fun range => and_congr_left' h.mem_iff

theorem fst_mem_points (a : NonemptyInterval α) (l : List (NonemptyInterval α)) : a.fst ∈ points id (a :: l) :=
  ⟨a, by simp, le_rfl, a.fst_le_snd⟩

/-- What is within reach of an end leaves no points behind that end. -/
structure Reaches (reach : α → α) (place : α → β) : Prop where
  mono : Monotone place
  gapless : ∀ x z y, z ≤ reach x → place x < y → place z ≤ y

theorem points_widen (h : Reaches reach place) (hle : a.fst ≤ range.fst) (hreach : range.fst ≤ reach a.snd) :
    points place [widen a range] = points place [a] ∪ points place [range] := by
  ext y
  simp only [points_singleton, Set.mem_union, Set.mem_Icc, widen]
  rw [h.mono.map_max]
  constructor
  · rintro ⟨hfirst, hlast⟩
    by_cases hy : y ≤ place a.snd
    · exact .inl ⟨hfirst, hy⟩
    · rw [not_le] at hy
      exact .inr ⟨h.gapless _ _ _ hreach hy, (le_max_iff.1 hlast).resolve_left hy.not_ge⟩
  · rintro (⟨hfirst, hlast⟩ | ⟨hfirst, hlast⟩)
    · exact ⟨hfirst, hlast.trans (le_max_left _ _)⟩
    · exact ⟨(h.mono hle).trans hfirst, hlast.trans (le_max_right _ _)⟩

/-- What holds of the result when these intervals have been seen. -/
structure Walked (reach : α → α) (place : α → β) (seen coalesced : List (NonemptyInterval α)) : Prop where
  beyond : coalesced.Pairwise (Beyond reach)
  points : points place coalesced = points place seen
  begins : ∀ range ∈ coalesced, ∃ first ∈ seen, first.fst = range.fst

theorem Walked.nil : Walked reach place [] [] := ⟨.nil, rfl, nofun⟩

theorem Walked.step (h : Walked reach place seen coalesced) (hreaches : Reaches reach place)
    (hlast : ∀ first ∈ seen, first.fst ≤ range.fst) : Walked reach place (seen ++ [range]) (absorb reach coalesced range) := by
  have hbegins : ∀ a ∈ coalesced, a.fst ≤ range.fst := by
    intro a ha
    obtain ⟨first, hfirst, heq⟩ := h.begins a ha
    exact heq ▸ hlast first hfirst
  rcases List.eq_nil_or_concat coalesced with rfl | ⟨front, a, rfl⟩
  · rw [absorb_nil]
    refine ⟨List.pairwise_singleton _ _, ?_, fun r hr => ⟨range, by simp, ?_⟩⟩
    · rw [points_append, ← h.points]
      simp [Coalescing.points]
    · rw [List.mem_singleton.1 hr]
  · rw [List.concat_eq_append] at h hbegins ⊢
    obtain ⟨hfront, -, hbeyond⟩ := List.pairwise_append.1 h.beyond
    by_cases hreach : range.fst ≤ reach a.snd
    · rw [absorb_of_le hreach]
      refine ⟨List.pairwise_append.2 ⟨hfront, List.pairwise_singleton _ _, fun r hr b hb => ?_⟩, ?_, fun r hr => ?_⟩
      · rw [List.mem_singleton.1 hb]
        exact hbeyond r hr a (List.mem_singleton_self a)
      · rw [points_append, points_widen hreaches (hbegins a (by simp)) hreach, ← Set.union_assoc, ← points_append,
          h.points, points_append]
      · have hr' : ∃ first ∈ seen, first.fst = r.fst := by
          rcases List.mem_append.1 hr with hr | hr
          · exact h.begins r (List.mem_append_left _ hr)
          · rw [List.mem_singleton.1 hr]
            exact h.begins a (by simp)
        obtain ⟨first, hfirst, heq⟩ := hr'
        exact ⟨first, List.mem_append_left _ hfirst, heq⟩
    · rw [not_le] at hreach
      rw [absorb_of_lt hreach]
      refine ⟨List.pairwise_append.2 ⟨h.beyond, List.pairwise_singleton _ _, fun r hr b hb => ?_⟩, ?_, fun r hr => ?_⟩
      · rw [List.mem_singleton.1 hb]
        rcases List.mem_append.1 hr with hr | hr
        · exact (hbeyond r hr a (by simp)).trans_le (hbegins a (by simp))
        · rw [List.mem_singleton.1 hr]
          exact hreach
      · rw [points_append, h.points, points_append]
      · rcases List.mem_append.1 hr with hr | hr
        · obtain ⟨first, hfirst, heq⟩ := h.begins r hr
          exact ⟨first, List.mem_append_left _ hfirst, heq⟩
        · exact ⟨range, by simp, by rw [List.mem_singleton.1 hr]⟩

theorem Walked.foldl (h : Walked reach place seen coalesced) (hreaches : Reaches reach place)
    (hsorted : (seen ++ l).Pairwise fun a b => a.fst ≤ b.fst) :
    Walked reach place (seen ++ l) (l.foldl (absorb reach) coalesced) := by
  induction l generalizing seen coalesced with
  | nil => simpa using h
  | cons range l ih =>
    have hlast : ∀ first ∈ seen, first.fst ≤ range.fst := fun first hfirst =>
      (List.pairwise_append.1 hsorted).2.2 first hfirst range (by simp)
    have hassoc : seen ++ range :: l = (seen ++ [range]) ++ l := by simp
    rw [List.foldl_cons, hassoc]
    exact ih (h.step hreaches hlast) (hassoc ▸ hsorted)

/-- The intervals by where they begin and end. -/
def sorted (l : List (NonemptyInterval α)) : List (NonemptyInterval α) :=
  Sorting.sortByKey (fun range => toLex (range.fst, range.snd)) l

/-- The walk over the sorted intervals. -/
def coalesce (reach : α → α) (l : List (NonemptyInterval α)) : List (NonemptyInterval α) :=
  (sorted l).foldl (absorb reach) []

theorem fst_le_of_sorted (l : List (NonemptyInterval α)) : (sorted l).Pairwise fun a b => a.fst ≤ b.fst := by
  refine (Sorting.pairwise_sortByKey _ l).imp fun h => ?_
  rcases Prod.Lex.toLex_le_toLex.1 h with h | h
  · exact h.le
  · exact h.1.le

theorem coalesce_walked (hreaches : Reaches reach place) (l : List (NonemptyInterval α)) :
    Walked reach place (sorted l) (coalesce reach l) :=
  Walked.nil.foldl hreaches (fst_le_of_sorted l)

theorem points_coalesce (hreaches : Reaches reach place) (l : List (NonemptyInterval α)) :
    points place (coalesce reach l) = points place l :=
  (coalesce_walked hreaches l).points.trans (points_perm (Sorting.perm_sortByKey _ l))

theorem beyond_coalesce (hreaches : Reaches reach place) (l : List (NonemptyInterval α)) :
    (coalesce reach l).Pairwise (Beyond reach) :=
  (coalesce_walked hreaches l).beyond

section Canonical

open Order

variable {α : Type*} [LinearOrder α] [SuccOrder α] {l l' : List (NonemptyInterval α)} {a b : NonemptyInterval α}

theorem succ_reaches : Reaches (succ : α → α) id where
  mono := monotone_id
  gapless _ _ _ hz hy := hz.trans (succ_le_of_lt hy)

theorem fst_le_of_mem {y : α} (h : (a :: l).Pairwise (Beyond succ)) (hy : y ∈ points id (a :: l)) : a.fst ≤ y := by
  obtain ⟨r, hr, hfirst, -⟩ := hy
  rcases List.mem_cons.1 hr with rfl | hr
  · exact hfirst
  · have hbeyond : succ a.snd < r.fst := List.rel_of_pairwise_cons h hr
    exact (a.fst_le_snd.trans ((le_succ _).trans hbeyond.le)).trans hfirst

theorem mem_points_tail {y : α} (h : (a :: l).Pairwise (Beyond succ)) :
    y ∈ points id l ↔ y ∈ points id (a :: l) ∧ a.snd < y := by
  constructor
  · rintro ⟨r, hr, hfirst, hlast⟩
    have hbeyond : succ a.snd < r.fst := List.rel_of_pairwise_cons h hr
    exact ⟨⟨r, List.mem_cons_of_mem _ hr, hfirst, hlast⟩, ((le_succ _).trans_lt hbeyond).trans_le hfirst⟩
  · rintro ⟨⟨r, hr, hfirst, hlast⟩, hy⟩
    rcases List.mem_cons.1 hr with rfl | hr
    · exact absurd hy (not_lt.2 hlast)
    · exact ⟨r, hr, hfirst, hlast⟩

theorem snd_le_of_points (ha : (a :: l).Pairwise (Beyond succ)) (hfst : a.fst = b.fst)
    (hpoints : points id (a :: l) = points id (b :: l')) : b.snd ≤ a.snd := by
  by_contra hlt
  rw [not_le] at hlt
  have hnext : succ a.snd ∈ points id (b :: l') :=
    ⟨b, by simp, hfst ▸ a.fst_le_snd.trans (le_succ _), succ_le_of_lt hlt⟩
  rw [← hpoints] at hnext
  obtain ⟨r, hr, hfirst, hlast⟩ := (mem_points_tail ha).2 ⟨hnext, lt_succ_of_not_isMax hlt.not_isMax⟩
  have hbeyond : succ a.snd < r.fst := List.rel_of_pairwise_cons ha hr
  exact absurd hfirst (not_le.2 hbeyond)

/-- Lists of intervals without neighbours that touch are equal when they have the same points. -/
theorem eq_of_points (h : l.Pairwise (Beyond succ)) (h' : l'.Pairwise (Beyond succ))
    (hpoints : points id l = points id l') : l = l' := by
  induction l generalizing l' with
  | nil =>
    cases l' with
    | nil => rfl
    | cons b l' =>
      have hb : b.fst ∈ points id ([] : List (NonemptyInterval α)) := hpoints ▸ fst_mem_points b l'
      exact absurd hb (by simp [points])
  | cons a l ih =>
    cases l' with
    | nil =>
      have ha : a.fst ∈ points id ([] : List (NonemptyInterval α)) := hpoints ▸ fst_mem_points a l
      exact absurd ha (by simp [points])
    | cons b l' =>
      have hfst : a.fst = b.fst := le_antisymm (fst_le_of_mem h (hpoints ▸ fst_mem_points b l'))
        (fst_le_of_mem h' (hpoints ▸ fst_mem_points a l))
      have hsnd : a.snd = b.snd := le_antisymm (snd_le_of_points h' hfst.symm hpoints.symm) (snd_le_of_points h hfst hpoints)
      obtain rfl : a = b := NonemptyInterval.ext (Prod.ext hfst hsnd)
      rw [ih h.of_cons h'.of_cons]
      ext y
      rw [mem_points_tail h, mem_points_tail h', hpoints]

theorem coalesce_eq_of_points (hpoints : points id l = points id l') : coalesce succ l = coalesce succ l' := by
  refine eq_of_points (beyond_coalesce succ_reaches l) (beyond_coalesce succ_reaches l') ?_
  rw [points_coalesce succ_reaches, points_coalesce succ_reaches, hpoints]

theorem coalesce_of_beyond (h : l.Pairwise (Beyond succ)) : coalesce succ l = l :=
  eq_of_points (beyond_coalesce succ_reaches l) h (points_coalesce succ_reaches l)

end Canonical

end Coalescing
