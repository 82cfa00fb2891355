import Mathlib.Order.Interval.Basic
import Mathlib.Order.SuccPred.Basic

/-!
# Intervals that touch

Closed intervals of a linear order with successors.  Two of them touch when no point lies between them; then their join
has no points but theirs.  Otherwise one is apart from the other, on the left or on the right of it.
-/

namespace Intervals

open Order

variable {α : Type*} [LinearOrder α] [SuccOrder α] {a b c : NonemptyInterval α} {x : α}

/-- No point lies between the two intervals. -/
def Touch (a b : NonemptyInterval α) : Prop := b.fst ≤ succ a.snd ∧ a.fst ≤ succ b.snd

instance : Decidable (Touch a b) := inferInstanceAs (Decidable (_ ∧ _))

/-- The first interval ends before the second begins, with a point between them. -/
def Before (a b : NonemptyInterval α) : Prop := succ a.snd < b.fst

/-- One interval is before the other. -/
def Apart (a b : NonemptyInterval α) : Prop := Before a b ∨ Before b a

theorem not_touch : ¬ Touch a b ↔ Apart b a := by
  unfold Touch Apart Before
  rw [not_and_or, not_le, not_le]
  exact or_comm

theorem Apart.symm (h : Apart a b) : Apart b a := Or.symm h

theorem Before.lt (h : Before a b) : a.snd < b.fst := (le_succ _).trans_lt h

theorem Before.sup (hb : Before a b) (hc : Before a c) : Before a (b ⊔ c) := lt_min hb hc

theorem not_apart_self : ¬ Apart a a :=
  fun h => (h.elim Before.lt Before.lt).not_ge a.fst_le_snd

theorem mem_sup (h : Touch a b) : x ∈ a ⊔ b ↔ x ∈ a ∨ x ∈ b := by
  simp only [NonemptyInterval.mem_def, NonemptyInterval.fst_sup, NonemptyInterval.snd_sup, inf_le_iff, le_sup_iff]
  constructor
  · rintro ⟨hfirst, hlast⟩
    by_cases ha : a.fst ≤ x
    · by_cases hx : x ≤ a.snd
      · exact .inl ⟨ha, hx⟩
      · have hbegun : succ a.snd ≤ x := succ_le_of_lt (not_le.1 hx)
        exact .inr ⟨h.1.trans hbegun, hlast.resolve_left hx⟩
    · have hended : x ≤ b.snd := le_of_lt_succ ((not_le.1 ha).trans_le h.2)
      exact .inr ⟨hfirst.resolve_left ha, hended⟩
  · rintro (⟨hfirst, hlast⟩ | ⟨hfirst, hlast⟩)
    · exact ⟨.inl hfirst, .inl hlast⟩
    · exact ⟨.inr hfirst, .inr hlast⟩

/-- Intervals apart from each other that are listed by where they begin are each before the next ones. -/
theorem pairwise_before {l : List (NonemptyInterval α)} (hsorted : l.Pairwise fun a b => a.fst ≤ b.fst)
    (hapart : l.Pairwise Apart) : l.Pairwise Before := by
  refine (hsorted.and hapart).imp ?_
  rintro a b ⟨hle, hab | hba⟩
  · exact hab
  · have hlt : b.fst < b.fst := (b.fst_le_snd.trans_lt hba.lt).trans_le hle
    exact absurd hlt (lt_irrefl _)

/-- An interval meets the span of increasing points where it meets the span of two neighbouring ones. -/
theorem meets_iff_step {β : Type*} [LinearOrder β] {t : Nat → β} {start stop : β} {i j : Nat} (hle : start ≤ stop) (hij : i < j)
    (ht : ∀ k l, k ≤ l → l ≤ j → t k ≤ t l) :
    start ≤ t j ∧ t i ≤ stop ↔ ∃ k, (i ≤ k ∧ k < j) ∧ start ≤ t (k + 1) ∧ t k ≤ stop := by
  constructor
  · induction j, hij using Nat.le_induction with
    | base => exact fun h => ⟨i, ⟨le_rfl, Nat.lt_succ_self i⟩, h⟩
    | succ j hij ih =>
      rintro ⟨hstart, hstop⟩
      by_cases hbefore : start ≤ t j
      · obtain ⟨k, ⟨hlow, hhigh⟩, h⟩ := ih (fun k l hkl hl => ht k l hkl (by omega)) ⟨hbefore, hstop⟩
        exact ⟨k, ⟨hlow, by omega⟩, h⟩
      · exact ⟨j, ⟨by omega, Nat.lt_succ_self j⟩, hstart, (not_le.1 hbefore).le.trans hle⟩
  · rintro ⟨k, ⟨hlow, hhigh⟩, hstart, hstop⟩
    exact ⟨hstart.trans (ht (k + 1) j hhigh le_rfl), (ht i k hlow hhigh.le).trans hstop⟩

end Intervals
