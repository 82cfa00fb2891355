import Mathlib

/-!
# Depth-first walks

The order in which a depth-first walk enters the nodes of a graph, each of them once.  The graph is given by the successors
of a node, it may have cycles, and what is entered is what the starts lead to.
-/

namespace Walks

variable {ι : Type*} [DecidableEq ι]

/-- What has been entered after a visit of `i`; `fuel` bounds the depth. -/
def walk (next : ι → List ι) : Nat → List ι → ι → List ι
  | 0, seen, _ => seen
  | fuel + 1, seen, i => if i ∈ seen then seen else (next i).foldl (walk next fuel) (seen ++ [i])

def preorder (next : ι → List ι) (fuel : Nat) (starts : List ι) : List ι := starts.foldl (walk next fuel) []

variable {next : ι → List ι} {fuel : Nat} {seen starts : List ι} {i x : ι}

theorem walk_of_mem (h : i ∈ seen) : walk next fuel seen i = seen := by
  cases fuel with
  | zero => rfl
  | succ fuel => exact if_pos h

theorem walk_of_not_mem (h : i ∉ seen) :
    walk next (fuel + 1) seen i = (next i).foldl (walk next fuel) (seen ++ [i]) := if_neg h

theorem subset_walk : seen ⊆ walk next fuel seen i := by
  induction fuel generalizing seen i with
  | zero => exact List.Subset.refl _
  | succ fuel ih =>
    by_cases h : i ∈ seen
    · rw [walk_of_mem h]
      exact List.Subset.refl _
    · rw [walk_of_not_mem h]
      exact List.foldlRecOn (motive := fun l => seen ⊆ l) _ _ (List.subset_append_left _ _) fun _ hl _ _ => List.Subset.trans hl ih

theorem mem_walk : i ∈ walk next (fuel + 1) seen i := by
  by_cases h : i ∈ seen
  · rwa [walk_of_mem h]
  · rw [walk_of_not_mem h]
    exact List.foldlRecOn (motive := fun l => i ∈ l) _ _ (by simp) fun _ hl _ _ => subset_walk hl

theorem nodup_walk (h : seen.Nodup) : (walk next fuel seen i).Nodup := by
  induction fuel generalizing seen i with
  | zero => exact h
  | succ fuel ih =>
    by_cases hi : i ∈ seen
    · rwa [walk_of_mem hi]
    · rw [walk_of_not_mem hi]
      have hstart : (seen ++ [i]).Nodup := by
        rw [← List.concat_eq_append]
        exact h.concat hi
      exact List.foldlRecOn (motive := List.Nodup) _ _ hstart fun _ hl _ _ => ih hl

theorem nodup_preorder : (preorder next fuel starts).Nodup :=
  List.foldlRecOn (motive := List.Nodup) _ _ List.nodup_nil fun _ hl _ _ => nodup_walk hl

theorem subset_preorder : starts ⊆ preorder next (fuel + 1) starts := by
  have aux : ∀ l seen : List ι, l ⊆ l.foldl (walk next (fuel + 1)) seen := by
    intro l
    induction l with
    | nil => exact fun _ => List.nil_subset _
    | cons a l ih =>
      intro seen x hx
      rcases List.mem_cons.1 hx with rfl | hx
      · exact List.foldlRecOn (motive := fun l => x ∈ l) l _ mem_walk fun _ hl _ _ => subset_walk hl
      · exact ih _ hx
  exact aux starts []

end Walks
