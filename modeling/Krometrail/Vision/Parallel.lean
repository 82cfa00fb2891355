import Krometrail.Lib.Chunks

/-!
# Work in chunks

The pairs of a sequence are folded by a number of workers, each on a contiguous chunk of them, and the results are merged in
the order of the chunks.
-/

namespace Krometrail.Vision.Parallel

open Chunks

/-- The chunks of at most `requested` workers; no more than sixteen are ever requested, so that no product overflows. -/
def chunkRanges (count requested : Nat) : List (Nat × Nat) :=
  if count ≤ 1 then [(0, count)]
  else
    let workers := max (min requested count) 1
    if workers = 1 then [(0, count)]
    else (List.range workers).map fun worker => (worker * count / workers, (worker + 1) * count / workers)

variable {σ : Type} {init : σ} {fold : σ → Nat → σ} {merge : σ → σ → σ}

/-- The results of the workers, merged in order; there is always a first one. -/
def mergeInOrder (init : σ) (merge : σ → σ → σ) : List σ → σ
  | [] => init
  | first :: rest => rest.foldl merge first

/-- `map_reduce_with_workers`. -/
def mapReduce (count requested : Nat) (init : σ) (fold : σ → Nat → σ) (merge : σ → σ → σ) : σ :=
  mergeInOrder init merge ((chunkRanges count requested).map fun range => foldRange init fold range.1 range.2)

theorem mapReduce_eq {count : Nat} (requested : Nat) (h : Merges init fold merge count) :
    mapReduce count requested init fold merge = foldRange init fold 0 count := by
  unfold mapReduce chunkRanges
  by_cases hcount : count ≤ 1
  · rw [if_pos hcount]
    rfl
  rw [if_neg hcount]
  by_cases hworkers : max (min requested count) 1 = 1
  · rw [if_pos hworkers]
    rfl
  rw [if_neg hworkers]
  obtain ⟨k, hk⟩ : ∃ k, max (min requested count) 1 = k + 1 := ⟨_, (Nat.succ_pred_eq_of_pos (by omega)).symm⟩
  have hcut : Monotone fun worker => worker * count / (k + 1) := fun a b hab =>
    Nat.div_le_div_right (Nat.mul_le_mul_right count hab)
  have hlast : (k + 1) * count / (k + 1) = count := Nat.mul_div_cancel_left _ (Nat.succ_pos k)
  have hreduce := reduce_cuts hcut h k hlast.le
  rw [hk, List.range_succ_eq_map, List.map_cons, List.map_cons, List.map_map, List.map_map, mergeInOrder]
  simp only [Nat.zero_mul, Nat.zero_div, hlast] at hreduce ⊢
  exact hreduce

end Krometrail.Vision.Parallel
