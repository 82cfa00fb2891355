import Mathlib

/-!
# Folds in chunks

A range of indices is cut in chunks, each chunk is folded from the same initial value, and the results are merged in order.
Where merging two neighbouring folds is the fold over both ranges, this is the fold over the whole range (`reduce_cuts`).
-/

namespace Chunks

universe u

variable {σ : Type u} (init : σ) (fold : σ → Nat → σ) (merge : σ → σ → σ)

/-- The fold over the indices from `start` on, before `stop`. -/
def foldRange (start stop : Nat) : σ := (List.range' start (stop - start)).foldl fold init

/-- Merging is folding on, within the first `count` indices. -/
def Merges (count : Nat) : Prop :=
  ∀ a b c, a ≤ b → b ≤ c → c ≤ count → merge (foldRange init fold a b) (foldRange init fold b c) = foldRange init fold a c

variable {init fold merge}

theorem reduce_cuts {cut : Nat → Nat} {count : Nat} (hcut : Monotone cut) (h : Merges init fold merge count) (k : Nat)
    (hcount : cut (k + 1) ≤ count) :
    ((List.range k).map fun i => foldRange init fold (cut (i + 1)) (cut (i + 2))).foldl merge (foldRange init fold (cut 0) (cut 1)) =
      foldRange init fold (cut 0) (cut (k + 1)) := by
  induction k with
  | zero => rfl
  | succ k ih =>
    have hstep : cut (k + 1) ≤ cut (k + 2) := hcut (Nat.le_succ _)
    rw [List.range_succ, List.map_append, List.foldl_append, ih (hstep.trans hcount)]
    exact h _ _ _ (hcut (Nat.zero_le _)) hstep hcount

theorem foldl_bind {ε α β : Type u} {step : β → α → Except ε β} (l : List α) (state : Except ε β) :
    l.foldl (fun state a => state >>= fun b => step b a) state = state >>= fun b => l.foldlM step b := by
  induction l generalizing state with
  | nil => cases state <;> rfl
  | cons a l ih =>
    rw [List.foldl_cons, ih]
    cases state <;> rfl

theorem range'_append_range' {a b c : Nat} (hab : a ≤ b) (hbc : b ≤ c) :
    List.range' a (b - a) ++ List.range' b (c - b) = List.range' a (c - a) := by
  have hstart : a + 1 * (b - a) = b := by omega
  have hlength : c - a = b - a + (c - b) := by omega
  rw [hlength, ← List.range'_append, hstart]

theorem foldRange_push {α : Type u} (f : Nat → α) (start stop : Nat) :
    foldRange [] (fun l index => l ++ [f index]) start stop = (List.range' start (stop - start)).map f := by
  suffices H : ∀ (l : List Nat) (items : List α), l.foldl (fun l index => l ++ [f index]) items = items ++ l.map f from H _ []
  intro l
  induction l with
  | nil => simp
  | cons index l ih =>
    intro items
    rw [List.foldl_cons, ih, List.map_cons, List.append_assoc, List.singleton_append]

theorem merges_push {α : Type u} (f : Nat → α) (count : Nat) :
    Merges [] (fun l index => l ++ [f index]) (· ++ ·) count := by
  intro a b c hab hbc _
  rw [foldRange_push, foldRange_push, foldRange_push]
  change _ ++ _ = _
  rw [← List.map_append, range'_append_range' hab hbc]

end Chunks
