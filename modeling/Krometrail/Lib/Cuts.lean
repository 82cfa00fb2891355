import Mathlib

/-!
# Cutting a list at an element

The first and the last place where an element stands divide a list in two (`cutFirst`, `cutLast`).  A list that was put
together around the element is cut where it was joined, when the element does not stand before, or behind, that place.
-/

namespace Cuts

variable {α : Type*} [DecidableEq α] {a : α} {front back : List α}

/-- What stands before and behind the first `a`. -/
def cutFirst (a : α) : List α → Option (List α × List α)
  | [] => none
  | b :: l => if b = a then some ([], l) else (cutFirst a l).map fun cut => (b :: cut.1, cut.2)

/-- What stands before and behind the last `a`. -/
def cutLast (a : α) (l : List α) : Option (List α × List α) :=
  (cutFirst a l.reverse).map fun cut => (cut.2.reverse, cut.1.reverse)

theorem cutFirst_append (h : a ∉ front) (back : List α) : cutFirst a (front ++ a :: back) = some (front, back) := by
  induction front with
  | nil => simp [cutFirst]
  | cons b front ih =>
    have hne : b ≠ a := fun heq => h (by simp [heq])
    rw [List.cons_append, cutFirst, if_neg hne, ih fun hmem => h (List.mem_cons_of_mem _ hmem)]
    rfl

theorem cutFirst_eq_none {l : List α} (h : a ∉ l) : cutFirst a l = none := by
  induction l with
  | nil => rfl
  | cons b l ih =>
    have hne : b ≠ a := fun heq => h (by simp [heq])
    rw [cutFirst, if_neg hne, ih fun hmem => h (List.mem_cons_of_mem _ hmem)]
    rfl

theorem cutLast_append (front : List α) (h : a ∉ back) : cutLast a (front ++ a :: back) = some (front, back) := by
  have hreverse : (front ++ a :: back).reverse = back.reverse ++ a :: front.reverse := by simp
  rw [cutLast, hreverse, cutFirst_append (by simpa using h)]
  simp

theorem cutLast_eq_none {l : List α} (h : a ∉ l) : cutLast a l = none := by
  rw [cutLast, cutFirst_eq_none (by simpa using h)]
  rfl

/-- What stands before an optional tail that begins with `a`, and whether there is one. -/
theorem cutFirst_tail (h : a ∉ front) (tail : Option (List α)) :
    ((cutFirst a (front ++ tail.elim [] (a :: ·))).map fun cut => (cut.1, true)).getD
      (front ++ tail.elim [] (a :: ·), false) = (front, tail.isSome) := by
  cases tail with
  | none =>
    rw [Option.elim_none, List.append_nil, cutFirst_eq_none h]
    rfl
  | some tail =>
    rw [Option.elim_some, cutFirst_append h]
    rfl

end Cuts
