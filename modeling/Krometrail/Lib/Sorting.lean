import Mathlib

/-!
# Sorting by a key

The stable sort of a list by a key in a linear order: it has the elements of the list, in the order of their keys.
-/

namespace Sorting

variable {α κ : Type*} [LinearOrder κ]

def sortByKey (key : α → κ) (l : List α) : List α := l.insertionSort (Order.Preimage key (· ≤ ·))

@[simp] theorem mem_sortByKey {key : α → κ} {l : List α} {a : α} : a ∈ sortByKey key l ↔ a ∈ l :=
  List.mem_insertionSort _

theorem perm_sortByKey (key : α → κ) (l : List α) : (sortByKey key l).Perm l := List.perm_insertionSort _ l

theorem pairwise_sortByKey (key : α → κ) (l : List α) : (sortByKey key l).Pairwise fun a b => key a ≤ key b :=
  List.pairwise_insertionSort (Order.Preimage key (· ≤ ·)) l

theorem isLeast_of_find? {p : κ → Bool} {l : List κ} {a : κ} (h : l.Pairwise (· < ·)) (ha : l.find? p = some a) :
    IsLeast {b | b ∈ l ∧ p b = true} a := by
  refine ⟨⟨List.mem_of_find?_eq_some ha, List.find?_some ha⟩, fun b ⟨hmem, hb⟩ => ?_⟩
  obtain ⟨-, earlier, later, rfl, hearlier⟩ := List.find?_eq_some_iff_append.1 ha
  rcases List.mem_append.1 hmem with hmem | hmem
  · simpa [hb] using hearlier b hmem
  · rcases List.mem_cons.1 hmem with rfl | hmem
    · exact le_rfl
    · exact (List.rel_of_pairwise_cons (List.pairwise_append.1 h).2.1 hmem).le

end Sorting
