import Mathlib

/-!
# Picking from a list

The elements of a list at given places, in the order of the places.  Picking at increasing places gives a sublist, and what is
picked of a picked list is picked of the list at the composed places.
-/

namespace Picks

variable {α β : Type*} {l : List α} {places : List Nat}

/-- The elements of the list at the places; a place behind its end is left out. -/
def pick (l : List α) (places : List Nat) : List α := places.filterMap (l[·]?)

@[simp] theorem pick_nil (l : List α) : pick l [] = [] := rfl

theorem pick_cons_of_lt {i : Nat} (h : i < l.length) : pick l (i :: places) = l[i] :: pick l places :=
  List.filterMap_cons_some (List.getElem?_eq_getElem h)

theorem pick_cons_of_ge {i : Nat} (h : l.length ≤ i) : pick l (i :: places) = pick l places :=
  List.filterMap_cons_none (List.getElem?_eq_none h)

theorem mem_pick {a : α} : a ∈ pick l places ↔ ∃ i ∈ places, l[i]? = some a := List.mem_filterMap

theorem map_pick (f : α → β) (l : List α) (places : List Nat) : (pick l places).map f = pick (l.map f) places := by
  simp [pick, List.map_filterMap]

theorem getElem?_pick (h : ∀ i ∈ places, i < l.length) (k : Nat) : (pick l places)[k]? = places[k]?.bind (l[·]?) := by
  induction places generalizing k with
  | nil => simp
  | cons i places ih =>
    obtain ⟨hi, hrest⟩ := List.forall_mem_cons.1 h
    rw [pick_cons_of_lt hi]
    cases k with
    | zero => simp [hi]
    | succ k => simpa using ih hrest k

theorem length_pick (h : ∀ i ∈ places, i < l.length) : (pick l places).length = places.length := by
  induction places with
  | nil => rfl
  | cons i places ih =>
    obtain ⟨hi, hrest⟩ := List.forall_mem_cons.1 h
    rw [pick_cons_of_lt hi, List.length_cons, List.length_cons, ih hrest]

theorem pick_sublist (h : places.Pairwise (· < ·)) : (pick l places).Sublist l := by
  suffices H : ∀ start, (∀ i ∈ places, start ≤ i) → (pick l places).Sublist (l.drop start) from H 0 fun _ _ => Nat.zero_le _
  induction places with
  | nil => exact fun start _ => List.nil_sublist _
  | cons i places ih =>
    intro start hstart
    obtain ⟨hfirst, hrest⟩ := List.pairwise_cons.1 h
    have hbehind := ih hrest (i + 1) fun j hj => hfirst j hj
    by_cases hi : i < l.length
    · rw [pick_cons_of_lt hi]
      refine List.Sublist.trans ?_ (List.drop_sublist_drop_left l (hstart i List.mem_cons_self))
      rw [List.drop_eq_getElem_cons hi]
      exact hbehind.cons_cons _
    · rw [pick_cons_of_ge (not_lt.1 hi)]
      have hle := hstart i List.mem_cons_self
      exact hbehind.trans (List.drop_sublist_drop_left l (by omega))

theorem forall₂_pick {R : α → β → Prop} {m : List β} (h : List.Forall₂ R l m) (places : List Nat) :
    List.Forall₂ R (pick l places) (pick m places) := by
  have hlength := h.length_eq
  induction places with
  | nil => exact .nil
  | cons i places ih =>
    by_cases hi : i < l.length
    · rw [pick_cons_of_lt hi, pick_cons_of_lt (hlength ▸ hi)]
      exact .cons ((List.forall₂_iff_get.1 h).2 i hi (hlength ▸ hi)) ih
    · rw [pick_cons_of_ge (not_lt.1 hi), pick_cons_of_ge (hlength ▸ not_lt.1 hi)]
      exact ih

end Picks
