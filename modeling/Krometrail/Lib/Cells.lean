import Mathlib

/-!
# Numbered cells

A list whose entries are named by their positions: entries are added at the end and overwritten in place, so a name stays
valid.  The lemmas read an entry back after such a change and count the entries of a kind.
-/

namespace Cells

variable {α : Type*} {l : List α} {i j : Nat} {a b : α}

/-- An entry after one cell was overwritten is the new one, or an old one at another position. -/
theorem cases_of_set (h : (l.set i a)[j]? = some b) : j = i ∧ b = a ∨ j ≠ i ∧ l[j]? = some b := by
  rw [List.getElem?_set] at h
  by_cases hij : i = j
  · rw [if_pos hij] at h
    split at h
    · exact .inl ⟨hij.symm, (Option.some.inj h).symm⟩
    · cases h
  · rw [if_neg hij] at h
    exact .inr ⟨Ne.symm hij, h⟩

theorem getElem?_set_same (h : l[i]? = some a) : (l.set i b)[i]? = some b := by
  rw [List.getElem?_set_self (List.getElem?_eq_some_iff.1 h).1]

theorem getElem?_set_other (h : j ≠ i) : (l.set i b)[j]? = l[j]? := List.getElem?_set_ne h.symm

/-- An entry after one was added at the end is an old one or the new one. -/
theorem cases_of_push (h : (l ++ [a])[j]? = some b) : l[j]? = some b ∨ j = l.length ∧ b = a := by
  rcases Nat.lt_trichotomy j l.length with hlt | rfl | hgt
  · rw [List.getElem?_append_left hlt] at h
    exact .inl h
  · rw [List.getElem?_concat_length] at h
    exact .inr ⟨rfl, (Option.some.inj h).symm⟩
  · rw [List.getElem?_append_right (Nat.le_of_lt hgt)] at h
    have hnone : [a][j - l.length]? = none := List.getElem?_eq_none (by simp; omega)
    cases hnone.symm.trans h

theorem getElem?_push (h : l[i]? = some b) : (l ++ [a])[i]? = some b := by
  rw [List.getElem?_append_left (List.getElem?_eq_some_iff.1 h).1, h]

theorem countP_set {p : α → Bool} (h : l[i]? = some a) :
    (l.set i b).countP p + (p a).toNat = l.countP p + (p b).toNat := by
  obtain ⟨hi, ha⟩ := List.getElem?_eq_some_iff.1 h
  have hpos : p a = true → 0 < l.countP p := fun hp => List.countP_pos_iff.2 ⟨a, ha ▸ List.getElem_mem hi, hp⟩
  rw [List.countP_set hi, ha]
  cases hpa : p a with
  | false => cases hpb : p b <;> simp
  | true =>
    have := hpos hpa
    cases hpb : p b <;> simp <;> omega

theorem not_of_countP_eq_zero {p : α → Bool} (h : l.countP p = 0) (hi : l[i]? = some a) : p a = false := by
  simpa using List.countP_eq_zero.1 h a (List.mem_of_getElem? hi)

end Cells
