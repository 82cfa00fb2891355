import Mathlib

/-!
# Lists cut to a size

The elements of a list have sizes, and `clip` is the longest prefix of a list within a bound.  A prefix of a list that holds
its clip, or reaches the bound, has the same clip (`clip_of_starts`).
-/

namespace Clips

variable {α : Type*} (size : α → Nat)

def total (list : List α) : Nat := (list.map size).sum

def clip : Nat → List α → List α
  | _, [] => []
  | bound, a :: list => if size a ≤ bound then a :: clip (bound - size a) list else []

variable {size} {bound : Nat} {list more : List α}

@[simp] theorem total_nil : total size [] = 0 := rfl

@[simp] theorem total_cons (a : α) (list : List α) : total size (a :: list) = size a + total size list := by simp [total]

@[simp] theorem total_append (list more : List α) : total size (list ++ more) = total size list + total size more := by
  simp [total]

theorem total_le_of_starts (h : list <+: more) : total size list ≤ total size more := by
  obtain ⟨rest, rfl⟩ := h
  simp

theorem clip_starts (bound : Nat) (list : List α) : clip size bound list <+: list := by
  induction list generalizing bound with
  | nil => exact List.prefix_rfl
  | cons a list ih =>
    rw [clip]
    split
    · exact (List.prefix_cons_inj a).2 (ih _)
    · exact List.nil_prefix

theorem total_clip_le (bound : Nat) (list : List α) : total size (clip size bound list) ≤ bound := by
  induction list generalizing bound with
  | nil => exact Nat.zero_le _
  | cons a list ih =>
    rw [clip]
    split
    · rename_i ha
      have hrest := ih (bound - size a)
      rw [total_cons]
      omega
    · exact Nat.zero_le _

/-- What fits in front stays, and the rest is cut to what is left of the bound. -/
theorem clip_append (h : total size list ≤ bound) :
    clip size bound (list ++ more) = list ++ clip size (bound - total size list) more := by
  induction list generalizing bound with
  | nil => rfl
  | cons a list ih =>
    rw [total_cons] at h
    rw [List.cons_append, clip, if_pos (by omega), ih (by omega), total_cons, Nat.sub_sub, List.cons_append]

theorem clip_eq_self (h : total size list ≤ bound) : clip size bound list = list := by
  have happend : clip size bound (list ++ []) = list ++ clip size (bound - total size list) [] := clip_append h
  rwa [List.append_nil, clip, List.append_nil] at happend

/-- Behind a clip that is not the whole list stands an element that does not fit. -/
theorem exists_next (h : bound < total size list) :
    ∃ a rest, list = clip size bound list ++ a :: rest ∧ bound < total size (clip size bound list) + size a := by
  induction list generalizing bound with
  | nil => exact absurd h (Nat.not_lt_zero _)
  | cons a list ih =>
    rw [clip]
    split
    · rename_i ha
      rw [total_cons] at h
      have hrest : bound - size a < total size list := by omega
      obtain ⟨b, rest, hlist, hb⟩ := ih hrest
      exact ⟨b, rest, by rw [List.cons_append, ← hlist], by rw [total_cons]; omega⟩
    · rename_i ha
      exact ⟨a, list, rfl, by rw [total_nil]; omega⟩

theorem clip_append_of_lt (h : bound < total size list) : clip size bound (list ++ more) = clip size bound list := by
  induction list generalizing bound with
  | nil => exact absurd h (Nat.not_lt_zero _)
  | cons a list ih =>
    rw [total_cons] at h
    rw [List.cons_append, clip, clip]
    split
    · rw [ih (by omega)]
    · rfl

theorem prefix_clip (h : list <+: more) (hle : total size list ≤ bound) : list <+: clip size bound more := by
  obtain ⟨rest, rfl⟩ := h
  rw [clip_append hle]
  exact List.prefix_append ..

theorem clip_zero (hpos : ∀ a, 0 < size a) (list : List α) : clip size 0 list = [] := by
  cases list with
  | nil => rfl
  | cons a list => exact if_neg (Nat.not_le.2 (hpos a))

/-- A prefix that holds the clip or reaches the bound has the same clip. -/
theorem clip_of_starts (hpos : ∀ a, 0 < size a) (h : list <+: more)
    (hclip : clip size bound more <+: list ∨ bound ≤ total size list) :
    clip size bound list = clip size bound more := by
  rcases lt_or_ge bound (total size list) with hlt | hge
  · obtain ⟨rest, rfl⟩ := h
    exact (clip_append_of_lt hlt).symm
  rw [clip_eq_self hge]
  rcases hclip with hclip | hle
  · exact (prefix_clip h hge).eq_of_length_le hclip.length_le
  · obtain ⟨rest, rfl⟩ := h
    have hroom : bound - total size list = 0 := by omega
    rw [clip_append hge, hroom, clip_zero hpos, List.append_nil]

theorem clip_mono {small : Nat} (h : small ≤ bound) (list : List α) : clip size small list <+: clip size bound list :=
  prefix_clip (clip_starts _ _) ((total_clip_le _ _).trans h)

end Clips
