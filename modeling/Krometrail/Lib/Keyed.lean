import Mathlib.Data.List.Nodup

/-!
# Tables with a unique key

A list whose elements have different keys, as a table of a database has: looking a key up, deleting it and inserting it.
-/

namespace Keyed

variable {α κ : Type*} {key : α → κ} {l : List α} {a b : α}

/-- Different elements have different keys. -/
def UniqueKeys (key : α → κ) (l : List α) : Prop := (l.map key).Nodup

theorem unique_nil : UniqueKeys key [] := List.nodup_nil

theorem UniqueKeys.sublist {l' : List α} (h : UniqueKeys key l) (hsub : l'.Sublist l) : UniqueKeys key l' :=
  List.Nodup.sublist (hsub.map key) h

theorem UniqueKeys.filter (h : UniqueKeys key l) (p : α → Bool) : UniqueKeys key (l.filter p) := h.sublist List.filter_sublist

theorem UniqueKeys.eq_of_key_eq (h : UniqueKeys key l) (ha : a ∈ l) (hb : b ∈ l) (hkey : key a = key b) : a = b :=
  List.inj_on_of_nodup_map h ha hb hkey

theorem UniqueKeys.insert (h : UniqueKeys key l) (hnew : ∀ b ∈ l, key b ≠ key a) : UniqueKeys key (l ++ [a]) := by
  rw [UniqueKeys, List.map_append, List.map_singleton, List.nodup_append]
  refine ⟨h, List.nodup_singleton _, ?_⟩
  rintro _ hmem _ hlast
  obtain ⟨b, hb, rfl⟩ := List.mem_map.1 hmem
  obtain rfl := List.mem_singleton.1 hlast
  exact hnew b hb

variable [DecidableEq κ]

theorem UniqueKeys.replace (h : UniqueKeys key l) (a : α) : UniqueKeys key (l.filter (key · ≠ key a) ++ [a]) :=
  (h.filter _).insert fun b hb => by simpa using (List.mem_filter.1 hb).2

theorem UniqueKeys.filter_key (h : UniqueKeys key l) (ha : a ∈ l) : l.filter (key · = key a) = [a] := by
  induction l with
  | nil => cases ha
  | cons b l ih =>
    rw [UniqueKeys, List.map_cons, List.nodup_cons] at h
    rcases List.mem_cons.1 ha with rfl | ha
    · rw [List.filter_cons_of_pos (by simp), List.filter_eq_nil_iff.2]
      intro b hb heq
      exact h.1 (of_decide_eq_true heq ▸ List.mem_map_of_mem hb)
    · have hne : key b ≠ key a := fun heq => h.1 (heq ▸ List.mem_map_of_mem ha)
      rw [List.filter_cons_of_neg (by simpa using hne), ih h.2 ha]

theorem UniqueKeys.find_key (h : UniqueKeys key l) (ha : a ∈ l) : l.find? (key · = key a) = some a := by
  rw [← List.head?_filter, h.filter_key ha]
  rfl

end Keyed
