import Mathlib

/-!
# Relations with a primary key

A `Relation key` is a list of rows of which no two have the same key, as a table with a primary key.  `find?` looks a
row up, `delete` is `DELETE … WHERE`, and `upsert` is `INSERT … ON CONFLICT DO UPDATE`.  Each operation is described
by the rows it leaves.
-/

namespace Relations

universe u v

variable {α : Type u} {κ : Type v} {key : α → κ}

@[ext]
structure Relation (key : α → κ) where
  rows : List α
  nodup_keys : (rows.map key).Nodup

namespace Relation

instance [DecidableEq α] : DecidableEq (Relation key) := fun r s =>
  decidable_of_iff (r.rows = s.rows) (by cases r; cases s; simp)

instance : Membership α (Relation key) := ⟨fun r a => a ∈ r.rows⟩

def empty : Relation key := ⟨[], List.nodup_nil⟩

variable {r : Relation key} {a : α} {k : κ}

@[simp] theorem mem_rows : a ∈ r.rows ↔ a ∈ r := Iff.rfl

@[simp] theorem not_mem_empty : ¬a ∈ (empty : Relation key) := List.not_mem_nil

theorem eq_of_key {b : α} (ha : a ∈ r) (hb : b ∈ r) (h : key a = key b) : a = b :=
  List.inj_on_of_nodup_map r.nodup_keys ha hb h

/-- `DELETE … WHERE condition`. -/
def delete (condition : α → Bool) (r : Relation key) : Relation key where
  rows := r.rows.filter fun a => !condition a
  nodup_keys := r.nodup_keys.sublist (List.filter_sublist.map key)

@[simp] theorem mem_delete {condition : α → Bool} : a ∈ r.delete condition ↔ a ∈ r ∧ condition a = false := by
  simp [delete, ← mem_rows]

theorem delete_eq_self {condition : α → Bool} (h : ∀ a ∈ r, condition a = false) : r.delete condition = r := by
  cases r
  simp only [delete, mk.injEq, List.filter_eq_self, Bool.not_eq_true']
  exact h

variable [DecidableEq κ]

def find? (k : κ) (r : Relation key) : Option α := r.rows.find? fun a => key a = k

@[simp] theorem find?_eq_some : r.find? k = some a ↔ a ∈ r ∧ key a = k := by
  constructor
  · intro h
    exact ⟨List.mem_of_find?_eq_some h, by simpa using List.find?_some h⟩
  · rintro ⟨ha, rfl⟩
    cases h : r.find? (key a) with
    | none =>
      have := List.find?_eq_none.1 h a ha
      simp at this
    | some b =>
      have hkey : key b = key a := by simpa using List.find?_some h
      rw [eq_of_key (List.mem_of_find?_eq_some h) ha hkey]

@[simp] theorem find?_eq_none : r.find? k = none ↔ ∀ a ∈ r, key a ≠ k := by
  simp [find?]

theorem find?_congr {s : Relation key} (h : ∀ a, key a = k → (a ∈ r ↔ a ∈ s)) : r.find? k = s.find? k := by
  refine Option.ext fun a => ?_
  simp only [find?_eq_some]
  exact ⟨fun ⟨ha, hk⟩ => ⟨(h a hk).1 ha, hk⟩, fun ⟨ha, hk⟩ => ⟨(h a hk).2 ha, hk⟩⟩

/-- The row with its key in place of the one that has the key, or as a new row. -/
def upsert (a : α) (r : Relation key) : Relation key where
  rows := if (r.find? (key a)).isSome then r.rows.map fun b => if key b = key a then a else b else r.rows ++ [a]
  nodup_keys := by
    split
    · have hmap : ∀ b, key (if key b = key a then a else b) = key b := by
        intro b
        split
        · rename_i h
          exact h.symm
        · rfl
      simpa [List.map_map, Function.comp_def, hmap] using r.nodup_keys
    · rename_i h
      have hnone : r.find? (key a) = none := by simpa using h
      rw [List.map_append, List.nodup_append]
      refine ⟨r.nodup_keys, List.nodup_singleton _, ?_⟩
      rintro k hk _ hlast rfl
      obtain ⟨b, hb, rfl⟩ := List.mem_map.1 hk
      exact find?_eq_none.1 hnone b hb (by simpa using hlast)

@[simp] theorem mem_upsert {b : α} : b ∈ r.upsert a ↔ b = a ∨ b ∈ r ∧ key b ≠ key a := by
  rw [← mem_rows, upsert]
  split
  · rename_i h
    obtain ⟨old, hold⟩ := Option.isSome_iff_exists.1 h
    obtain ⟨hmem, hkey⟩ := find?_eq_some.1 hold
    simp only [List.mem_map, mem_rows]
    constructor
    · rintro ⟨c, hc, rfl⟩
      split
      · exact .inl rfl
      · rename_i hne
        exact .inr ⟨hc, hne⟩
    · rintro (rfl | ⟨hb, hne⟩)
      · exact ⟨old, hmem, if_pos hkey⟩
      · exact ⟨b, hb, if_neg hne⟩
  · rename_i h
    have hnone : r.find? (key a) = none := by simpa using h
    rw [List.mem_append, List.mem_singleton, mem_rows]
    constructor
    · rintro (hb | rfl)
      · exact .inr ⟨hb, find?_eq_none.1 hnone b hb⟩
      · exact .inl rfl
    · rintro (rfl | ⟨hb, -⟩)
      · exact .inr rfl
      · exact .inl hb

theorem upsert_eq_self (h : a ∈ r) : r.upsert a = r := by
  have hfind : r.find? (key a) = some a := find?_eq_some.2 ⟨h, rfl⟩
  have hsame : ∀ b ∈ r.rows, (if key b = key a then a else b) = b := by
    intro b hb
    split
    · rename_i hkey
      exact (eq_of_key hb h hkey).symm
    · rfl
  ext1
  simp only [upsert, hfind, Option.isSome_some, if_true]
  exact (List.map_congr_left hsame).trans (List.map_id _)

end Relation

end Relations
