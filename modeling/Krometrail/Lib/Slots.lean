import Krometrail.Lib.Tables

/-!
# Slots with lazy reclamation

A table of entries that are live or dead, with a capacity.  A key that is taken and already in the table stays as it
is; another one gets a live entry, and when the table is full the dead entries make room first.  Taking a list of
distinct keys leaves a dead entry dead unless a key before it made room (`foldl_take`).
-/

namespace Slots

open Std (ExtTreeMap)

variable {α : Type*} {cmp : α → α → Ordering} [Std.TransCmp cmp]

/-- The table without its dead entries. -/
def reclaim (m : ExtTreeMap α Bool cmp) : ExtTreeMap α Bool cmp := m.filter fun _ live => live

/-- The table after a key is taken. -/
def take (capacity : Nat) (m : ExtTreeMap α Bool cmp) (k : α) : ExtTreeMap α Bool cmp :=
  if m[k]?.isSome then m else (if capacity ≤ m.size then reclaim m else m).insert k true

/-- Among `keys`, a key that is not in the table comes before `k` and finds the table full: its entries, and those of the
new keys before it, fill the capacity. -/
def MakesRoom (capacity : Nat) (m : ExtTreeMap α Bool cmp) (keys : List α) (k : α) : Prop :=
  ∃ before k' after, keys = before ++ k' :: after ∧ k ∈ after ∧ m[k']? = none ∧
    capacity ≤ m.size + (before.filter fun k => m[k]?.isNone).length

variable {capacity : Nat} {m : ExtTreeMap α Bool cmp} {keys : List α} {k k' : α}

theorem take_of_mem (h : m[k]?.isSome = true) : take capacity m k = m := if_pos h

theorem take_of_room (h : m[k]? = none) (hroom : m.size < capacity) : take capacity m k = m.insert k true := by
  simp [take, h, Nat.not_le.2 hroom]

theorem take_of_full (h : m[k]? = none) (hfull : capacity ≤ m.size) : take capacity m k = (reclaim m).insert k true := by
  simp [take, h, hfull]

theorem size_insert_of_none (h : m[k]? = none) : (m.insert k true).size = m.size + 1 := by
  have hmem : k ∉ m := by simpa using h
  simp [ExtTreeMap.size_insert, hmem]

theorem MakesRoom.mem (h : MakesRoom capacity m keys k) : k ∈ keys := by
  obtain ⟨before, k', after, rfl, hk, -⟩ := h
  simp [hk]

theorem makesRoom_cons_mem (h : m[k']?.isSome = true) :
    MakesRoom capacity m (k' :: keys) k ↔ MakesRoom capacity m keys k := by
  have hnot : m[k']?.isNone = false := by simpa [Option.isSome_iff_ne_none] using h
  constructor
  · rintro ⟨before, x, after, heq, hk, hx, hfull⟩
    cases before with
    | nil =>
      obtain ⟨rfl, rfl⟩ := List.cons.inj heq
      simp [hx] at h
    | cons y before =>
      obtain ⟨rfl, rfl⟩ := List.cons.inj heq
      exact ⟨before, x, after, rfl, hk, hx, by simpa [hnot] using hfull⟩
  · rintro ⟨before, x, after, rfl, hk, hx, hfull⟩
    exact ⟨k' :: before, x, after, rfl, hk, hx, by simpa [hnot] using hfull⟩

variable [Std.LawfulEqCmp cmp]

theorem getElem?_reclaim (m : ExtTreeMap α Bool cmp) (k : α) : (reclaim m)[k]? = m[k]?.filter id := by
  rw [reclaim, ExtTreeMap.getElem?_filter']
  rfl

variable [DecidableEq α]

theorem makesRoom_cons_room (h : m[k']? = none) (hroom : m.size < capacity) (hkeys : k' ∉ keys) :
    MakesRoom capacity m (k' :: keys) k ↔ MakesRoom capacity (m.insert k' true) keys k := by
  have hother : ∀ x ∈ keys, (m.insert k' true)[x]? = m[x]? := fun x hx => by
    have hne : k' ≠ x := by
      rintro rfl
      exact hkeys hx
    rw [Tables.getElem?_insert, if_neg hne]
  have hcount : ∀ before, (∀ x ∈ before, x ∈ keys) → ((k' :: before).filter fun k => m[k]?.isNone).length =
      (before.filter fun k => (m.insert k' true)[k]?.isNone).length + 1 := by
    intro before hbefore
    have hsame : (before.filter fun k => (m.insert k' true)[k]?.isNone) = before.filter fun k => m[k]?.isNone :=
      List.filter_congr fun x hx => by rw [hother x (hbefore x hx)]
    simp [hsame, h]
  have hsize := size_insert_of_none h
  constructor
  · rintro ⟨before, x, after, heq, hk, hx, hfull⟩
    cases before with
    | nil =>
      simp at hfull
      omega
    | cons y before =>
      obtain ⟨rfl, rfl⟩ := List.cons.inj heq
      refine ⟨before, x, after, rfl, hk, by rw [hother x (by simp), hx], ?_⟩
      rw [hcount before fun z hz => by simp [hz]] at hfull
      omega
  · rintro ⟨before, x, after, rfl, hk, hx, hfull⟩
    refine ⟨k' :: before, x, after, rfl, hk, by rw [← hother x (by simp), hx], ?_⟩
    rw [hcount before fun z hz => by simp [hz]]
    omega

/-- After distinct keys were taken, the live entries are those that were live, and those of the keys that were not in
the table, or whose dead entry made room before its turn. -/
theorem foldl_take (hkeys : keys.Nodup) :
    (keys.foldl (take capacity) m)[k]? = some true ↔
      m[k]? = some true ∨ k ∈ keys ∧ (m[k]? = some false → MakesRoom capacity m keys k) := by
  induction keys generalizing m with
  | nil => simp
  | cons x keys ih =>
    obtain ⟨hx, hkeys'⟩ := List.nodup_cons.1 hkeys
    rw [List.foldl_cons]
    cases hlookup : m[x]? with
    | some live =>
      have hmem : m[x]?.isSome = true := by simp [hlookup]
      rw [take_of_mem hmem, ih hkeys', makesRoom_cons_mem hmem]
      by_cases hk : k = x
      · subst hk
        have hnot : ¬MakesRoom capacity m keys k := fun h => hx h.mem
        cases live <;> simp [hlookup, hx, hnot]
      · simp [hk]
    | none =>
      by_cases hroom : m.size < capacity
      · rw [take_of_room hlookup hroom, ih hkeys', makesRoom_cons_room hlookup hroom hx, Tables.getElem?_insert]
        by_cases hk : x = k
        · subst hk
          simp [hlookup]
        · simp [hk, Ne.symm hk]
      · have hfull : capacity ≤ m.size := Nat.le_of_not_lt hroom
        rw [take_of_full hlookup hfull, ih hkeys', Tables.getElem?_insert, getElem?_reclaim]
        by_cases hk : x = k
        · subst hk
          simp [hlookup]
        · have hmakes : k ∈ keys → MakesRoom capacity m (x :: keys) k := fun hmem =>
            ⟨[], x, keys, rfl, hmem, hlookup, by simpa using hfull⟩
          cases hentry : m[k]? with
          | none => simp [hk, Ne.symm hk]
          | some live => cases live <;> simp_all [Option.filter, Ne.symm hk]

end Slots
