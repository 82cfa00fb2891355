import Mathlib

/-!
# Finite maps

What a finite map keeps entry by entry (`All`), and a pass that visits every key of a map once, in any order, and
rewrites the entry it visits: it is the `map` of the rewriting (`foldl_rewriteAt`).
-/

namespace Tables

open Std (ExtTreeMap)

variable {α β : Type*} {cmp : α → α → Ordering} [Std.TransCmp cmp]

/-- Every entry of the map satisfies `P`. -/
def All (P : α → β → Prop) (m : ExtTreeMap α β cmp) : Prop := ∀ k v, m[k]? = some v → P k v

variable [Std.LawfulEqCmp cmp]

theorem getElem?_insert [DecidableEq α] (m : ExtTreeMap α β cmp) (k : α) (v : β) (k' : α) :
    (m.insert k v)[k']? = if k = k' then some v else m[k']? := by
  by_cases hk : k = k'
  · subst hk
    simp
  · rw [ExtTreeMap.getElem?_insert, if_neg (by simpa using hk), if_neg hk]

theorem getElem?_erase [DecidableEq α] (m : ExtTreeMap α β cmp) (k k' : α) :
    (m.erase k)[k']? = if k = k' then none else m[k']? := by
  by_cases hk : k = k'
  · subst hk
    simp
  · rw [ExtTreeMap.getElem?_erase, if_neg (by simpa using hk), if_neg hk]

/-- Rewrite the entry of one key, when there is one. -/
def rewriteAt (f : α → β → β) (m : ExtTreeMap α β cmp) (k : α) : ExtTreeMap α β cmp :=
  match m[k]? with
  | none => m
  | some v => m.insert k (f k v)

theorem getElem?_rewriteAt [DecidableEq α] (f : α → β → β) (m : ExtTreeMap α β cmp) (k k' : α) :
    (rewriteAt f m k)[k']? = if k = k' then m[k']?.map (f k') else m[k']? := by
  unfold rewriteAt
  by_cases hk : k = k'
  · subst hk
    cases h : m[k]? <;> simp [h]
  · cases h : m[k]? <;> simp [hk, ExtTreeMap.getElem?_insert]

theorem getElem?_foldl_rewriteAt [DecidableEq α] (f : α → β → β) {keys : List α} (hkeys : keys.Nodup)
    (m : ExtTreeMap α β cmp) (k : α) :
    (keys.foldl (rewriteAt f) m)[k]? = if k ∈ keys then m[k]?.map (f k) else m[k]? := by
  induction keys generalizing m with
  | nil => simp
  | cons x keys ih =>
    obtain ⟨hx, hkeys⟩ := List.nodup_cons.1 hkeys
    rw [List.foldl_cons, ih hkeys, getElem?_rewriteAt]
    by_cases hk : x = k
    · subst hk
      simp [hx]
    · simp [hk, Ne.symm hk]

/-- A visit of every key, in any order, is the `map` of the rewriting. -/
theorem foldl_rewriteAt [DecidableEq α] (f : α → β → β) {keys : List α} {m : ExtTreeMap α β cmp}
    (hkeys : keys.Perm m.keys) : keys.foldl (rewriteAt f) m = m.map f := by
  have hnodup : keys.Nodup := hkeys.nodup_iff.2 ExtTreeMap.nodup_keys
  refine ExtTreeMap.ext_getElem? fun k => ?_
  rw [getElem?_foldl_rewriteAt f hnodup, ExtTreeMap.getElem?_map]
  by_cases hk : k ∈ keys
  · rw [if_pos hk]
  · have hm : m[k]? = none := by simpa [hkeys.mem_iff] using hk
    simp [hk, hm]

theorem forall_of_all {m : ExtTreeMap α β cmp} {p : α → β → Bool}
    (h : (m.toList.all fun entry => p entry.1 entry.2) = true) : ∀ (k : α) (v : β), m[k]? = some v → p k v = true :=
  fun k v hv => List.all_eq_true.1 h (k, v) (ExtTreeMap.mem_toList_iff_getElem?_eq_some.2 hv)

end Tables
