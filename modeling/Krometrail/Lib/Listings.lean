import Mathlib

/-!
# Lists that index a finite map

A list that names every key of a finite map exactly once (`Lists`), as a queue of the keys in the order they came in
does, and a log that numbers what it lists by position (`Numbers`).  A log grows at its end: `Renumbers` is what one
extension may change, and numbers given later are greater.
-/

namespace Listings

open Std (ExtTreeMap)

variable {α β : Type*}

section Keys

variable {cmp : α → α → Ordering} [Std.TransCmp cmp] [Std.LawfulEqCmp cmp] {m m' : ExtTreeMap α β cmp} {order : List α}

/-- The list names every key of the map exactly once, and nothing else. -/
structure Lists (order : List α) (m : ExtTreeMap α β cmp) : Prop where
  nodup : order.Nodup
  mem_iff : ∀ k, k ∈ order ↔ k ∈ m

omit [Std.LawfulEqCmp cmp] in
theorem lists_empty : Lists [] (∅ : ExtTreeMap α β cmp) := ⟨List.nodup_nil, fun k => by simp⟩

theorem Lists.size_eq (h : Lists order m) : m.size = order.length := by
  have hperm : m.keys.Perm order := by
    rw [List.perm_ext_iff_of_nodup ExtTreeMap.nodup_keys h.nodup]
    intro k
    rw [ExtTreeMap.mem_keys, h.mem_iff]
  rw [← ExtTreeMap.length_keys]
  exact hperm.length_eq

theorem size_le_of_keys {γ : Type*} {m' : ExtTreeMap α γ cmp} (h : ∀ k ∈ m, k ∈ m') : m.size ≤ m'.size := by
  rw [← ExtTreeMap.length_keys, ← ExtTreeMap.length_keys]
  refine (List.subperm_of_subset ExtTreeMap.nodup_keys fun k hk => ?_).length_le
  rw [ExtTreeMap.mem_keys] at hk ⊢
  exact h k hk

variable [DecidableEq α]

theorem Lists.erase (h : Lists order m) (k : α) : Lists (order.filter (· ≠ k)) (m.erase k) := by
  refine ⟨h.nodup.filter _, fun k' => ?_⟩
  rw [List.mem_filter, h.mem_iff, ExtTreeMap.mem_erase]
  have hcmp : cmp k k' = .eq ↔ k = k' := Std.LawfulEqCmp.compare_eq_iff_eq
  simp only [ne_eq, hcmp, decide_not, Bool.not_eq_true', decide_eq_false_iff_not]
  rw [and_comm]
  exact and_congr_left fun _ => ne_comm

theorem Lists.insert (h : Lists order m) (k : α) (v : β) :
    Lists (if order.contains k then order else order ++ [k]) (m.insert k v) := by
  have hcmp : ∀ k', cmp k k' = .eq ↔ k = k' := fun k' => Std.LawfulEqCmp.compare_eq_iff_eq
  by_cases hk : k ∈ order
  · rw [if_pos (by simpa using hk)]
    refine ⟨h.nodup, fun k' => ?_⟩
    rw [ExtTreeMap.mem_insert, hcmp, ← h.mem_iff]
    exact ⟨.inr, fun hor => hor.elim (fun heq => heq ▸ hk) id⟩
  · rw [if_neg (by simpa using hk)]
    refine ⟨h.nodup.append (List.nodup_singleton k) (by simpa using hk), fun k' => ?_⟩
    rw [ExtTreeMap.mem_insert, hcmp, ← h.mem_iff, List.mem_append, List.mem_singleton, or_comm]
    exact or_congr_left eq_comm

theorem Lists.tail {k : α} (h : Lists (k :: order) m) : Lists order (m.erase k) := by
  obtain ⟨hk, hnodup⟩ := List.nodup_cons.1 h.nodup
  have herase := h.erase k
  rw [List.filter_cons_of_neg (by simp)] at herase
  have hall : order.filter (· ≠ k) = order := by
    rw [List.filter_eq_self]
    intro k' hk'
    have hne : k' ≠ k := fun heq => hk (heq ▸ hk')
    simpa using hne
  exact hall ▸ herase

end Keys

section Numbers

variable {base next : Nat} {log created created' : List α} {number number' number'' : α → Option Nat}

/-- Whatever has a number stands at that position of the log, counted from `base`. -/
def Numbers (base : Nat) (log : List α) (number : α → Option Nat) : Prop :=
  ∀ a n, number a = some n → base ≤ n ∧ log[n - base]? = some a

/-- Whatever has a number had it before, or stands at that position of `created`, counted from `next`. -/
def Renumbers (next : Nat) (created : List α) (number number' : α → Option Nat) : Prop :=
  ∀ a n, number' a = some n → number a = some n ∨ next ≤ n ∧ created[n - next]? = some a

theorem Numbers.lt (h : Numbers base log number) {a : α} {n : Nat} (ha : number a = some n) : n < base + log.length := by
  obtain ⟨hbase, hat⟩ := h a n ha
  obtain ⟨hlt, -⟩ := List.getElem?_eq_some_iff.1 hat
  omega

theorem Numbers.injective (h : Numbers base log number) {a b : α} {n : Nat} (ha : number a = some n)
    (hb : number b = some n) : a = b :=
  Option.some.inj ((h a n ha).2.symm.trans (h b n hb).2)

theorem Renumbers.of_kept (h : ∀ a n, number' a = some n → number a = some n) : Renumbers next [] number number' :=
  fun a n ha => .inl (h a n ha)

theorem Renumbers.trans (h : Renumbers next created number number')
    (h' : Renumbers (next + created.length) created' number' number'') :
    Renumbers next (created ++ created') number number'' := by
  intro a n ha
  rcases h' a n ha with hkept | ⟨hnext, hat⟩
  · rcases h a n hkept with hold | ⟨hnext, hat⟩
    · exact .inl hold
    · obtain ⟨hlt, -⟩ := List.getElem?_eq_some_iff.1 hat
      exact .inr ⟨hnext, by rw [List.getElem?_append_left hlt, hat]⟩
  · refine .inr ⟨by omega, ?_⟩
    rw [List.getElem?_append_right (by omega), ← hat]
    congr 1
    omega

theorem Numbers.extend (h : Numbers base log number) (h' : Renumbers (base + log.length) created number number') :
    Numbers base (log ++ created) number' := by
  intro a n ha
  rcases h' a n ha with hkept | ⟨hnext, hat⟩
  · obtain ⟨hbase, hat⟩ := h a n hkept
    obtain ⟨hlt, -⟩ := List.getElem?_eq_some_iff.1 hat
    exact ⟨hbase, by rw [List.getElem?_append_left hlt, hat]⟩
  · refine ⟨by omega, ?_⟩
    rw [List.getElem?_append_right (by omega), ← hat]
    congr 1
    omega

end Numbers

end Listings
