import Mathlib

/-!
# Bounded evidence

A store of entries that may merge two of them into one keeps the evidence of what was put into it when every item lies
inside an entry (`covered`, in a preorder of extents) and the weights of the entries add up to those of the items, up to
the saturation of an entry at `top`.  The rules say what putting in, merging and moving entries keep.
-/

namespace Evidence

variable {α β : Type*} [Preorder β]

structure Conserved (extent : α → β) (weight : α → Nat) (top : Nat) (entries items : List α) : Prop where
  covered : ∀ item ∈ items, ∃ entry ∈ entries, extent item ≤ extent entry
  total_le : (entries.map weight).sum ≤ (items.map weight).sum
  total : (entries.map weight).sum = (items.map weight).sum ∨ ∃ entry ∈ entries, weight entry = top
  weight_le : ∀ entry ∈ entries, weight entry ≤ top

namespace Conserved

variable {extent : α → β} {weight : α → Nat} {top : Nat} {entries entries' items items' : List α} {a b c item : α}

theorem nil : Conserved extent weight top [] [] := ⟨nofun, le_rfl, .inl rfl, nofun⟩

theorem perm (h : Conserved extent weight top entries items) (hentries : entries.Perm entries')
    (hitems : items.Perm items') : Conserved extent weight top entries' items' where
  covered item hitem := by
    obtain ⟨entry, hentry, hle⟩ := h.covered item (hitems.mem_iff.2 hitem)
    exact ⟨entry, hentries.mem_iff.1 hentry, hle⟩
  total_le := by
    rw [← (hentries.map weight).sum_eq, ← (hitems.map weight).sum_eq]
    exact h.total_le
  total := by
    rw [← (hentries.map weight).sum_eq, ← (hitems.map weight).sum_eq]
    exact h.total.imp_right fun ⟨entry, hentry, htop⟩ => ⟨entry, hentries.mem_iff.1 hentry, htop⟩
  weight_le entry hentry := h.weight_le entry (hentries.mem_iff.2 hentry)

theorem put (h : Conserved extent weight top entries items) (hitem : weight item ≤ top) :
    Conserved extent weight top (item :: entries) (item :: items) where
  covered other hother := by
    rcases List.mem_cons.1 hother with rfl | hother
    · exact ⟨other, by simp, le_rfl⟩
    · obtain ⟨entry, hentry, hle⟩ := h.covered other hother
      exact ⟨entry, List.mem_cons_of_mem _ hentry, hle⟩
  total_le := by
    have := h.total_le
    simp only [List.map_cons, List.sum_cons]
    omega
  total := by
    rcases h.total with htotal | ⟨entry, hentry, htop⟩
    · left
      simp only [List.map_cons, List.sum_cons, htotal]
    · exact .inr ⟨entry, List.mem_cons_of_mem _ hentry, htop⟩
  weight_le entry hentry := by
    rcases List.mem_cons.1 hentry with rfl | hentry
    · exact hitem
    · exact h.weight_le entry hentry

/-- Two entries give way to one that reaches as far as both and weighs as much as both, up to saturation. -/
theorem merge (h : Conserved extent weight top (a :: b :: entries) items) (ha : extent a ≤ extent c)
    (hb : extent b ≤ extent c) (hweight : weight c = min (weight a + weight b) top) :
    Conserved extent weight top (c :: entries) items where
  covered item hitem := by
    obtain ⟨entry, hentry, hle⟩ := h.covered item hitem
    simp only [List.mem_cons] at hentry
    rcases hentry with rfl | rfl | hentry
    · exact ⟨c, by simp, hle.trans ha⟩
    · exact ⟨c, by simp, hle.trans hb⟩
    · exact ⟨entry, by simp [hentry], hle⟩
  total_le := by
    have htotal := h.total_le
    simp only [List.map_cons, List.sum_cons] at htotal ⊢
    omega
  total := by
    -- the new entry is saturated, or it weighs exactly what the two did
    by_cases hsum : weight a + weight b < top
    · rcases h.total with htotal | ⟨entry, hentry, htop⟩
      · left
        simp only [List.map_cons, List.sum_cons] at htotal ⊢
        omega
      · simp only [List.mem_cons] at hentry
        rcases hentry with rfl | rfl | hentry
        · omega
        · omega
        · exact .inr ⟨entry, by simp [hentry], htop⟩
    · exact .inr ⟨c, by simp, by omega⟩
  weight_le entry hentry := by
    rcases List.mem_cons.1 hentry with rfl | hentry
    · omega
    · exact h.weight_le entry (by simp [hentry])

end Conserved

end Evidence
