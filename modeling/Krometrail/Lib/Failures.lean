import Mathlib

/-!
# Where a computation fails

Inversion of a sequence of fallible steps, and of a loop of them, that fails (`bind_eq_error`, `foldlM_eq_error`), and
computations that never fail in a certain way (`Avoids`).  A scan that checks each element against those before it
(`scan_eq_ok`).
-/

namespace Failures

universe u v

variable {ε : Type v} {α β : Type u}

theorem bind_eq_error {x : Except ε α} {f : α → Except ε β} {e : ε} :
    (x >>= f) = .error e ↔ x = .error e ∨ ∃ a, x = .ok a ∧ f a = .error e := by
  cases x with
  | error e' =>
    refine ⟨fun h => .inl (congrArg Except.error (Except.error.inj h)), fun h => ?_⟩
    rcases h with h | ⟨a, h, -⟩
    · exact congrArg Except.error (Except.error.inj h)
    · cases h
  | ok a =>
    refine ⟨fun h => .inr ⟨a, rfl, h⟩, fun h => ?_⟩
    rcases h with h | ⟨a', h, hf⟩
    · cases h
    · exact Except.ok.inj h ▸ hf

/-- A loop that fails fails in one of its turns, after those before it succeeded. -/
theorem foldlM_eq_error {f : β → α → Except ε β} {l : List α} {b : β} {e : ε} (h : l.foldlM f b = .error e) :
    ∃ done a rest b', l = done ++ a :: rest ∧ done.foldlM f b = .ok b' ∧ f b' a = .error e := by
  induction l generalizing b with
  | nil => cases h
  | cons a l ih =>
    rw [List.foldlM_cons, bind_eq_error] at h
    rcases h with h | ⟨b₁, hfirst, h⟩
    · exact ⟨[], a, l, b, rfl, rfl, h⟩
    · obtain ⟨done, a', rest, b', rfl, hdone, hturn⟩ := ih h
      refine ⟨a :: done, a', rest, b', rfl, ?_, hturn⟩
      rw [List.foldlM_cons, hfirst]
      exact hdone

/-- The computation fails with no error that `p` accepts. -/
def Avoids (p : ε → Prop) (x : Except ε α) : Prop := ∀ e, x = .error e → ¬p e

namespace Avoids

variable {p : ε → Prop} {x : Except ε α}

theorem ok (a : α) : Avoids p (Except.ok a : Except ε α) := nofun

theorem of_ok (h : ∃ a, x = .ok a) : Avoids p x := by
  obtain ⟨a, rfl⟩ := h
  exact ok a

theorem error {e : ε} (h : ¬p e) : Avoids p (Except.error e : Except ε α) := by
  rintro _ ⟨⟩
  exact h

theorem bind {f : α → Except ε β} (hx : Avoids p x) (hf : ∀ a, x = .ok a → Avoids p (f a)) : Avoids p (x >>= f) := by
  intro e h
  rcases bind_eq_error.1 h with h | ⟨a, ha, h⟩
  · exact hx e h
  · exact hf a ha e h

theorem ite {c : Prop} [Decidable c] {y : Except ε α} (hx : c → Avoids p x) (hy : ¬c → Avoids p y) :
    Avoids p (if c then x else y) := by
  split
  · exact hx ‹_›
  · exact hy ‹_›

end Avoids

section Scan

variable {κ : Type*} {v : List α → List α → Except ε Unit}

/-- A scan that compares the key of each element with all before it, and the element with the last one, accepts what is
without repeated keys and related in sequence. -/
theorem scan_eq_ok (key : α → κ) (R : α → α → Prop) (P : α → Prop) (hnil : ∀ before, v before [] = .ok ())
    (hcons : ∀ before a rest, v before (a :: rest) = .ok () ↔
      ((∀ b ∈ before, key b ≠ key a) ∧ (∀ b ∈ before.getLast?, R b a) ∧ P a) ∧ v (before ++ [a]) rest = .ok ()) (l : List α) :
    v [] l = .ok () ↔ (l.map key).Nodup ∧ l.IsChain R ∧ ∀ a ∈ l, P a := by
  suffices H : ∀ before, (before.map key).Nodup → before.IsChain R →
      (v before l = .ok () ↔ ((before ++ l).map key).Nodup ∧ (before ++ l).IsChain R ∧ ∀ a ∈ l, P a) from
    H [] List.nodup_nil List.isChain_nil
  induction l with
  | nil =>
    intro before hnodup hchain
    simp [hnil, hnodup, hchain]
  | cons a rest ih =>
    intro before hnodup hchain
    have happend : before ++ a :: rest = (before ++ [a]) ++ rest := by simp
    have hkeys : ((before ++ [a]).map key).Nodup ↔ ∀ b ∈ before, key b ≠ key a := by
      rw [List.map_append, List.map_singleton, ← List.concat_eq_append, List.nodup_concat]
      simp [hnodup]
    have hrelated : (before ++ [a]).IsChain R ↔ ∀ b ∈ before.getLast?, R b a := by
      simp [List.isChain_append, hchain]
    rw [hcons, happend, List.forall_mem_cons]
    constructor
    · rintro ⟨⟨hfresh, hlast, ha⟩, hrest⟩
      obtain ⟨hnodup', hchain', hall⟩ := (ih _ (hkeys.2 hfresh) (hrelated.2 hlast)).1 hrest
      exact ⟨hnodup', hchain', ha, hall⟩
    · rintro ⟨hnodup', hchain', ha, hall⟩
      have hfresh : ((before ++ [a]).map key).Nodup := by
        rw [List.map_append] at hnodup'
        exact hnodup'.of_append_left
      have hlast : (before ++ [a]).IsChain R := (List.isChain_append.1 hchain').1
      exact ⟨⟨hkeys.1 hfresh, hrelated.1 hlast, ha⟩, (ih _ hfresh hlast).2 ⟨hnodup', hchain', hall⟩⟩

end Scan

end Failures
