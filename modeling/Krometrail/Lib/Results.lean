import Mathlib

/-!
# Computations that may fail

Inversion of a sequence of fallible steps (`bind_eq_ok`, `mapM_eq_ok`, `mem_mapM`), and the rules for a loop of them: what each turn keeps
holds at the end of a loop that succeeds (`foldlM_prefix`, `foldlM_invariant`, `foldlM_rel`), a loop succeeds when
each of its turns does (`foldlM_total`), and changes nothing when none of them does (`foldlM_fixed`).
-/

namespace Results

universe u v

variable {ε : Type v} {α β : Type u}

variable {a : α} {f : α → Except ε β} {x : Except ε α} {b b' : β} {l : List α} {bs : List β} {P : β → Prop}

@[simp] theorem ok_bind : (Except.ok a >>= f) = f a := rfl

@[simp] theorem bind_eq_ok : (x >>= f) = .ok b ↔ ∃ a, x = .ok a ∧ f a = .ok b := by
  cases x with
  | error e => exact ⟨nofun, fun ⟨_, h, _⟩ => nomatch h⟩
  | ok a => exact ⟨fun h => ⟨a, rfl, h⟩, fun ⟨_, rfl, h⟩ => h⟩

/-- The rest of a computation matters only where the first step succeeds. -/
theorem bind_congr_ok {g : α → Except ε β} (h : ∀ a, x = .ok a → f a = g a) : (x >>= f) = (x >>= g) := by
  cases x with
  | error e => rfl
  | ok a => exact h a rfl

@[simp] theorem pure_eq_ok {b : α} : (pure a : Except ε α) = .ok b ↔ a = b :=
  ⟨Except.ok.inj, congrArg _⟩

@[simp] theorem mapError_eq_ok {ε' : Type v} {f : ε → ε'} : x.mapError f = .ok a ↔ x = .ok a := by
  cases x with
  | error e => exact ⟨nofun, nofun⟩
  | ok b => exact ⟨fun h => congrArg Except.ok (Except.ok.inj h), fun h => congrArg Except.ok (Except.ok.inj h)⟩

theorem mapM_eq_ok (h : l.mapM f = .ok bs) : List.Forall₂ (fun a b => f a = .ok b) l bs := by
  induction l generalizing bs with
  | nil =>
    rw [List.mapM_nil, pure_eq_ok] at h
    subst h
    exact .nil
  | cons a l ih =>
    simp only [List.mapM_cons, bind_eq_ok, pure_eq_ok] at h
    obtain ⟨b, hb, rest, hrest, rfl⟩ := h
    exact .cons hb (ih hrest)

theorem mapM_total : (∃ bs, l.mapM f = .ok bs) ↔ ∀ a ∈ l, ∃ b, f a = .ok b := by
  induction l with
  | nil => exact ⟨fun _ => by simp, fun _ => ⟨[], rfl⟩⟩
  | cons a l ih =>
    rw [List.forall_mem_cons, ← ih]
    simp only [List.mapM_cons, bind_eq_ok, pure_eq_ok]
    constructor
    · rintro ⟨-, b, hb, bs, hbs, rfl⟩
      exact ⟨⟨b, hb⟩, bs, hbs⟩
    · rintro ⟨⟨b, hb⟩, bs, hbs⟩
      exact ⟨b :: bs, b, hb, bs, hbs, rfl⟩

theorem mem_mapM (h : l.mapM f = .ok bs) : b ∈ bs ↔ ∃ a ∈ l, f a = .ok b := by
  replace h := mapM_eq_ok h
  induction h with
  | nil => simp
  | cons hb _ ih =>
    rw [List.mem_cons, List.exists_mem_cons_iff]
    exact or_congr ⟨fun heq => heq ▸ hb, fun h => Except.ok.inj (h.symm.trans hb)⟩ ih

theorem map_mapM {γ : Type*} {g : β → γ} {g' : α → γ} (h : l.mapM f = .ok bs) (hkeep : ∀ a b, f a = .ok b → g b = g' a)
    : bs.map g = l.map g' := by
  replace h := mapM_eq_ok h
  induction h with
  | nil => rfl
  | cons hb _ ih => rw [List.map_cons, List.map_cons, hkeep _ _ hb, ih]

theorem mapM_mapM_eq_ok {γ : Type u} {g : β → Except ε γ} {cs : List γ} (hf : l.mapM f = .ok bs) (hg : bs.mapM g = .ok cs)
    : List.Forall₂ (fun a c => ∃ b, f a = .ok b ∧ g b = .ok c) l cs := by
  induction l generalizing bs cs with
  | nil =>
    rw [List.mapM_nil, pure_eq_ok] at hf
    subst hf
    rw [List.mapM_nil, pure_eq_ok] at hg
    subst hg
    exact .nil
  | cons a l ih =>
    simp only [List.mapM_cons, bind_eq_ok, pure_eq_ok] at hf
    obtain ⟨b, hb, rest, hrest, rfl⟩ := hf
    simp only [List.mapM_cons, bind_eq_ok, pure_eq_ok] at hg
    obtain ⟨c, hc, others, hothers, rfl⟩ := hg
    exact .cons ⟨b, hb, hc⟩ (ih hrest hothers)

theorem foldlM_fixed {f : β → α → Except ε β} (h : ∀ a ∈ l, f b a = .ok b) : l.foldlM f b = .ok b := by
  induction l with
  | nil => rfl
  | cons a l ih => rw [List.foldlM_cons, h a (by simp), ok_bind, ih fun x hx => h x (by simp [hx])]

/-- A loop that succeeds keeps an invariant indexed by the part of the list it has gone through. -/
theorem foldlM_prefix {f : β → α → Except ε β} {P : List α → β → Prop}
    (hstep : ∀ l₁ a l₂ b b', l = l₁ ++ a :: l₂ → P l₁ b → f b a = .ok b' → P (l₁ ++ [a]) b') (hb : P [] b)
    (h : l.foldlM f b = .ok b') : P l b' := by
  suffices H : ∀ l₂ l₁ b, l = l₁ ++ l₂ → P l₁ b → l₂.foldlM f b = .ok b' → P l b' from H l [] b rfl hb h
  intro l₂
  induction l₂ with
  | nil =>
    intro l₁ b hl hP hrun
    simp only [List.foldlM_nil, pure_eq_ok] at hrun
    simpa [hl, ← hrun] using hP
  | cons a l₂ ih =>
    intro l₁ b hl hP hrun
    simp only [List.foldlM_cons, bind_eq_ok] at hrun
    obtain ⟨b₁, hb₁, hrun⟩ := hrun
    exact ih (l₁ ++ [a]) b₁ (by simp [hl]) (hstep l₁ a l₂ b b₁ hl hP hb₁) hrun

theorem foldlM_invariant {f : β → α → Except ε β} (hstep : ∀ a ∈ l, ∀ b b', P b → f b a = .ok b' → P b') (hb : P b)
    (h : l.foldlM f b = .ok b') : P b' :=
  foldlM_prefix (P := fun _ => P) (fun l₁ a l₂ b b' hl => hstep a (by simp [hl]) b b') hb h

/-- A loop that succeeds is in every preorder that each of its turns is in. -/
theorem foldlM_rel {f : β → α → Except ε β} {R : β → β → Prop} (hrefl : ∀ b, R b b) (htrans : ∀ a b c, R a b → R b c → R a c)
    (hstep : ∀ a ∈ l, ∀ b b', f b a = .ok b' → R b b') (h : l.foldlM f b = .ok b') : R b b' :=
  foldlM_invariant (P := R b) (fun a ha c c' hc hrun => htrans b c c' hc (hstep a ha c c' hrun)) (hrefl b) h

/-- Two loops agree when their turns agree in every state that meets the invariant. -/
theorem foldlM_congr {f g : β → α → Except ε β} (hstep : ∀ a ∈ l, ∀ b, P b → f b a = g b a ∧ ∀ b', g b a = .ok b' → P b')
    (hb : P b) : l.foldlM f b = l.foldlM g b := by
  induction l generalizing b with
  | nil => rfl
  | cons a l ih =>
    obtain ⟨heq, hkeep⟩ := hstep a (by simp) b hb
    rw [List.foldlM_cons, List.foldlM_cons, heq]
    exact bind_congr_ok fun b' hb' => ih (fun x hx => hstep x (by simp [hx])) (hkeep b' hb')

/-- A loop succeeds when each of its turns does, from every state that meets the invariant. -/
theorem foldlM_total {f : β → α → Except ε β} (hstep : ∀ a ∈ l, ∀ b, P b → ∃ b', f b a = .ok b' ∧ P b') (hb : P b) :
    ∃ b', l.foldlM f b = .ok b' ∧ P b' := by
  induction l generalizing b with
  | nil => exact ⟨b, rfl, hb⟩
  | cons a l ih =>
    obtain ⟨b₁, h₁, hP₁⟩ := hstep a (by simp) b hb
    obtain ⟨b', h', hP'⟩ := ih (fun x hx => hstep x (by simp [hx])) hP₁
    exact ⟨b', by rw [List.foldlM_cons, bind_eq_ok]; exact ⟨b₁, h₁, h'⟩, hP'⟩

end Results
