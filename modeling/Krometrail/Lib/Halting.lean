import Krometrail.Lib.Results

/-!
# Passes that halt

A pass performs the items of a list in turn, until one of them halts it with a reason; the items after that are skipped
for the reason.  `pass_eq` takes a finished pass apart into the items performed, in the order of the list, and the
skipped ones, and `Performed` leads facts about single performances through the pass.
-/

namespace Halting

open Results

universe u

variable {ε σ ρ ι α : Type u}

theorem forM_eq_ok {f : α → Except ε PUnit} {l : List α} : l.forM f = .ok ⟨⟩ ↔ ∀ a ∈ l, f a = .ok ⟨⟩ := by
  induction l with
  | nil => exact ⟨fun _ => nofun, fun _ => rfl⟩
  | cons a l ih =>
    have hunfold : (a :: l).forM f = f a >>= fun _ => l.forM f := rfl
    rw [hunfold, List.forall_mem_cons, ← ih, bind_eq_ok]
    exact ⟨fun ⟨_, hfirst, hrest⟩ => ⟨hfirst, hrest⟩, fun ⟨hfirst, hrest⟩ => ⟨_, hfirst, hrest⟩⟩

/-- A pass under way: its state, the reason for which it has halted and what it has put out. -/
structure Progress (σ ρ α : Type u) where
  inner : σ
  halted : Option ρ
  outputs : List α

def advance (perform : σ → ι → Except ε (σ × α × Option ρ)) (skip : ρ → ι → Except ε α) (p : Progress σ ρ α) (i : ι) :
    Except ε (Progress σ ρ α) :=
  match p.halted with
  | some reason => do
    let output ← skip reason i
    return { p with outputs := p.outputs ++ [output] }
  | none => do
    let (inner, output, halted) ← perform p.inner i
    return { inner, halted, outputs := p.outputs ++ [output] }

/-- Items performed from a state, each one but the last without halting. -/
inductive Performed (R : σ → ι → σ → α → Option ρ → Prop) : σ → List ι → σ → List α → Option ρ → Prop
  | nil (s : σ) : Performed R s [] s [] none
  | halt {s s' : σ} {i : ι} {a : α} {reason : ρ} (h : R s i s' a (some reason)) : Performed R s [i] s' [a] (some reason)
  | cons {s s₁ s' : σ} {i : ι} {a : α} {items : List ι} {outputs : List α} {halted : Option ρ} (h : R s i s₁ a none)
      (rest : Performed R s₁ items s' outputs halted) : Performed R s (i :: items) s' (a :: outputs) halted

namespace Performed

variable {R : σ → ι → σ → α → Option ρ → Prop} {s s' : σ} {items : List ι} {outputs : List α} {halted : Option ρ}

theorem length_eq (h : Performed R s items s' outputs halted) : outputs.length = items.length := by
  induction h with
  | nil => rfl
  | halt => rfl
  | cons _ _ ih => simp [ih]

theorem keeps {P : σ → Prop} (h : Performed R s items s' outputs halted)
    (hstep : ∀ {s i s' a r}, R s i s' a r → P s → P s') (hs : P s) : P s' := by
  induction h with
  | nil => exact hs
  | halt h => exact hstep h hs
  | cons h _ ih => exact ih (hstep h hs)

/-- What a performance, between two states reached, gives to its output. -/
theorem forall₂ {P : σ → Prop} {Q : ι → α → Prop} (h : Performed R s items s' outputs halted)
    (hkeep : ∀ {s i s' a r}, R s i s' a r → P s → P s') (hgive : ∀ {s i s' a r}, R s i s' a r → P s → Q i a)
    (hs : P s) : List.Forall₂ Q items outputs := by
  induction h with
  | nil => exact .nil
  | halt h => exact .cons (hgive h hs) .nil
  | cons h _ ih => exact .cons (hgive h hs) (ih (hkeep h hs))

end Performed

variable {perform : σ → ι → Except ε (σ × α × Option ρ)} {skip : ρ → ι → Except ε α} {s s' : σ} {items : List ι}
  {outputs : List α}

/-- A loop is a pass when its turns are those of the pass, seen through a view of its state. -/
theorem foldlM_view {β γ : Type u} {view : β → γ} {f : β → ι → Except ε β} {g : γ → ι → Except ε γ}
    (h : ∀ b i, (f b i).map view = g (view b) i) (items : List ι) (b : β) : (items.foldlM f b).map view = items.foldlM g (view b) := by
  induction items generalizing b with
  | nil => rfl
  | cons i items ih =>
    rw [List.foldlM_cons, List.foldlM_cons, ← h]
    cases f b i with
    | error e => rfl
    | ok b' => exact ih b'

theorem pass_halted {skipped : ρ → ι → α} {reason : ρ} (hskip : ∀ i ∈ items, skip reason i = .ok (skipped reason i)) :
    items.foldlM (advance perform skip) ⟨s, some reason, outputs⟩ =
      .ok ⟨s, some reason, outputs ++ items.map (skipped reason)⟩ := by
  induction items generalizing outputs with
  | nil => rw [List.map_nil, List.append_nil]; rfl
  | cons i items ih =>
    have hfirst : advance perform skip ⟨s, some reason, outputs⟩ i =
        .ok ⟨s, some reason, outputs ++ [skipped reason i]⟩ := by
      simp only [advance, hskip i List.mem_cons_self]
      rfl
    rw [List.foldlM_cons, hfirst, ok_bind, ih fun j hj => hskip j (List.mem_cons_of_mem _ hj), List.append_assoc]
    rfl

/-- A pass whose performances succeed and keep an invariant puts out the performed items, in order, and then the skipped
ones, which there are only when the last performance has halted it. -/
theorem pass_eq {R : σ → ι → σ → α → Option ρ → Prop} {P : σ → Prop} {skipped : ρ → ι → α}
    (hperform : ∀ s, ∀ i ∈ items, P s → ∃ s' a r, perform s i = .ok (s', a, r) ∧ R s i s' a r ∧ P s')
    (hskip : ∀ reason, ∀ i ∈ items, skip reason i = .ok (skipped reason i)) (outputs : List α) (hs : P s) :
    ∃ done rest s' outputs' halted, items = done ++ rest ∧ Performed R s done s' outputs' halted ∧
      (∃ tail, items.foldlM (advance perform skip) ⟨s, none, outputs⟩ = .ok ⟨s', halted, outputs ++ outputs' ++ tail⟩ ∧
        (rest = [] ∧ tail = [] ∨ ∃ reason, halted = some reason ∧ tail = rest.map (skipped reason))) := by
  induction items generalizing s outputs with
  | nil => exact ⟨[], [], s, [], none, rfl, .nil s, [], by rw [List.append_nil, List.append_nil]; rfl, .inl ⟨rfl, rfl⟩⟩
  | cons i items ih =>
    obtain ⟨s₁, a, r, hfirst, hR, hs₁⟩ := hperform s i List.mem_cons_self hs
    have hadvance : advance perform skip ⟨s, none, outputs⟩ i = .ok ⟨s₁, r, outputs ++ [a]⟩ := by
      simp only [advance, hfirst]
      rfl
    rw [List.foldlM_cons, hadvance, ok_bind]
    cases r with
    | some reason =>
      refine ⟨[i], items, s₁, [a], some reason, rfl, .halt hR, items.map (skipped reason), ?_, .inr ⟨reason, rfl, rfl⟩⟩
      exact pass_halted fun j hj => hskip reason j (List.mem_cons_of_mem _ hj)
    | none =>
      obtain ⟨done, rest, s', outputs', halted, rfl, hdone, tail, hpass, htail⟩ :=
        ih (fun s j hj => hperform s j (List.mem_cons_of_mem _ hj)) (fun reason j hj => hskip reason j (List.mem_cons_of_mem _ hj))
          (outputs ++ [a]) hs₁
      refine ⟨i :: done, rest, s', a :: outputs', halted, rfl, .cons hR hdone, tail, ?_, htail⟩
      rw [hpass]
      simp only [List.append_assoc, List.cons_append, List.nil_append]

end Halting
