import Mathlib

/-!
# Computations that change a state and may fail

An `EStateM` computation keeps the changes it made before it fails.  `Ends r Q E` says what the result `r` of a run is:
a value and a state with `Q`, or an error and a state with `E`.  The rules go through a computation step by step
(`ends_bind`), narrow it to a part of the state (`ends_zoom`) and lead an invariant through a loop (`ends_each`).
-/

namespace Stateful

universe u v

variable {ε σ τ α β : Type u}

def Ends (r : EStateM.Result ε σ α) (Q : α → σ → Prop) (E : ε → σ → Prop) : Prop :=
  match r with
  | .ok a s => Q a s
  | .error e s => E e s

/-- The computation on a part of the state. -/
def zoom (view : σ → τ) (put : τ → σ → σ) (x : EStateM ε τ α) : EStateM ε σ α := fun s =>
  match x (view s) with
  | .ok a t => .ok a (put t s)
  | .error e t => .error e (put t s)

/-- The computation on every element of a list in turn. -/
def each (f : β → EStateM ε σ α) : List β → EStateM ε σ (List α)
  | [] => pure []
  | b :: rest => do
    let a ← f b
    return a :: (← each f rest)

/-- The computation, or where it fails the recovery from its error, in the state that it has left. -/
def recover (x : EStateM ε σ α) (f : ε → EStateM ε σ α) : EStateM ε σ α := fun s =>
  match x s with
  | .ok a s' => .ok a s'
  | .error e s' => f e s'

/-- The state in which a run ends. -/
def finalState : EStateM.Result ε σ α → σ
  | .ok _ s => s
  | .error _ s => s

variable {Q Q' : α → σ → Prop} {E E' : ε → σ → Prop} {s : σ}

@[simp] theorem ends_error {e : ε} : Ends (.error e s) Q E ↔ E e s := Iff.rfl

@[simp] theorem ends_pure {a : α} : Ends ((pure a : EStateM ε σ α) s) Q E ↔ Q a s := Iff.rfl

@[simp] theorem ends_throw {e : ε} : Ends ((throw e : EStateM ε σ α) s) Q E ↔ E e s := Iff.rfl

@[simp] theorem ends_get {Q : σ → σ → Prop} : Ends ((get : EStateM ε σ σ) s) Q E ↔ Q s s := Iff.rfl

@[simp] theorem ends_modify {f : σ → σ} {Q : PUnit → σ → Prop} :
    Ends ((modify f : EStateM ε σ PUnit) s) Q E ↔ Q ⟨⟩ (f s) := Iff.rfl

theorem ends_bind {x : EStateM ε σ α} {f : α → EStateM ε σ β} {Q : β → σ → Prop} :
    Ends ((x >>= f) s) Q E ↔ Ends (x s) (fun a s' => Ends (f a s') Q E) E := by
  change Ends (EStateM.bind x f s) Q E ↔ _
  unfold EStateM.bind
  cases x s <;> exact Iff.rfl

variable {r : EStateM.Result ε σ α}

theorem Ends.mono (h : Ends r Q E) (hQ : ∀ a s, Q a s → Q' a s) (hE : ∀ e s, E e s → E' e s) : Ends r Q' E' := by
  cases r with
  | ok a s => exact hQ a s h
  | error e s => exact hE e s h

theorem Ends.and (h : Ends r Q E) (h' : Ends r Q' E') : Ends r (fun a s => Q a s ∧ Q' a s) (fun e s => E e s ∧ E' e s) := by
  cases r with
  | ok a s => exact ⟨h, h'⟩
  | error e s => exact ⟨h, h'⟩

theorem Ends.finalState {P : σ → Prop} (h : Ends r (fun _ => P) (fun _ => P)) : P (finalState r) := by
  cases r with
  | ok a s => exact h
  | error e s => exact h

theorem ends_zoom {view : σ → τ} {put : τ → σ → σ} {x : EStateM ε τ α} :
    Ends (zoom view put x s) Q E ↔ Ends (x (view s)) (fun a t => Q a (put t s)) (fun e t => E e (put t s)) := by
  unfold zoom
  cases x (view s) <;> exact Iff.rfl

theorem ends_recover {x : EStateM ε σ α} {f : ε → EStateM ε σ α} :
    Ends (recover x f s) Q E ↔ Ends (x s) Q (fun e s' => Ends (f e s') Q E) := by
  unfold recover
  cases x s <;> exact Iff.rfl

/-- What each turn of a loop keeps holds at its end; a turn that fails ends the loop. -/
theorem ends_foldlM {f : β → α → EStateM ε σ β} {I : β → σ → Prop} {l : List α} {b : β} (hinit : I b s)
    (hstep : ∀ a ∈ l, ∀ b s, I b s → Ends (f b a s) I E) : Ends (l.foldlM f b s) I E := by
  induction l generalizing b s with
  | nil => exact hinit
  | cons a l ih =>
    rw [List.foldlM_cons, ends_bind]
    exact (hstep a (by simp) b s hinit).mono (fun b' s' hI => ih hI fun a' ha' => hstep a' (by simp [ha'])) fun _ _ h => h

/-- What each turn of a loop keeps, given by the elements gone through with their values, holds at its end; a turn that
fails ends the loop. -/
theorem ends_each {f : β → EStateM ε σ α} {I : List (β × α) → σ → Prop} {l : List β} (hinit : I [] s)
    (hstep : ∀ before b after done s, l = before ++ b :: after → done.map Prod.fst = before → I done s →
      Ends (f b s) (fun a s' => I (done ++ [(b, a)]) s') E) :
    Ends (each f l s) (fun as s' => ∃ done, done.map Prod.fst = l ∧ done.map Prod.snd = as ∧ I done s') E := by
  suffices H : ∀ rest done s, l = done.map Prod.fst ++ rest → I done s →
      Ends (each f rest s)
        (fun as s' => ∃ done', done'.map Prod.fst = l ∧ done'.map Prod.snd = done.map Prod.snd ++ as ∧ I done' s') E by
    simpa using H l [] s rfl hinit
  intro rest
  induction rest with
  | nil =>
    intro done s hl hI
    exact ⟨done, by simpa using hl.symm, by simp, hI⟩
  | cons b rest ih =>
    intro done s hl hI
    rw [each, ends_bind]
    refine (hstep _ b rest done s hl rfl hI).mono (fun a s' hI' => ?_) fun _ _ h => h
    rw [ends_bind]
    refine (ih (done ++ [(b, a)]) s' (by simp [hl]) hI').mono (fun as s'' h => ?_) fun _ _ h => h
    obtain ⟨done', hfst, hsnd, hI''⟩ := h
    exact ⟨done', hfst, by simp [hsnd], hI''⟩

end Stateful
