import Mathlib

/-!
# Runs of a system of steps

A system reads one input at a time and answers with an output.  A run is guarded: `Run M G trace s` says that `trace`,
the states before each step with its input and output, leads from an initial state to `s`, and that the guard `G` held
of the state and the input before every step.  The invariant rules (`Run.invariant`, `Run.traceInvariant`) are the
inductions that every result about runs uses.
-/

namespace Runs

variable {σ ι ο : Type*}

structure System (σ ι ο : Type*) where
  init : σ → Prop
  step : σ → ι → ο → σ → Prop

inductive Run (M : System σ ι ο) (G : σ → ι → Prop) : List (σ × ι × ο) → σ → Prop
  | start {s : σ} : M.init s → Run M G [] s
  | next {trace : List (σ × ι × ο)} {s s' : σ} {i : ι} {o : ο} :
      Run M G trace s → G s i → M.step s i o s' → Run M G (trace ++ [(s, i, o)]) s'

/-- A state that some run, under no guard, leads to. -/
def System.Reachable (M : System σ ι ο) (s : σ) : Prop := ∃ trace, Run M (fun _ _ => True) trace s

variable {M : System σ ι ο} {G : σ → ι → Prop} {trace : List (σ × ι × ο)} {s : σ}

/-- What holds at the start and is kept by every guarded step holds, with the trace, at the end of every run. -/
theorem Run.traceInvariant {P : List (σ × ι × ο) → σ → Prop} (hinit : ∀ s, M.init s → P [] s)
    (hstep : ∀ trace s i o s', P trace s → G s i → M.step s i o s' → P (trace ++ [(s, i, o)]) s')
    (h : Run M G trace s) : P trace s := by
  induction h with
  | start h => exact hinit _ h
  | next _ hg hs ih => exact hstep _ _ _ _ _ ih hg hs

theorem Run.invariant {P : σ → Prop} (hinit : ∀ s, M.init s → P s)
    (hstep : ∀ s i o s', P s → G s i → M.step s i o s' → P s') (h : Run M G trace s) : P s :=
  h.traceInvariant (P := fun _ => P) hinit fun _ => hstep

theorem Run.mono {G' : σ → ι → Prop} (hG : ∀ s i, G s i → G' s i) (h : Run M G trace s) : Run M G' trace s := by
  induction h with
  | start h => exact .start h
  | next _ hg hs ih => exact .next ih (hG _ _ hg) hs

theorem Run.reachable (h : Run M G trace s) : M.Reachable s := ⟨trace, h.mono fun _ _ _ => trivial⟩

theorem System.Reachable.invariant {P : σ → Prop} (hinit : ∀ s, M.init s → P s)
    (hstep : ∀ s i o s', P s → M.step s i o s' → P s') : M.Reachable s → P s
  | ⟨_, h⟩ => h.invariant hinit fun s i o s' hs _ => hstep s i o s' hs

/-- Execute `inputs` one after the other, as long as the guard holds and the execution does not fail. -/
def replay (exec : σ → ι → Option (ο × σ)) (guard : σ → ι → Bool) :
    List ι → List (σ × ι × ο) → σ → Option (List (σ × ι × ο) × σ)
  | [], trace, s => some (trace, s)
  | i :: inputs, trace, s =>
    if guard s i then
      (exec s i).bind fun next => replay exec guard inputs (trace ++ [(s, i, next.1)]) next.2
    else none

theorem Run.of_replay {exec : σ → ι → Option (ο × σ)} {guard : σ → ι → Bool}
    (hexec : ∀ s i o s', exec s i = some (o, s') → M.step s i o s') (hguard : ∀ s i, guard s i = true → G s i)
    {inputs : List ι} {result : List (σ × ι × ο) × σ} (hrun : Run M G trace s)
    (h : replay exec guard inputs trace s = some result) : Run M G result.1 result.2 := by
  induction inputs generalizing trace s with
  | nil =>
    obtain rfl : (trace, s) = result := Option.some.inj h
    exact hrun
  | cons i inputs ih =>
    unfold replay at h
    split at h
    · rename_i hg
      obtain ⟨⟨o, s'⟩, hs, h⟩ := Option.bind_eq_some_iff.1 h
      exact ih (.next hrun (hguard s i hg) (hexec s i o s' hs)) h
    · cases h

theorem exists_run_of_replay {exec : σ → ι → Option (ο × σ)} {guard : σ → ι → Bool}
    (hexec : ∀ s i o s', exec s i = some (o, s') → M.step s i o s') (hguard : ∀ s i, guard s i = true → G s i)
    (hinit : M.init s) {inputs : List ι} {test : List (σ × ι × ο) → σ → Bool}
    (h : (replay exec guard inputs [] s).any (fun result => test result.1 result.2) = true) :
    ∃ trace s', Run M G trace s' ∧ test trace s' = true := by
  obtain ⟨result, hresult, htest⟩ := (Option.any_eq_true _ _).1 h
  exact ⟨result.1, result.2, .of_replay hexec hguard (.start hinit) hresult, htest⟩

section Executable

variable {init : σ → Prop} {exec : σ → ι → Option σ}

/-- The system whose steps are executed and answer with nothing. -/
def System.ofExec (init : σ → Prop) (exec : σ → ι → Option σ) : System σ ι Unit where
  init := init
  step s i _ s' := exec s i = some s'

/-- Where `inputs` lead, as long as the guard holds and the execution does not fail. -/
def outcome (exec : σ → ι → Option σ) (guard : σ → ι → Bool) (inputs : List ι) (s : σ) : Option σ :=
  inputs.foldlM (fun s i => if guard s i then exec s i else none) s

theorem Run.of_outcome {guard : σ → ι → Bool} (hguard : ∀ s i, guard s i = true → G s i) {inputs : List ι} {s s' : σ}
    {trace : List (σ × ι × Unit)} (hrun : Run (.ofExec init exec) G trace s) (h : outcome exec guard inputs s = some s') :
    ∃ trace, Run (.ofExec init exec) G trace s' := by
  induction inputs generalizing trace s with
  | nil =>
    obtain rfl : s = s' := Option.some.inj h
    exact ⟨trace, hrun⟩
  | cons i inputs ih =>
    rw [outcome, List.foldlM_cons] at h
    obtain ⟨next, hnext, h⟩ := Option.bind_eq_some_iff.1 h
    obtain ⟨hg, hexec⟩ := Option.ite_none_right_eq_some.1 hnext
    exact ih (.next (o := ()) hrun (hguard s i hg) hexec) h

theorem exists_run (init : σ → Prop) (exec : σ → ι → Option σ) (start : σ) (hinit : init start) (guard : σ → ι → Bool)
    (hguard : ∀ s i, guard s i = true → G s i) (inputs : List ι) (P : σ → Prop) [DecidablePred P]
    (h : (outcome exec guard inputs start).any (fun s => decide (P s)) = true) :
    ∃ trace s, Run (.ofExec init exec) G trace s ∧ P s := by
  obtain ⟨s, hs, hP⟩ := (Option.any_eq_true _ _).1 h
  obtain ⟨trace, hrun⟩ := Run.of_outcome hguard (.start hinit) hs
  exact ⟨trace, s, hrun, of_decide_eq_true hP⟩

theorem exists_reachable (init : σ → Prop) (exec : σ → ι → Option σ) (start : σ) (hinit : init start) (inputs : List ι) (P : σ → Prop) [DecidablePred P]
    (h : (outcome exec (fun _ _ => true) inputs start).any (fun s => decide (P s)) = true) :
    ∃ s, (System.ofExec init exec).Reachable s ∧ P s := by
  obtain ⟨trace, s, hrun, hP⟩ := exists_run init exec start hinit (fun _ _ => true) (fun _ _ _ => trivial) inputs P h
  exact ⟨s, ⟨trace, hrun⟩, hP⟩

end Executable

end Runs
