import Krometrail.Capture.HandOff

/-!
# The accounts over whole runs

The channel's send and its accounting are two steps of the reader, so the worker may receive, begin with and persist a
frame before it is counted.  Runs in which no step outruns the accounting keep the counters, and every status can be
built.
-/

namespace Krometrail

open Runs (Run)

namespace StreamRuntime

variable {F : Type*} {s s' : StreamRuntime F}

theorem Sound.step {input : Input F} (h : s.Sound) (hg : s.orderly input = true) (hs : s.exec input = some s') :
    s'.Sound := by
  unfold exec at hs
  rw [if_neg (by simp [h.healthy.running])] at hs
  cases input with
  | frame outcome =>
    dsimp only at hs
    split at hs
    case isFalse => cases hs
    rename_i hidle
    cases hs
    exact h.frame (List.isEmpty_iff.1 (Bool.and_eq_true_iff.1 hidle).2)
  | readerStep =>
    cases hr : s.reader with
    | nil => simp [hr] at hs
    | cons op rest =>
      simp only [hr, Option.some.injEq] at hs
      have hop : op.orderly s = true := by simpa [orderly, hr] using hg
      exact hs ▸ h.readerStep hr hop
  | workerStep =>
    cases hw : s.worker with
    | nil => simp [hw] at hs
    | cons op rest =>
      simp only [hw, Option.some.injEq] at hs
      have hop : op.orderly s = true := by simpa [orderly, hw] using hg
      exact hs ▸ h.workerStep hw hop
  | receive =>
    cases hqueue : s.queue with
    | nil => simp [hqueue] at hs
    | cons frame queue =>
      simp only [hqueue, Bool.and_eq_true] at hs
      split at hs
      case isFalse => cases hs
      rename_i hidle
      cases hs
      exact h.receive hqueue (List.isEmpty_iff.1 hidle.1.1.2) (Option.isNone_iff_eq_none.1 hidle.1.2)
  | drained finalGapFails =>
    simp only [Bool.and_eq_true] at hs
    split at hs
    case isFalse => cases hs
    rename_i hidle
    cases hs
    exact h.startWorker (List.isEmpty_iff.1 hidle.1.1.1.1.2) (turn_finish _) (persists_finish _)
  | process outcome =>
    simp only [Bool.and_eq_true] at hs
    split at hs
    case isFalse => cases hs
    rename_i hidle
    cases hs
    exact h.process (List.isEmpty_iff.1 hidle.1) hidle.2
  | budget outcome =>
    simp only [Bool.and_eq_true] at hs
    split at hs
    case isFalse => cases hs
    rename_i hidle
    cases hs
    exact h.startWorker (List.isEmpty_iff.1 hidle.1) (turn_budget _) (persists_budget _)
  | transition t =>
    dsimp only at hs
    split at hs
    case isFalse => cases hs
    rename_i hexternal
    cases hs
    obtain ⟨r, a, b, hharmless, -, hperform⟩ := h.perform_common (.transition t) rfl hg
      (fun t' ht => by cases ht; cases t <;> first | rfl | nomatch hexternal)
      (fun ht => by cases ht; nomatch hexternal)
    have heq := congrArg Prod.fst (hperform s.reader s.worker)
    exact heq ▸ h.common hharmless rfl h.scripted (h.healthy.reader.imp_left hharmless.failure)
      (h.healthy.worker.imp_left hharmless.failure)
  | declareGap =>
    cases hs
    obtain ⟨r, a, b, hharmless, -, hperform⟩ := h.perform_common .declareGap rfl rfl nofun nofun
    have heq := congrArg Prod.fst (hperform s.reader s.worker)
    exact heq ▸ h.common hharmless rfl h.scripted (h.healthy.reader.imp_left hharmless.failure)
      (h.healthy.worker.imp_left hharmless.failure)
  | status =>
    have hmatch : s.runtime.state = .failed ↔ s.runtime.failure.isSome = true := by
      refine ⟨h.healthy.failed, fun hsome => ?_⟩
      rcases Bool.or_eq_true_iff.1 hg with hnone | hfailed
      · simp [Option.isNone_iff_eq_none.1 hnone] at hsome
      · exact of_decide_eq_true hfailed
    obtain ⟨status, hstatus⟩ := statusFromState_isOk h.healthy.generation h.healthy.capacity h.tally.depth_le
      h.healthy.notStopped hmatch h.lastFrame
    rw [hstatus] at hs
    cases hs
    exact h

variable {trace : List (StreamRuntime F × Input F × Unit)}

/-- In every run in which no step outruns the accounting, the counters satisfy what the status checks, no status is
refused, and at rest they agree with the queue. -/
theorem handOff_accounted (h : Run (pipeline F) (fun s input => s.orderly input = true) trace s) : s.Accounted := by
  refine Sound.accounted (h.invariant (P := Sound) ?_ ?_)
  · rintro s ⟨target, queueCapacity, hgeneration, hcapacity, hmax, rfl⟩
    exact .new hgeneration hcapacity hmax
  · intro s input o s' hsound hg hs
    exact hsound.step hg hs

/-- The steps of a run on fixed frames. -/
def execute (s : StreamRuntime Nat) (input : Input Nat) : Option (Unit × StreamRuntime Nat) := (s.exec input).map ((), ·)

/-- The target of the runs on fixed frames. -/
def sampleTarget : CaptureTarget := { targetId := ⟨someUuid 7⟩, attachmentGeneration := 1 }

theorem exists_pipelineRun (guard : StreamRuntime Nat → Input Nat → Bool) (inputs : List (Input Nat))
    (test : StreamRuntime Nat → Bool)
    (h : (Runs.replay execute guard inputs [] (new sampleTarget 1)).any (fun result => test result.2) = true) :
    ∃ trace s, Run (pipeline Nat) (fun s input => guard s input = true) trace s ∧ test s = true := by
  have hexec : ∀ s input o s', execute s input = some (o, s') → (pipeline Nat).step s input o s' := by
    intro s input o s' h
    obtain ⟨next, hnext, h⟩ := Option.map_eq_some_iff.1 h
    cases h
    exact hnext
  obtain ⟨result, hresult, htest⟩ := (Option.any_eq_true _ _).1 h
  exact ⟨result.1, result.2,
    .of_replay hexec (fun _ _ h => h) (.start ⟨sampleTarget, 1, nofun, nofun, by decide, rfl⟩) hresult, htest⟩

/-- A frame is sent, counted, received and persisted, while the status is read. -/
theorem handOff_accounted_frame : ∃ trace s,
    Run (pipeline Nat) (fun s input => s.orderly input = true) trace s ∧
      (s.runtime.statistics.persistedFrames = 1 ∧ s.queue = []) ∧ s.Accounted := by
  obtain ⟨trace, s, hrun, htest⟩ := exists_pipelineRun orderly
    (List.flatten [[.transition .startedVisible, .frame (.captured ⟨5⟩ 1)], List.replicate 5 .readerStep,
      [.status, .receive, .workerStep, .status, .process .appended, .workerStep, .workerStep, .status]])
    (fun s => decide (s.runtime.statistics.persistedFrames = 1 ∧ s.queue = [])) (by decide +kernel)
  exact ⟨trace, s, hrun, of_decide_eq_true htest, handOff_accounted hrun⟩

/-- The worker receives, begins with and persists a sent frame before the reader counts it: more frames are persisted
than accepted, and the worker panics. -/
theorem persisted_before_accounted :
    ¬∀ trace s, Run (pipeline Nat) (fun _ _ => True) trace s → s.Accounted := by
  intro hall
  obtain ⟨trace, s, hrun, htest⟩ := exists_pipelineRun (fun _ _ => true)
    (List.flatten [[.transition .startedVisible, .frame (.captured ⟨5⟩ 1)], List.replicate 4 .readerStep,
      [.receive, .workerStep, .process .appended, .workerStep]])
    (fun s => s.panicked) (by decide +kernel)
  cases (hall trace s (hrun.mono fun _ _ _ => trivial)).status.symm.trans htest

end StreamRuntime

end Krometrail
