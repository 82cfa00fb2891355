import Krometrail.Control.BatchExecution
import Krometrail.Lib.Halting

/-!
# Batches in order

A batch executes its steps one after the other, up to the first that ends it or fails where a failure stops it, and skips
the rest.  The loop is a pass that halts: what one executed step leaves in the log and in its entry (`Ran`) leads through
the pass.  With a session clock that does not go back the validating constructors refuse nothing that it builds.
-/

namespace Krometrail.Control

open Results Halting

/-! ### What ends a batch -/

namespace Dispatched

def error (d : Dispatched) : Option KrometrailError :=
  match d.outcome with
  | .completed (.ok result) => resultFailure result
  | .completed (.error error) | .interrupted error => some error
  | .timedOut => some waitTimeoutError

def result (d : Dispatched) : Option BrowserOperationResult :=
  match d.outcome with
  | .completed (.ok result) => some result
  | _ => none

/-- The dispatch of a child that failed. -/
def fails (d : Dispatched) : Bool := d.purpose = .child && d.error.isSome

/-- The dispatch ends the batch: a child that is interrupted or runs into the deadline, whose wait times out or which
reports that the batch was cancelled, that time ran out or that the page is lost; or a screenshot that is interrupted or
runs into the deadline. -/
def Ends (d : Dispatched) : Prop :=
  match d.purpose with
  | .child =>
    (∀ result, d.outcome ≠ .completed result) ∨ (∃ result ∈ d.result, waitTimedOut result ∨ d.late) ∨
      ∃ error ∈ d.error, error.code ∈ [.cancelled, .browserDisconnected, .targetFailed, .waitTimedOut]
  | .screenshot => ∀ result, d.outcome ≠ .completed result
  | .observation => False

/-- The termination that the dispatch brings about. -/
def termination (d : Dispatched) : Option BatchTermination :=
  match d.purpose with
  | .child => (childVerdict d).2.2
  | .screenshot =>
    match d.outcome with
    | .completed _ => none
    | .interrupted error => some ((errorTermination error).getD .cancelled)
    | .timedOut => some .timedOut
  | .observation => none

/-- An interruption is a cancellation or a lost connection. -/
def Sound (d : Dispatched) : Prop := ∀ error, d.outcome = .interrupted error → errorTermination error ≠ none

theorem childVerdict_eq (d : Dispatched) (h : d.purpose = .child) : childVerdict d = (d.result, d.error, d.termination) := by
  unfold termination
  simp only [h]
  unfold childVerdict result error
  rcases d.outcome with (error | result) | error | _ <;> rfl

theorem result_isSome (d : Dispatched) (h : d.error = none) : d.result.isSome = true := by
  unfold error at h
  unfold result
  split at h <;> simp_all

end Dispatched

theorem errorTermination_ne_none {error : KrometrailError} :
    ¬ errorTermination error = none ↔ error.code ∈ [.cancelled, .browserDisconnected, .targetFailed, .waitTimedOut] := by
  unfold errorTermination
  cases error.code <;> simp

theorem Dispatched.ends_iff {d : Dispatched} (h : d.Sound) : d.Ends ↔ d.termination ≠ none := by
  unfold Ends termination
  obtain ⟨purpose, request, outcome, late⟩ := d
  cases purpose with
  | observation => simp
  | screenshot => rcases outcome with result | error | _ <;> simp
  | child =>
    rcases outcome with (error | result) | error | _
    · simp [Dispatched.result, Dispatched.error, childVerdict, errorTermination_ne_none]
    · cases hwait : waitTimedOut result <;> cases late <;>
        simp [Dispatched.result, Dispatched.error, childVerdict, hwait, errorTermination_ne_none]
    · simpa [childVerdict] using h error rfl
    · simp [childVerdict]

/-- Why a batch skips the steps after those with this log. -/
def stopReason (policy : BatchFailurePolicy) (unresolved : Bool) (log : List Dispatched) : Option BatchSkipReason :=
  match log.findSome? Dispatched.termination with
  | some termination => some termination.skipReason
  | none =>
    if unresolved then some .targetUnavailable
    else if policy = .stopOnFailure ∧ log.any Dispatched.fails then some .priorFailure
    else none

/-- The children that were dispatched. -/
def children (log : List Dispatched) : List Dispatched := log.filter (·.purpose = .child)

/-- No child is dispatched after a dispatch that ends the batch, nor, where a failure stops it, after one that fails. -/
def NoChildAfterEnd (policy : BatchFailurePolicy) (log : List Dispatched) : Prop :=
  log.Pairwise fun earlier later => later.purpose = .child →
    ¬ earlier.Ends ∧ (policy = .stopOnFailure → earlier.fails = false)

/-- All parts of the observation are there. -/
def CompleteObservation : ObservationPart LiveObservation → Prop
  | .available observation =>
    observation.page.isAvailable = true ∧ observation.snapshot.isAvailable = true ∧ observation.screenshot.isAvailable = true
  | .unavailable _ => False

theorem completeObservation_iff {observation : ObservationPart LiveObservation} :
    CompleteObservation observation ↔ finalObservationDegraded observation = false := by
  cases observation <;> simp [CompleteObservation, finalObservationDegraded, and_assoc]

namespace BatchStepResult

/-- The entry of an executed step. -/
structure Executed (step : BatchStepResult) : Prop where
  times : ∃ started completed, step.startedAt = some started ∧ step.completedAt = some completed ∧ started ≤ completed
  anchored : ∀ anchor ∈ step.interaction, anchor.targetId = step.targetId ∧ anchor.operation = step.operation
  ofKind : ∀ result ∈ step.result, result.kind = step.operation
  reason : step.skipReason = none
  status : step.status = .succeeded ∧ step.result.isSome ∧ step.error = none ∨ step.status = .failed ∧ step.error.isSome

theorem Executed.check {step : BatchStepResult} (h : step.Executed) : step.check = .ok step := by
  obtain ⟨started, completed, hstarted, hcompleted, hle⟩ := h.times
  have htimes : ¬ ∃ started ∈ step.startedAt, ∃ completed ∈ step.completedAt, started > completed := by
    rintro ⟨started', h₁, completed', h₂, hlt⟩
    obtain rfl := Option.some.inj (hstarted.symm.trans h₁)
    obtain rfl := Option.some.inj (hcompleted.symm.trans h₂)
    exact absurd hlt (not_lt.2 hle)
  have hanchor : ¬ ∃ anchor ∈ step.interaction, anchor.targetId ≠ step.targetId ∨ anchor.operation ≠ step.operation := by
    rintro ⟨anchor, hanchor, hne | hne⟩
    · exact hne (h.anchored anchor hanchor).1
    · exact hne (h.anchored anchor hanchor).2
  have hkind : ¬ ∃ result ∈ step.result, result.kind ≠ step.operation := by
    rintro ⟨result, hresult, hne⟩
    exact hne (h.ofKind result hresult)
  simp only [BatchStepResult.check, refuse, if_neg htimes, if_neg hanchor, if_neg hkind, ok_bind]
  rcases h.status with ⟨hstatus, hresult, herror⟩ | ⟨hstatus, herror⟩
  · simp only [hstatus, hstarted, hcompleted, herror, h.reason, Option.isNone_iff_eq_none]
    simp only [reduceCtorEq, Option.ne_none_iff_isSome.2 hresult, Option.isSome_none, Bool.false_eq_true, or_self, if_false]
    rfl
  · simp only [hstatus, hstarted, hcompleted, h.reason, Option.isNone_iff_eq_none]
    simp only [reduceCtorEq, Option.ne_none_iff_isSome.2 herror, Option.isSome_none, Bool.false_eq_true, or_self, if_false]
    rfl

end BatchStepResult

variable {targetId : TargetId} {state : SupervisorState}

theorem batchResult_new {batchId : InteractionId} {startedAt completedAt : SessionTime} {outcome : BatchOutcome}
    {steps : List BatchStepResult} {observation : ObservationPart LiveObservation} (hle : startedAt ≤ completedAt)
    (hnil : steps ≠ []) (hcount : steps.length ≤ maxBatchSteps) (hindex : ∀ item ∈ steps.zipIdx, item.1.index = item.2)
    (htarget : ∀ step ∈ steps, step.targetId = targetId) (hstart : ∀ step ∈ steps, ∀ value ∈ step.startedAt, startedAt ≤ value)
    (hstop : ∀ step ∈ steps, ∀ value ∈ step.completedAt, value ≤ completedAt) :
    BatchResult.new batchId targetId startedAt completedAt outcome steps observation =
      .ok ⟨batchId, targetId, startedAt, completedAt, outcome, steps, observation⟩ := by
  have hentry : ∀ entry ∈ steps.zipIdx, checkBatchEntry targetId startedAt completedAt entry = .ok () := by
    intro entry hentry
    have hstep : entry.1 ∈ steps := List.fst_mem_of_mem_zipIdx hentry
    have htimes : ¬ ((∃ value ∈ entry.1.startedAt, value < startedAt) ∨ ∃ value ∈ entry.1.completedAt, value > completedAt) := by
      rintro (⟨value, hvalue, hlt⟩ | ⟨value, hvalue, hgt⟩)
      · exact absurd hlt (not_lt.2 (hstart _ hstep value hvalue))
      · exact absurd hgt (not_lt.2 (hstop _ hstep value hvalue))
    simp only [checkBatchEntry, refuse, hindex entry hentry, htarget _ hstep, ne_eq, not_true, if_false, if_neg htimes, ok_bind]
  have hempty : ¬ (steps.isEmpty ∨ steps.length > maxBatchSteps) := by
    rintro (h | h)
    · exact hnil (List.isEmpty_iff.1 h)
    · omega
  simp only [BatchResult.new, refuse, if_neg (not_lt.2 hle), if_neg hempty, ok_bind, forM_eq_ok.2 hentry]
  rfl

theorem bindTarget_eq_ok {selection : PageSelection} {bound : BoundTarget} (h : bindTarget state selection = .ok bound) :
    ∃ target, resolveSelection state selection = .ok target ∧ bound.targetId = target.id := by
  simp only [bindTarget, bind_eq_ok, pure_eq_ok] at h
  obtain ⟨-, -, target, htarget, -, -, -, -, rfl⟩ := h
  exact ⟨target, htarget, rfl⟩

theorem verdict_terminates {cancellation : OperationCancellation} {generation : Nat} {error : KrometrailError}
    (h : cancellation.verdict generation = some error) : errorTermination error ≠ none := by
  unfold OperationCancellation.verdict at h
  split_ifs at h <;> cases h <;> decide

theorem executeOperation_eq_ok {request : BrowserOperationRequest} {p : Performance} {result : BrowserOperationResult}
    (hkind : request.kind.batchable = true ∨ request.kind = .observeLive)
    (hresolves : ∀ target, resolveSelection state request.page = .ok target → target.id = targetId)
    (h : executeOperation state request p = .ok result) : result.BelongsTo targetId request.kind := by
  unfold executeOperation at h
  split at h
  · cases h
  · obtain ⟨bound, hbound, h⟩ := bind_eq_ok.1 h
    obtain ⟨target, htarget, hid⟩ := bindTarget_eq_ok hbound
    have hbelongs := operationResult_eq_ok hkind h
    rwa [hid, hresolves target htarget] at hbelongs

theorem id_of_resolveSelection (target : SupervisorTargetState) (h : resolveSelection state (.target targetId) = .ok target)
    : target.id = targetId := by
  simp only [resolveSelection, bind_eq_ok, okOr_eq_ok, pure_eq_ok] at h
  obtain ⟨found, hfound, -, -, rfl⟩ := h
  exact of_decide_eq_true (List.find?_some (p := fun target : SupervisorTargetState => decide (target.id = targetId)) hfound)

theorem id_of_childResolvesTo {request : BrowserOperationRequest} (h : childResolvesTo state request targetId = true)
    (target : SupervisorTargetState) (htarget : resolveSelection state request.page = .ok target) : target.id = targetId := by
  unfold childResolvesTo BrowserOperationRequest.scope at h
  split_ifs at h
  simpa [htarget] using h

namespace BatchContext

variable {b : BatchContext} {s : Execution} {purpose : Purpose} {request : BrowserOperationRequest}

theorem dispatchBounded_sound : (b.dispatchBounded purpose request s).1.Sound := by
  intro error herror
  simp only [dispatchBounded, dispatchOutcome] at herror
  split at herror
  · cases herror
    exact verdict_terminates ‹_›
  · split_ifs at herror

theorem dispatchBounded_readings (b : BatchContext) (purpose : Purpose) (request : BrowserOperationRequest) (s : Execution) :
    s.readings ≤ (b.dispatchBounded purpose request s).2.readings := Nat.le_add_right _ _

theorem dispatchBounded_result (purpose : Purpose) (result : BrowserOperationResult)
    (hkind : request.kind.batchable = true ∨ request.kind = .observeLive)
    (hresolves : ∀ target, resolveSelection s.state request.page = .ok target → target.id = b.targetId)
    (h : (b.dispatchBounded purpose request s).1.outcome = .completed (.ok result)) :
    result.BelongsTo b.targetId request.kind := by
  simp only [dispatchBounded, dispatchOutcome] at h
  split at h
  · cases h
  · split_ifs at h
    exact executeOperation_eq_ok hkind hresolves (DispatchOutcome.completed.inj h)

end BatchContext

/-! ### One step -/

/-- Why a batch halts: a termination, or a failure where a failure stops it. -/
inductive Halt where
  | terminated (termination : BatchTermination)
  | priorFailure

namespace Halt

def skipReason : Halt → BatchSkipReason
  | terminated termination => termination.skipReason
  | priorFailure => .priorFailure

def termination : Halt → Option BatchTermination
  | terminated termination => some termination
  | priorFailure => none

/-- The halt that the variables of the loop say. -/
def ofLoop (termination : Option BatchTermination) (stopped : Bool) : Option Halt :=
  match termination with
  | some termination => some (.terminated termination)
  | none => if stopped then some .priorFailure else none

end Halt

/-- The halt after a step with these dispatches. -/
def haltOf (policy : BatchFailurePolicy) (entries : List Dispatched) : Option Halt :=
  Halt.ofLoop (entries.findSome? Dispatched.termination) (policy = .stopOnFailure && entries.any Dispatched.fails)

/-- The dispatches for one step: none when its child no longer resolves to the page, else the child and perhaps a
screenshot. -/
inductive StepLog (policy : BatchFailurePolicy) (child : BrowserOperationRequest) :
    List Dispatched → BatchStepResult → Option Halt → Prop
  | unresolved {step : BatchStepResult} (hresult : step.result = none) :
      StepLog policy child [] step (some (.terminated .targetUnavailable))
  | dispatched {d : Dispatched} {tail : List Dispatched} {step : BatchStepResult} (hpurpose : d.purpose = .child)
      (hrequest : d.request = child) (hresult : step.result = d.result) (htail : ∀ e ∈ tail, e.purpose = .screenshot)
      (hsound : ∀ e ∈ d :: tail, e.Sound) : StepLog policy child (d :: tail) step (haltOf policy (d :: tail))

/-- The loop as a pass under way. -/
def LoopState.progress (s : LoopState) : Halting.Progress (Execution × Bool) Halt BatchStepResult :=
  ⟨(s.execution, s.failureSeen), Halt.ofLoop s.termination s.stoppedOnFailure, s.steps⟩

/-- What the execution of a step does, in states that consist of the execution and of whether a failure was seen. -/
structure Ran (b : BatchContext) (s : Execution × Bool) (item : BrowserOperationRequest × Nat) (s' : Execution × Bool)
    (step : BatchStepResult) (halted : Option Halt) : Prop where
  place : step.index = item.2 ∧ step.operation = item.1.kind ∧ step.targetId = b.targetId
  status : step.status ≠ .skipped
  failed : s'.2 = (s.2 || decide (step.status = .failed))
  halts : halted ≠ none → step.status = .failed
  times : ∃ m n, s.1.readings ≤ m ∧ m ≤ n ∧ n < s'.1.readings ∧ step.startedAt = some (b.surroundings.clock m) ∧
    step.completedAt = some (b.surroundings.clock n)
  log : ∃ entries, s'.1.log = s.1.log ++ entries ∧ StepLog b.options.failurePolicy item.1 entries step halted

namespace BatchContext

variable {b : BatchContext} {s : Execution} {child : BrowserOperationRequest} {index : Nat}

theorem takeStepScreenshot_eq (s : Execution) :
    ∃ screenshot, b.takeStepScreenshot s = .ok (screenshot, (b.dispatchBounded .screenshot b.screenshotRequest s).1.termination,
      (b.dispatchBounded .screenshot b.screenshotRequest s).2) := by
  have hresult : ∀ result, (b.dispatchBounded .screenshot b.screenshotRequest s).1.outcome = .completed (.ok result) →
      result.BelongsTo b.targetId .takeScreenshot := fun result =>
    dispatchBounded_result .screenshot result (.inl rfl) id_of_resolveSelection
  have hpurpose : (b.dispatchBounded .screenshot b.screenshotRequest s).1.purpose = .screenshot := rfl
  unfold takeStepScreenshot
  simp only [Dispatched.termination, hpurpose]
  revert hresult
  generalize (b.dispatchBounded .screenshot b.screenshotRequest s).1.outcome = outcome
  intro hresult
  rcases outcome with (error | result) | error | _
  · exact ⟨_, rfl⟩
  · obtain ⟨hkind, -⟩ := hresult result rfl
    cases result with
    | takeScreenshot value => exact ⟨_, rfl⟩
    | _ => cases hkind
  · exact ⟨_, rfl⟩
  · exact ⟨_, rfl⟩

theorem stepScreenshot_eq (result : Option BrowserOperationResult) (termination : Option BatchTermination) (s : Execution) :
    ∃ screenshot s' tail, b.stepScreenshot result termination s =
        .ok (screenshot, termination.or (tail.findSome? Dispatched.termination), s') ∧
      s'.log = s.log ++ tail ∧ s.readings ≤ s'.readings ∧ ∀ e ∈ tail, e.purpose = .screenshot ∧ e.Sound := by
  have hkept : ∀ screenshot : Option (ObservationPart EncodedScreenshot), ∃ screenshot' s' tail, (.ok (screenshot, termination, s) : Result _) =
        .ok (screenshot', termination.or (tail.findSome? Dispatched.termination), s') ∧
      s'.log = s.log ++ tail ∧ s.readings ≤ s'.readings ∧ ∀ e ∈ tail, e.purpose = .screenshot ∧ e.Sound := by
    intro screenshot
    refine ⟨screenshot, s, [], ?_, ?_, le_rfl, fun _ he => absurd he List.not_mem_nil⟩
    · simp only [List.findSome?_nil, Option.or_none]
    · simp only [List.append_nil]
  unfold stepScreenshot
  split
  · cases result.bind existingScreenshot with
    | some existing => exact hkept _
    | none =>
      cases termination with
      | some termination => exact hkept _
      | none =>
        obtain ⟨screenshot, htaken⟩ := takeStepScreenshot_eq (b := b) s
        refine ⟨screenshot, (b.dispatchBounded .screenshot b.screenshotRequest s).2,
          [(b.dispatchBounded .screenshot b.screenshotRequest s).1], ?_, rfl, b.dispatchBounded_readings _ _ _, ?_⟩
        · rw [List.findSome?_singleton, Option.none_or]
          exact htaken
        · intro e he
          obtain rfl := List.mem_singleton.1 he
          exact ⟨rfl, dispatchBounded_sound⟩
  · exact hkept _

/-- The turn of the loop as a performance of a pass. -/
def perform (b : BatchContext) (s : Execution × Bool) (item : BrowserOperationRequest × Nat) :
    Result ((Execution × Bool) × BatchStepResult × Option Halt) := do
  let done ← b.executeStep s.1 item.1 item.2
  return ((done.execution, s.2 || done.failed), done.step, Halt.ofLoop done.termination done.stopped)

theorem stepIndex_eq (h : index < 2 ^ 32) : stepIndex index = .ok index := by
  simp only [stepIndex, refuse, if_neg (not_le.2 h)]
  rfl

theorem unresolvedStep_ran (hclock : Monotone b.surroundings.clock) (hindex : index < 2 ^ 32) (seen : Bool) :
    ∃ done, b.unresolvedStep s child index = .ok done ∧
      Ran b (s, seen) (child, index) (done.execution, seen || done.failed) done.step (Halt.ofLoop done.termination done.stopped) := by
  have hle := hclock (Nat.le_succ s.readings)
  simp only [unresolvedStep, sessionTime, stepIndex_eq hindex, ok_bind]
  generalize operationError .targetFailed "batch step no longer resolves to the admitted target" = error
  rw [BatchStepResult.new, BatchStepResult.Executed.check ⟨⟨_, _, rfl, rfl, hle⟩, fun _ h => absurd h (Option.not_mem_none _),
    fun _ h => absurd h (Option.not_mem_none _), rfl, .inr ⟨rfl, rfl⟩⟩]
  refine ⟨_, rfl, ⟨rfl, rfl, rfl⟩, nofun, rfl, fun _ => rfl, ?_, [], (List.append_nil _).symm, .unresolved rfl⟩
  exact ⟨s.readings, s.readings + 1, le_rfl, Nat.le_succ _, Nat.lt_succ_self _, rfl, rfl⟩

theorem endStep_ran {d : Dispatched} {tail : List Dispatched} {interaction : Option InteractionAnchor} {start : SessionTime}
    {p : Execution × Bool} (screenshot : Option (ObservationPart EncodedScreenshot))
    (hclock : Monotone b.surroundings.clock) (hindex : index < 2 ^ 32)
    (hpurpose : d.purpose = .child) (hrequest : d.request = child)
    (hresult : ∀ result ∈ d.result, result.kind = child.kind)
    (hanchored : ∀ anchor ∈ interaction, anchor.targetId = b.targetId ∧ anchor.operation = child.kind)
    (hstart : start = b.surroundings.clock p.1.readings) (hreadings : p.1.readings ≤ s.readings)
    (hlog : s.log = p.1.log ++ d :: tail) (htail : ∀ e ∈ tail, e.purpose = .screenshot) (hsound : ∀ e ∈ d :: tail, e.Sound) :
    ∃ done, b.endStep child index start d.result d.error interaction screenshot
        (d.termination.or (tail.findSome? Dispatched.termination)) s = .ok done ∧
      Ran b p (child, index) (done.execution, p.2 || done.failed) done.step (Halt.ofLoop done.termination done.stopped) := by
  have htermination : d.termination.or (tail.findSome? Dispatched.termination) =
      (d :: tail).findSome? Dispatched.termination := by
    rw [List.findSome?_cons]
    cases d.termination <;> rfl
  have hfails : (d :: tail).any Dispatched.fails = d.error.isSome := by
    have hquiet : tail.any Dispatched.fails = false := by
      refine List.any_eq_false.2 fun e he => ?_
      simp [Dispatched.fails, htail e he]
    simp [Dispatched.fails, hpurpose, hquiet]
  have hhalt : ∀ termination : Option BatchTermination,
      Halt.ofLoop termination (decide ((if d.error.isSome then BatchStepStatus.failed else .succeeded) = .failed) &&
        decide (b.options.failurePolicy = .stopOnFailure) && termination.isNone) =
      Halt.ofLoop termination (decide (b.options.failurePolicy = .stopOnFailure) && d.error.isSome) := by
    rintro (_ | termination)
    · cases d.error.isSome <;> simp
    · rfl
  have hentries : ∀ step : BatchStepResult, step.result = d.result → ∃ entries, s.log = p.1.log ++ entries ∧
      StepLog b.options.failurePolicy child entries step (haltOf b.options.failurePolicy (d :: tail)) := fun step hstep =>
    ⟨d :: tail, hlog, .dispatched hpurpose hrequest hstep htail hsound⟩
  rw [htermination]
  rw [haltOf, hfails] at hentries
  revert hentries
  generalize (d :: tail).findSome? Dispatched.termination = termination
  intro hentries
  have hsucceeds : (d.error.or (termination.map evidenceError)).isSome = false → d.error = none ∧ termination = none := by
    cases d.error <;> cases termination <;> simp
  simp only [endStep, sessionTime, stepIndex_eq hindex, ok_bind]
  generalize herror : d.error.or (termination.map evidenceError) = error at hsucceeds ⊢
  have hstatus : (if error.isSome then BatchStepStatus.failed
      else if d.error.isSome then .failed else .succeeded) = if error.isSome then .failed else .succeeded := by
    split_ifs with h hfailed
    · rfl
    · rw [(hsucceeds (Bool.eq_false_of_not_eq_true h)).1] at hfailed
      cases hfailed
    · rfl
  rw [hstatus, BatchStepResult.new, BatchStepResult.Executed.check]
  · refine ⟨_, rfl, ⟨rfl, rfl, rfl⟩, ?_, ?_, ?_, ⟨p.1.readings, s.readings, le_rfl, hreadings, Nat.lt_succ_self _, ?_, rfl⟩, ?_⟩
    · dsimp only
      split_ifs <;> decide
    · dsimp only
      cases error.isSome <;> simp
    · dsimp only
      rw [hhalt]
      intro hhalted
      rw [if_pos]
      by_contra hnone
      obtain ⟨hnone, rfl⟩ := hsucceeds (Bool.eq_false_of_not_eq_true hnone)
      simp [Halt.ofLoop, hnone] at hhalted
    · exact congrArg some hstart
    · dsimp only
      rw [hhalt]
      exact hentries _ rfl
  · refine ⟨⟨_, _, rfl, rfl, hstart ▸ hclock hreadings⟩, hanchored, hresult, rfl, ?_⟩
    dsimp only
    split_ifs with h
    · exact .inr ⟨rfl, h⟩
    · have herror := Bool.eq_false_of_not_eq_true h
      exact .inl ⟨rfl, d.result_isSome (hsucceeds herror).1, Option.isSome_eq_false_iff.1 herror |> Option.isNone_iff_eq_none.1⟩

theorem stepInteraction_eq {d : Dispatched}
    (h : ∀ result, d.outcome = .completed (.ok result) → result.BelongsTo b.targetId child.kind) :
    ∃ interaction, stepInteraction d.result = .ok interaction ∧
      (∀ anchor ∈ interaction, anchor.targetId = b.targetId ∧ anchor.operation = child.kind) ∧
      ∀ result ∈ d.result, result.kind = child.kind := by
  have hnone : ∃ interaction, (.ok none : Result (Option InteractionAnchor)) = .ok interaction ∧
      (∀ anchor ∈ interaction, anchor.targetId = b.targetId ∧ anchor.operation = child.kind) ∧
      ∀ result ∈ (none : Option BrowserOperationResult), result.kind = child.kind :=
    ⟨none, rfl, fun _ h => absurd h (Option.not_mem_none _), fun _ h => absurd h (Option.not_mem_none _)⟩
  obtain ⟨purpose, request, outcome, late⟩ := d
  rcases outcome with (error | result) | error | _
  · exact hnone
  · obtain ⟨hkind, interaction, hinteraction, hanchored⟩ := h result rfl
    exact ⟨interaction, hinteraction, hanchored, fun _ h => Option.some.inj h ▸ hkind⟩
  · exact hnone
  · exact hnone

theorem dispatchedStep_ran (hclock : Monotone b.surroundings.clock) (hindex : index < 2 ^ 32)
    (hkind : child.kind.batchable = true) (hresolves : childResolvesTo s.state child b.targetId = true) (seen : Bool) :
    ∃ done, b.dispatchedStep s child index = .ok done ∧
      Ran b (s, seen) (child, index) (done.execution, seen || done.failed) done.step (Halt.ofLoop done.termination done.stopped) := by
  let s₁ : Execution := { s with readings := s.readings + 1 }
  have hreadings := b.dispatchBounded_readings .child child s₁
  obtain ⟨interaction, hinteraction, hanchored, hresult⟩ := stepInteraction_eq fun result =>
    dispatchBounded_result (s := s₁) .child result (.inl hkind) (id_of_childResolvesTo hresolves)
  obtain ⟨screenshot, s₃, tail, hscreenshot, htaillog, htailreadings, htail⟩ :=
    stepScreenshot_eq (b := b) (b.dispatchBounded .child child s₁).1.result (b.dispatchBounded .child child s₁).1.termination
      (b.dispatchBounded .child child s₁).2
  obtain ⟨done, hdone, hran⟩ := endStep_ran (s := s₃) (p := (s, seen)) screenshot hclock hindex rfl rfl hresult hanchored rfl
    ((Nat.le_succ _).trans (hreadings.trans htailreadings)) (htaillog.trans (List.append_assoc _ _ _)) (fun e he => (htail e he).1)
    (List.forall_mem_cons.2 ⟨dispatchBounded_sound, fun e he => (htail e he).2⟩)
  refine ⟨done, ?_, hran⟩
  simp only [dispatchedStep, sessionTime]
  rw [Dispatched.childVerdict_eq _ rfl]
  simp only [s₁] at hinteraction hscreenshot hdone
  simp only [hinteraction, hscreenshot, ok_bind]
  exact hdone

theorem perform_ran {s : Execution × Bool} {item : BrowserOperationRequest × Nat} (hclock : Monotone b.surroundings.clock)
    (hindex : item.2 < 2 ^ 32) (hkind : item.1.kind.batchable = true) :
    ∃ s' step halted, b.perform s item = .ok (s', step, halted) ∧ Ran b s item s' step halted := by
  have hturn : ∃ done, b.executeStep s.1 item.1 item.2 = .ok done ∧
      Ran b s item (done.execution, s.2 || done.failed) done.step (Halt.ofLoop done.termination done.stopped) := by
    unfold executeStep
    split
    · exact dispatchedStep_ran hclock hindex hkind ‹_› s.2
    · exact unresolvedStep_ran hclock hindex s.2
  obtain ⟨done, hdone, hran⟩ := hturn
  refine ⟨_, _, _, ?_, hran⟩
  rw [perform, hdone]
  rfl

def skippedEntry (b : BatchContext) (halt : Halt) (item : BrowserOperationRequest × Nat) : BatchStepResult :=
  ⟨item.2, item.1.kind, b.targetId, .skipped, none, none, none, none, none, some halt.skipReason, none⟩

theorem skippedStep_eq {item : BrowserOperationRequest × Nat} (halt : Halt) (hindex : item.2 < 2 ^ 32) :
    b.skippedStep item.2 item.1.kind halt.skipReason = .ok (b.skippedEntry halt item) := by
  rw [skippedStep, stepIndex_eq hindex, ok_bind, BatchStepResult.new, BatchStepResult.check]
  simp only [refuse, Option.not_mem_none, false_and, exists_false, if_false, ok_bind]
  rfl

theorem loopTurn_progress (b : BatchContext) (s : LoopState) (item : BrowserOperationRequest × Nat) :
    (b.loopTurn s item).map LoopState.progress =
      advance b.perform (fun halt item => b.skippedStep item.2 item.1.kind halt.skipReason) s.progress item := by
  obtain ⟨execution, steps, termination, failureSeen, stopped⟩ := s
  cases termination with
  | some termination =>
    simp only [loopTurn, advance, LoopState.progress, Halt.ofLoop, Halt.skipReason]
    cases b.skippedStep item.2 item.1.kind termination.skipReason <;> rfl
  | none =>
    cases stopped with
    | true =>
      simp only [loopTurn, advance, LoopState.progress, Halt.ofLoop, Halt.skipReason, if_true]
      cases b.skippedStep item.2 item.1.kind .priorFailure <;> rfl
    | false =>
      simp only [loopTurn, advance, LoopState.progress, Halt.ofLoop, Bool.false_eq_true, if_false, perform]
      cases b.executeStep execution item.1 item.2 <;> rfl

end BatchContext

end Krometrail.Control
