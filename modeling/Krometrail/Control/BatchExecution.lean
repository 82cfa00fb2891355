import Krometrail.Control.BatchSteps

/-!
# The execution of a batch

`execute_batch` and what it uses.  What a batch meets outside is given: the readings of the session clock, and, for each
dispatch in turn, whether it is interrupted, when it settles and with what, and the state that it leaves the supervisor in.
The dispatches are kept in a log.

`unreachable!` fails here with an error; `execute_batch` never gets there.
-/

namespace Krometrail.Control

open Results

/-- `transport_session.is_some()` and a lifecycle that is not closed, failed or suspended. -/
def attached (target : SupervisorTargetState) : Bool :=
  target.transportSession.isSome && !(target.lifecycle.isTerminal || target.lifecycle = .suspended)

def selectedTarget (state : SupervisorState) : Option SupervisorTargetState :=
  (state.selectedTargetKey.bind (state.targetsByKey[·]?)).filter attached

/-- Target ids are unique in a table, so that the order in which it is searched does not matter. -/
def resolveSelection (state : SupervisorState) (selection : PageSelection) : Result SupervisorTargetState := do
  let found := match selection with
    | .selected => selectedTarget state
    | .target id => state.targetsByKey.values.find? (·.id = id)
  let target ← okOr found (((KrometrailError.new .notFound "selected browser page was not found").withRecovery
    "create a page with create_page, or select an existing page with select_page").withRetry .afterRecovery)
  refuse (!attached target) (.fromBrowserFailure .targetFailed "browser page is not currently attached")
  return target

/-- The page that a selection names, whether or not it is there. -/
def namedTarget (state : SupervisorState) : PageSelection → Option TargetId
  | .target targetId => some targetId
  | .selected => (state.selectedTargetKey.bind (state.targetsByKey[·]?)).map (·.id)

def selectionError (code : ErrorCode) (state : SupervisorState) (selection : PageSelection) (message : String) :
    KrometrailError :=
  match namedTarget state selection with
  | some _ => operationError code message
  | none =>
    let error := (KrometrailError.new code message).withRetry code.defaultRetry
    match code.defaultRecovery with
    | some recovery => error.withRecovery recovery
    | none => error

def checkReady (state : SupervisorState) (selection : PageSelection) : Result Unit :=
  match state.sessionState with
  | .ready => .ok ()
  | .reconnecting | .connecting =>
    .error (selectionError .browserDisconnected state selection "browser session is not ready for page observation")
  | .stopping | .ended => .error (selectionError .cancelled state selection "browser session is stopping or ended")

def bindTarget (state : SupervisorState) (selection : PageSelection) : Result BoundTarget := do
  checkReady state selection
  let target ← resolveSelection state selection
  refuse (target.lifecycle.isTerminal || target.lifecycle = .suspended || target.lifecycle = .discovered)
    (operationError .targetFailed "browser target is not currently attached")
  let _ ← okOr target.transportSession (operationError .targetFailed "browser target has no active flat session")
  return { targetId := target.id, attachmentGeneration := target.target.attachmentGeneration }

structure OperationCancellation where
  requestIsCancelled : Bool
  stopped : Bool
  disconnectedGeneration : Nat

def OperationCancellation.verdict (cancellation : OperationCancellation) (generation : Nat) : Option KrometrailError :=
  if cancellation.requestIsCancelled then
    some (operationError .cancelled "browser operation was cancelled by its caller")
  else if cancellation.stopped then
    some (operationError .cancelled "browser operation was cancelled by session shutdown")
  else if min (generation + 1) (2 ^ 64 - 1) ≤ cancellation.disconnectedGeneration then
    some (operationError .browserDisconnected "browser disconnected during a page operation")
  else none

inductive DispatchOutcome where
  | completed (result : Result BrowserOperationResult)
  | interrupted (error : KrometrailError)
  | timedOut

inductive Purpose where
  | child | screenshot | observation
  deriving DecidableEq

/-- A dispatch in the log; `late` when the deadline had been reached on its return. -/
structure Dispatched where
  purpose : Purpose
  request : BrowserOperationRequest
  outcome : DispatchOutcome
  late : Bool

/-- What one dispatch meets: the cancellation that it waits for, when it settles and what it has met by then, how often it
reads the session clock, how it leaves the supervisor, and when the batch resumes.  Instants are numbers of nanoseconds. -/
structure Meeting where
  cancellation : OperationCancellation
  settled : Nat
  performance : Performance
  readings : Nat
  state : SupervisorState
  resumed : Nat

/-- What a batch meets: its id, the session clock, the instants at which it starts and at which it has handled its steps,
and the dispatches in turn. -/
structure Surroundings where
  batchId : InteractionId
  clock : Nat → SessionTime
  began : Nat
  meeting : Nat → Meeting
  stepsDone : Nat

/-- The state of an execution: the readings of the clock so far, the log and the supervisor. -/
structure Execution where
  readings : Nat
  log : List Dispatched
  state : SupervisorState

/-- What stays the same while a batch is executed. -/
structure BatchContext where
  surroundings : Surroundings
  options : BatchOptions
  targetId : TargetId
  generation : Nat
  deadline : Nat

def batchTimeoutGrace : Nat := 500000000

/-- `execute_operation`: whatever it fails at, its own binding of the page or the result that it builds. -/
def executeOperation (state : SupervisorState) (request : BrowserOperationRequest) (p : Performance) :
    Result BrowserOperationResult := do
  match p.failure with
  | some error => .error error
  | none => do
    let bound ← bindTarget state request.page
    operationResult bound request.kind p

namespace BatchContext

variable (b : BatchContext)

/-- `session_time`, for a clock that does not fail. -/
def sessionTime (s : Execution) : SessionTime × Execution :=
  (b.surroundings.clock s.readings, { s with readings := s.readings + 1 })

/-- The three branches of `dispatch_bounded` are polled in this order. -/
def dispatchOutcome (state : SupervisorState) (request : BrowserOperationRequest) (meeting : Meeting) : DispatchOutcome :=
  match meeting.cancellation.verdict b.generation with
  | some error => .interrupted error
  | none =>
    if b.deadline + batchTimeoutGrace ≤ meeting.settled then .timedOut
    else .completed (executeOperation state request meeting.performance)

/-- `dispatch_bounded`, and whether the deadline has been reached on its return. -/
def dispatchBounded (purpose : Purpose) (request : BrowserOperationRequest) (s : Execution) : Dispatched × Execution :=
  let meeting := b.surroundings.meeting s.log.length
  let dispatched :=
    ⟨purpose, request, b.dispatchOutcome s.state request meeting, decide (b.deadline ≤ meeting.resumed)⟩
  (dispatched, ⟨s.readings + meeting.readings, s.log ++ [dispatched], meeting.state⟩)

end BatchContext

inductive BatchTermination where
  | cancelled | timedOut | targetUnavailable

namespace BatchTermination

def skipReason : BatchTermination → BatchSkipReason
  | cancelled => .batchCancelled
  | timedOut => .batchTimedOut
  | targetUnavailable => .targetUnavailable

def outcome : BatchTermination → BatchOutcome
  | cancelled => .cancelled
  | timedOut => .timedOut
  | targetUnavailable => .stoppedOnFailure

end BatchTermination

def waitTimeoutError : KrometrailError := operationError .waitTimedOut "wait condition was not satisfied before its deadline"

def PageOperationOutcome.failure : PageOperationOutcome → Option KrometrailError
  | succeeded _ => none
  | failed error => some error

def waitTimedOut : BrowserOperationResult → Bool
  | .wait (.timedOut _) => true
  | _ => false

def resultFailure : BrowserOperationResult → Option KrometrailError
  | .createPage value | .selectPage value | .activatePage value | .closePage value | .navigatePage value | .reloadPage value
  | .goBack value | .goForward value => value.outcome.failure
  | .setViewport operation => operation.outcome.failure
  | .wait (.timedOut _) => some waitTimeoutError
  | _ => none

def pageScreenshot (value : PageOperationResult) : ObservationPart EncodedScreenshot :=
  match value.observation with
  | .available observation => observation.screenshot
  | .unavailable error => .unavailable error

def existingScreenshot : BrowserOperationResult → Option (ObservationPart EncodedScreenshot)
  | .takeScreenshot value => some (.available value)
  | .createPage value | .selectPage value | .activatePage value | .closePage value | .navigatePage value | .reloadPage value
  | .goBack value | .goForward value => some (pageScreenshot value)
  | .setViewport operation => some (pageScreenshot operation)
  | .click value | .fill value | .pressKeys value | .selectOption value | .hover value | .drag value | .scroll value
  | .uploadFiles value | .handleDialog value => some value.observation.screenshot
  | _ => none

def errorTermination (error : KrometrailError) : Option BatchTermination :=
  match error.code with
  | .cancelled => some .cancelled
  | .browserDisconnected | .targetFailed => some .targetUnavailable
  | .waitTimedOut => some .timedOut
  | _ => none

def terminationError : BatchTermination → KrometrailError
  | .cancelled => operationError .cancelled "batch final observation was prevented by cancellation"
  | .timedOut => waitTimeoutError
  | .targetUnavailable =>
    operationError .targetFailed "batch final observation was prevented because the target is unavailable"

/-- The error of a step whose evidence could not be collected. -/
def evidenceError : BatchTermination → KrometrailError
  | .timedOut => waitTimeoutError
  | .cancelled => operationError .cancelled "batch was cancelled while collecting per-step evidence"
  | .targetUnavailable =>
    operationError .targetFailed "batch target became unavailable while collecting per-step evidence"

def finalObservationDegraded : ObservationPart LiveObservation → Bool
  | .unavailable _ => true
  | .available observation =>
    !observation.page.isAvailable || !observation.snapshot.isAvailable || !observation.screenshot.isAvailable

def childResolvesTo (state : SupervisorState) (request : BrowserOperationRequest) (targetId : TargetId) : Bool :=
  match request.scope with
  | .browser => false
  | .page selection =>
    match resolveSelection state selection with
    | .ok target => target.id = targetId
    | .error _ => false

def batchInternal : KrometrailError := operationError .internal "batch step index exceeds the supported range"

/-- `unreachable!`. -/
def unreachable {α : Type} (message : String) : Result α := .error (.new .internal message)

/-- What one turn of the loop leaves behind when it executes its step. -/
structure StepEnd where
  execution : Execution
  step : BatchStepResult
  termination : Option BatchTermination
  failed : Bool
  stopped : Bool

structure LoopState where
  execution : Execution
  steps : List BatchStepResult
  termination : Option BatchTermination
  failureSeen : Bool
  stoppedOnFailure : Bool

/-- What the dispatch of a child gives to its step. -/
def childVerdict (dispatched : Dispatched) :
    Option BrowserOperationResult × Option KrometrailError × Option BatchTermination :=
  match dispatched.outcome with
  | .completed (.ok result) =>
    let error := resultFailure result
    let terminal := if waitTimedOut result || dispatched.late then some .timedOut else error.bind errorTermination
    (some result, error, terminal)
  | .completed (.error error) | .interrupted error => (none, some error, errorTermination error)
  | .timedOut => (none, some waitTimeoutError, some .timedOut)

namespace BatchContext

variable (b : BatchContext)

def screenshotRequest : BrowserOperationRequest := ⟨.takeScreenshot, .target b.targetId, []⟩

def observationRequest : BrowserOperationRequest := ⟨.observeLive, .target b.targetId, []⟩

/-- The screenshot that is taken of a step without one, and the termination that it brings about. -/
def takeStepScreenshot (s : Execution) :
    Result (Option (ObservationPart EncodedScreenshot) × Option BatchTermination × Execution) :=
  let dispatch := b.dispatchBounded .screenshot b.screenshotRequest s
  match dispatch.1.outcome with
  | .completed (.ok (.takeScreenshot value)) => .ok (some (.available value), none, dispatch.2)
  | .completed (.ok _) => unreachable "screenshot dispatch result"
  | .completed (.error error) => .ok (some (.unavailable error), none, dispatch.2)
  | .interrupted error => .ok (some (.unavailable error), some ((errorTermination error).getD .cancelled), dispatch.2)
  | .timedOut => .ok (some (.unavailable waitTimeoutError), some .timedOut, dispatch.2)

/-- The screenshot of a step, and what it makes of the termination. -/
def stepScreenshot (result : Option BrowserOperationResult) (childTermination : Option BatchTermination) (s : Execution) :
    Result (Option (ObservationPart EncodedScreenshot) × Option BatchTermination × Execution) :=
  if b.options.includeStepScreenshots then
    match result.bind existingScreenshot, childTermination with
    | none, none => b.takeStepScreenshot s
    | existing, childTermination => .ok (existing, childTermination, s)
  else .ok (none, childTermination, s)

def stepIndex (index : Nat) : Result Nat := do
  refuse (2 ^ 32 ≤ index) batchInternal
  return index

/-- The turn for a child that no longer resolves to the page of the batch. -/
def unresolvedStep (s : Execution) (child : BrowserOperationRequest) (index : Nat) : Result StepEnd := do
  let (childStarted, s) := b.sessionTime s
  let error := operationError .targetFailed "batch step no longer resolves to the admitted target"
  let (completedAt, s) := b.sessionTime s
  let index ← stepIndex index
  let step ← BatchStepResult.new index child.kind b.targetId .failed (some childStarted) (some completedAt) none none
    (some error) none none
  return ⟨s, step, some .targetUnavailable, true, false⟩

/-- The anchor of a step's result. -/
def stepInteraction : Option BrowserOperationResult → Result (Option InteractionAnchor)
  | some result => resultAnchor result
  | none => .ok none

/-- The end of a turn whose child was dispatched, once the evidence has been collected. -/
def endStep (child : BrowserOperationRequest) (index : Nat) (childStarted : SessionTime)
    (result : Option BrowserOperationResult) (error : Option KrometrailError) (interaction : Option InteractionAnchor)
    (screenshot : Option (ObservationPart EncodedScreenshot)) (childTermination : Option BatchTermination) (s : Execution) :
    Result StepEnd := do
  let (completedAt, s) := b.sessionTime s
  let status := if error.isSome then BatchStepStatus.failed else .succeeded
  let stopped := status = .failed && b.options.failurePolicy = .stopOnFailure && childTermination.isNone
  -- collecting evidence uses the same budget: a child that succeeded fails where that ends the batch
  let error := error.or (childTermination.map evidenceError)
  let finalStatus := if error.isSome then .failed else status
  let index ← stepIndex index
  let step ← BatchStepResult.new index child.kind b.targetId finalStatus (some childStarted) (some completedAt) interaction
    result error none screenshot
  return ⟨s, step, childTermination, error.isSome, stopped⟩

/-- The turn for a child that is dispatched. -/
def dispatchedStep (s : Execution) (child : BrowserOperationRequest) (index : Nat) : Result StepEnd := do
  let (childStarted, s) := b.sessionTime s
  let dispatch := b.dispatchBounded .child child s
  let (result, error, childTermination) := childVerdict dispatch.1
  let interaction ← stepInteraction result
  let (screenshot, childTermination, s) ← b.stepScreenshot result childTermination dispatch.2
  b.endStep child index childStarted result error interaction screenshot childTermination s

def executeStep (s : Execution) (child : BrowserOperationRequest) (index : Nat) : Result StepEnd :=
  if childResolvesTo s.state child b.targetId then b.dispatchedStep s child index else b.unresolvedStep s child index

def skippedStep (index : Nat) (operation : BrowserOperationKind) (reason : BatchSkipReason) : Result BatchStepResult := do
  let index ← stepIndex index
  BatchStepResult.new index operation b.targetId .skipped none none none none none (some reason) none

def loopTurn (s : LoopState) (item : BrowserOperationRequest × Nat) : Result LoopState :=
  match s.termination with
  | some termination => do
    let step ← b.skippedStep item.2 item.1.kind termination.skipReason
    return { s with steps := s.steps ++ [step] }
  | none =>
    if s.stoppedOnFailure then do
      let step ← b.skippedStep item.2 item.1.kind .priorFailure
      return { s with steps := s.steps ++ [step] }
    else do
      let done ← b.executeStep s.execution item.1 item.2
      return ⟨done.execution, s.steps ++ [done.step], done.termination, s.failureSeen || done.failed, done.stopped⟩

/-- The observation that is dispatched at the end, and the termination that it brings about. -/
def takeObservation (s : Execution) : Result (ObservationPart LiveObservation × Option BatchTermination × Execution) :=
  let dispatch := b.dispatchBounded .observation b.observationRequest s
  match dispatch.1.outcome with
  | .completed (.ok (.observeLive value)) => .ok (.available value, none, dispatch.2)
  | .completed (.ok _) => unreachable "live observation dispatch result"
  | .completed (.error error) => .ok (.unavailable error, errorTermination error, dispatch.2)
  | .interrupted error => .ok (.unavailable error, some ((errorTermination error).getD .cancelled), dispatch.2)
  | .timedOut => .ok (.unavailable waitTimeoutError, some .timedOut, dispatch.2)

/-- The observation at the end, and what it makes of the termination. -/
def finalObservation (s : LoopState) : Result (ObservationPart LiveObservation × Option BatchTermination × Execution) :=
  match s.termination with
  | some reason => .ok (.unavailable (terminationError reason), some reason, s.execution)
  | none =>
    if b.deadline ≤ b.surroundings.stepsDone then .ok (.unavailable waitTimeoutError, some .timedOut, s.execution)
    else b.takeObservation s.execution

end BatchContext

def batchOutcome (termination : Option BatchTermination) (stoppedOnFailure failureSeen : Bool)
    (finalObservation : ObservationPart LiveObservation) : BatchOutcome :=
  match termination with
  | some termination => termination.outcome
  | none =>
    if stoppedOnFailure then .stoppedOnFailure
    else if failureSeen || finalObservationDegraded finalObservation then .completedWithFailures
    else .completed

/-- `execute_batch` in a state of the supervisor, and its log. -/
def executeBatch (surroundings : Surroundings) (parentDeadline : Option Nat) (state : SupervisorState) (request : BatchRequest) :
    Result (BatchResult × List Dispatched) := do
  let bound ← bindTarget state request.target
  let ownDeadline := surroundings.began + request.timeout
  let deadline := parentDeadline.elim ownDeadline (min · ownDeadline)
  let b : BatchContext := ⟨surroundings, request.options, bound.targetId, state.connectionGeneration, deadline⟩
  let (startedAt, execution) := b.sessionTime ⟨0, [], state⟩
  let s ← request.steps.zipIdx.foldlM b.loopTurn ⟨execution, [], none, false, false⟩
  let (finalObservation, termination, execution) ← b.finalObservation s
  let (completedAt, execution) := b.sessionTime execution
  let outcome := batchOutcome termination s.stoppedOnFailure s.failureSeen finalObservation
  let result ← BatchResult.new surroundings.batchId bound.targetId startedAt completedAt outcome s.steps finalObservation
  return (result, execution.log)

end Krometrail.Control
