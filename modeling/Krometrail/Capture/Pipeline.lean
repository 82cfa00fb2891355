import Krometrail.Core.Error
import Krometrail.Core.Values
import Krometrail.Lib.Runs

/-!
# Capture status

The counters of one capture stream, the states it goes through, and the status that is built of them; the constructors
check what the counters and the status promise.
-/

namespace Krometrail

structure CaptureStatistics where
  receivedFrames : Nat
  acknowledgedFrames : Nat
  acceptedFrames : Nat
  droppedFrames : Nat
  persistedFrames : Nat
  gapCount : Nat

namespace CaptureStatistics

def default : CaptureStatistics :=
  { receivedFrames := 0, acknowledgedFrames := 0, acceptedFrames := 0, droppedFrames := 0, persistedFrames := 0
    gapCount := 0 }

def validate (self : CaptureStatistics) : Result CaptureStatistics :=
  if self.acknowledgedFrames > self.receivedFrames then
    .error (invalid "acknowledged frames exceed received frames")
  else match checkedAdd self.acceptedFrames self.droppedFrames with
    | none => .error (invalid "capture frame statistics overflow")
    | some accounted =>
      if accounted > self.acknowledgedFrames then
        .error (invalid "accepted and dropped frames exceed acknowledged frames")
      else if self.persistedFrames > self.acceptedFrames then
        .error (invalid "persisted frames exceed accepted frames")
      else .ok self

def recordReceived (self : CaptureStatistics) : Result CaptureStatistics :=
  { self with receivedFrames := saturatingAdd self.receivedFrames 1 }.validate

def recordAcknowledged (self : CaptureStatistics) : Result CaptureStatistics :=
  { self with acknowledgedFrames := saturatingAdd self.acknowledgedFrames 1 }.validate

def recordAccepted (self : CaptureStatistics) : Result CaptureStatistics :=
  { self with acceptedFrames := saturatingAdd self.acceptedFrames 1 }.validate

def recordDropped (self : CaptureStatistics) : Result CaptureStatistics :=
  { self with droppedFrames := saturatingAdd self.droppedFrames 1 }.validate

def recordPersisted (self : CaptureStatistics) : Result CaptureStatistics :=
  { self with persistedFrames := saturatingAdd self.persistedFrames 1 }.validate

def recordGap (self : CaptureStatistics) : Result CaptureStatistics :=
  { self with gapCount := saturatingAdd self.gapCount 1 }.validate

/-- What `validate` checks; the counters are 64-bit numbers. -/
structure Valid (statistics : CaptureStatistics) : Prop where
  received : statistics.receivedFrames ≤ u64Max
  acknowledged : statistics.acknowledgedFrames ≤ statistics.receivedFrames
  accounted : statistics.acceptedFrames + statistics.droppedFrames ≤ statistics.acknowledgedFrames
  persisted : statistics.persistedFrames ≤ statistics.acceptedFrames

variable {self : CaptureStatistics}

theorem validate_of_valid (h : self.Valid) : self.validate = .ok self := by
  have hreceived := h.received
  have hacknowledged := h.acknowledged
  have haccounted := h.accounted
  have hpersisted := h.persisted
  have hadd : checkedAdd self.acceptedFrames self.droppedFrames = some (self.acceptedFrames + self.droppedFrames) :=
    checkedAdd_eq_some.2 ⟨by omega, rfl⟩
  rw [validate, if_neg (by omega), hadd]
  dsimp only
  rw [if_neg (by omega), if_neg (by omega)]

theorem saturatingAdd_one {a : Nat} (h : a < u64Max) : saturatingAdd a 1 = a + 1 := by
  unfold saturatingAdd
  omega

theorem Valid.recordGap (h : self.Valid) :
    self.recordGap = .ok { self with gapCount := saturatingAdd self.gapCount 1 } :=
  validate_of_valid ⟨h.received, h.acknowledged, h.accounted, h.persisted⟩

theorem Valid.recordReceived (h : self.Valid) (hlt : self.receivedFrames < u64Max) :
    self.recordReceived = .ok { self with receivedFrames := self.receivedFrames + 1 } := by
  rw [CaptureStatistics.recordReceived, saturatingAdd_one hlt]
  exact validate_of_valid ⟨hlt, Nat.le_succ_of_le h.acknowledged, h.accounted, h.persisted⟩

theorem Valid.recordAcknowledged (h : self.Valid) (hlt : self.acknowledgedFrames < self.receivedFrames) :
    self.recordAcknowledged = .ok { self with acknowledgedFrames := self.acknowledgedFrames + 1 } := by
  have hreceived := h.received
  rw [CaptureStatistics.recordAcknowledged, saturatingAdd_one (by omega)]
  exact validate_of_valid ⟨h.received, hlt, Nat.le_succ_of_le h.accounted, h.persisted⟩

theorem Valid.recordAccepted (h : self.Valid)
    (hlt : self.acceptedFrames + self.droppedFrames < self.acknowledgedFrames) :
    self.recordAccepted = .ok { self with acceptedFrames := self.acceptedFrames + 1 } := by
  have hreceived := h.received
  have hacknowledged := h.acknowledged
  rw [CaptureStatistics.recordAccepted, saturatingAdd_one (by omega)]
  exact validate_of_valid ⟨h.received, h.acknowledged, by dsimp only; omega, Nat.le_succ_of_le h.persisted⟩

theorem Valid.recordDropped (h : self.Valid)
    (hlt : self.acceptedFrames + self.droppedFrames < self.acknowledgedFrames) :
    self.recordDropped = .ok { self with droppedFrames := self.droppedFrames + 1 } := by
  have hreceived := h.received
  have hacknowledged := h.acknowledged
  rw [CaptureStatistics.recordDropped, saturatingAdd_one (by omega)]
  exact validate_of_valid ⟨h.received, h.acknowledged, by dsimp only; omega, h.persisted⟩

theorem Valid.recordPersisted (h : self.Valid) (hlt : self.persistedFrames < self.acceptedFrames) :
    self.recordPersisted = .ok { self with persistedFrames := self.persistedFrames + 1 } := by
  have hreceived := h.received
  have hacknowledged := h.acknowledged
  have haccounted := h.accounted
  rw [CaptureStatistics.recordPersisted, saturatingAdd_one (by omega)]
  exact validate_of_valid ⟨h.received, h.acknowledged, h.accounted, hlt⟩

end CaptureStatistics

inductive CaptureStreamState
  | starting | capturing | pausedBudget | hidden | suspended | draining | stopped | failed
  deriving DecidableEq

inductive Transition
  | startedVisible | startedHidden | hide | show | actualFrame | suspend | resume | pauseBudget | resumeBudgetVisible
  | resumeBudgetHidden | stop | drained | deadline | failure
  deriving DecidableEq

def nextState : CaptureStreamState → Transition → Option CaptureStreamState
  | .starting, .startedVisible => some .capturing
  | .starting, .startedHidden => some .hidden
  | .starting, .suspend => some .suspended
  | .starting, .stop => some .draining
  | .starting, .failure => some .failed
  | .capturing, .hide => some .hidden
  | .capturing, .pauseBudget => some .pausedBudget
  | .capturing, .suspend => some .suspended
  | .capturing, .stop => some .draining
  | .capturing, .failure => some .failed
  | .pausedBudget, .hide | .pausedBudget, .show | .pausedBudget, .actualFrame => some .pausedBudget
  | .pausedBudget, .resumeBudgetVisible => some .capturing
  | .pausedBudget, .resumeBudgetHidden => some .hidden
  | .pausedBudget, .suspend => some .suspended
  | .pausedBudget, .stop => some .draining
  | .pausedBudget, .failure => some .failed
  | .hidden, .show | .hidden, .actualFrame => some .capturing
  | .hidden, .pauseBudget => some .pausedBudget
  | .hidden, .suspend => some .suspended
  | .hidden, .stop => some .draining
  | .hidden, .failure => some .failed
  | .suspended, .resume => some .starting
  | .suspended, .stop => some .draining
  | .suspended, .failure => some .failed
  | .draining, .failure => some .failed
  | .draining, .drained | .draining, .deadline => some .stopped
  | _, _ => none

inductive CaptureFailureStage
  | geometry | screencastStart | frameEventStream | visibilityEventStream | frameEnvelope | acknowledgement
  | ordinalAllocation | frameDecode | framePersistence | gapPersistence

structure TargetCaptureStatus where
  targetId : TargetId
  attachmentGeneration : Nat
  state : CaptureStreamState
  statistics : CaptureStatistics
  queueCapacity : Nat
  queueDepth : Nat
  lastFrameSessionTime : Option SessionTime
  failure : Option CaptureFailureStage

def TargetCaptureStatus.new (targetId : TargetId) (attachmentGeneration : Nat) (state : CaptureStreamState)
    (statistics : CaptureStatistics) (queueCapacity queueDepth : Nat) (lastFrameSessionTime : Option SessionTime)
    (failure : Option CaptureFailureStage) : Result TargetCaptureStatus :=
  if attachmentGeneration = 0 then .error (invalid "capture attachment generation must be non-zero")
  else if queueCapacity = 0 then .error (invalid "capture queue capacity must be non-zero")
  else if queueDepth > queueCapacity then .error (invalid "capture queue depth exceeds capacity")
  else if state = .stopped ∧ queueDepth ≠ 0 then
    .error (invalid "stopped capture streams cannot retain queued frames")
  else if decide (state = .failed) ≠ failure.isSome then
    .error (invalid "failed capture streams require exactly one failure")
  else if lastFrameSessionTime.isSome ∧ statistics.receivedFrames = 0 then
    .error (invalid "last frame time requires at least one received frame")
  else .ok { targetId, attachmentGeneration, state, statistics, queueCapacity, queueDepth, lastFrameSessionTime, failure }

end Krometrail

/-!
## The capture pipeline of one target

A frame reader hands frames to a worker through a bounded channel, and both keep the counters of the target under one
lock.  What a party still has to do for the frame in hand is a script of operations; an operation is what it does under
one lock, so any interleaving of the scripts is a run.  The queue's send and its accounting are two operations.
-/

namespace Krometrail

structure RuntimeState where
  state : CaptureStreamState
  visible : Bool
  statistics : CaptureStatistics
  queueCapacity : Nat
  queueDepth : Nat
  inFlight : Nat
  lastFrameSessionTime : Option SessionTime
  failure : Option CaptureFailureStage

def RuntimeState.new (queueCapacity : Nat) : RuntimeState :=
  { state := .starting, visible := true, statistics := .default, queueCapacity, queueDepth := 0, inFlight := 0
    lastFrameSessionTime := none, failure := none }

/-- The identity of the target that its status repeats. -/
structure CaptureTarget where
  targetId : TargetId
  attachmentGeneration : Nat

def statusFromState (target : CaptureTarget) (state : RuntimeState) : Result TargetCaptureStatus :=
  TargetCaptureStatus.new target.targetId target.attachmentGeneration state.state state.statistics state.queueCapacity state.queueDepth
    state.lastFrameSessionTime state.failure

namespace RuntimeState

/-- `None` is a panic: an `expect` that fails under the lock. -/
def updateStatistics (self : RuntimeState) (record : CaptureStatistics → Result CaptureStatistics) : Option RuntimeState :=
  match record self.statistics with
  | .ok statistics => some { self with statistics }
  | .error _ => none

def recordReceived (self : RuntimeState) : Option RuntimeState := self.updateStatistics (·.recordReceived)

/-- `record_ack`; `session` is the normalized time of the frame. -/
def recordAck (self : RuntimeState) (session : SessionTime) : Option RuntimeState :=
  let session := match self.lastFrameSessionTime with
    | some previous => if session.nanos ≤ previous.nanos then previous else session
    | none => session
  { self with lastFrameSessionTime := some session }.updateStatistics (·.recordAcknowledged)

/-- The accounting of `handoff` after a send that succeeded. -/
def recordAccepted (self : RuntimeState) : Option RuntimeState :=
  { self with queueDepth := saturatingAdd self.queueDepth 1 }.updateStatistics (·.recordAccepted)

def recordDropped (self : RuntimeState) : Option RuntimeState := self.updateStatistics (·.recordDropped)

def declareGap (self : RuntimeState) : Option RuntimeState := self.updateStatistics (·.recordGap)

def beginProcessing (self : RuntimeState) : RuntimeState :=
  { self with queueDepth := self.queueDepth - 1, inFlight := saturatingAdd self.inFlight 1 }

def completeProcessing (self : RuntimeState) : RuntimeState := { self with inFlight := self.inFlight - 1 }

def persisted (self : RuntimeState) : Option RuntimeState := self.updateStatistics (·.recordPersisted)

/-- `record_first_failure`. -/
def recordFailure (self : RuntimeState) (stage : CaptureFailureStage) : RuntimeState :=
  { self with failure := self.failure.or (some stage) }

def withVisibility (self : RuntimeState) : Transition → RuntimeState
  | .hide => { self with visible := false }
  | .show | .actualFrame => { self with visible := true }
  | _ => self

/-- `transition`: a change of the state builds the status. -/
def transition (self : RuntimeState) (target : CaptureTarget) (t : Transition) : Option RuntimeState :=
  let self := self.withVisibility t
  match nextState self.state t with
  | none => some self
  | some next =>
    if next = self.state then some self
    else
      let self := { self with state := next }
      match statusFromState target self with
      | .ok _ => some self
      | .error _ => none

def resumeBudgetTransition (self : RuntimeState) : Transition :=
  if self.visible then .resumeBudgetVisible else .resumeBudgetHidden

end RuntimeState

/-- What a party does under one lock. -/
inductive Operation (F : Type*)
  | recordReceived
  | recordAck (session : SessionTime)
  | transition (t : Transition)
  | trySend (frame : F)
  | recordAccepted
  | declareGap
  | recordDropped
  | closeAcceptance
  | recordFailure (stage : CaptureFailureStage)
  | closeSender
  | beginProcessing
  | persisted
  | completeProcessing
  | resumeBudget
  | closeReceiver

/-- `inHand` is the frame that the worker received and has not decided about; `discarded` is history: the frames that the
worker received or left in its channel and did not persist. -/
structure StreamRuntime (F : Type*) where
  target : CaptureTarget
  runtime : RuntimeState
  accepting : Bool
  senderOpen : Bool
  receiverOpen : Bool
  queue : List F
  reader : List (Operation F)
  worker : List (Operation F)
  inHand : Option F
  awaitingBudget : Bool
  discarded : Nat
  panicked : Bool

namespace StreamRuntime

variable {F : Type*}

def new (target : CaptureTarget) (queueCapacity : Nat) : StreamRuntime F :=
  { target, runtime := .new queueCapacity, accepting := true, senderOpen := true, receiverOpen := true, queue := []
    reader := [], worker := [], inHand := none, awaitingBudget := false, discarded := 0, panicked := false }

/-- The counters after an operation on them, or a panic. -/
def update (s : StreamRuntime F) : Option RuntimeState → StreamRuntime F
  | some runtime => { s with runtime }
  | none => { s with panicked := true }

/-- `try_send`: what is left to do with its answer. -/
def trySend (s : StreamRuntime F) (frame : F) : StreamRuntime F × List (Operation F) :=
  if s.accepting && s.senderOpen then
    if !s.receiverOpen || decide (s.runtime.queueCapacity ≤ s.queue.length) then (s, [.declareGap, .recordDropped])
    else ({ s with queue := s.queue ++ [frame] }, [.recordAccepted])
  else (s, [.declareGap, .recordDropped])

/-- One operation, and what it adds to the script. -/
def perform (s : StreamRuntime F) : Operation F → StreamRuntime F × List (Operation F)
  | .recordReceived => (s.update s.runtime.recordReceived, [])
  | .recordAck session => (s.update (s.runtime.recordAck session), [])
  | .transition t => (s.update (s.runtime.transition s.target t), [])
  | .trySend frame => s.trySend frame
  | .recordAccepted => (s.update s.runtime.recordAccepted, [])
  | .declareGap => (s.update s.runtime.declareGap, [])
  | .recordDropped => (s.update s.runtime.recordDropped, [])
  | .closeAcceptance => ({ s with accepting := false }, [])
  | .recordFailure stage => ({ s with runtime := s.runtime.recordFailure stage }, [])
  | .closeSender => ({ s with senderOpen := false }, [])
  | .beginProcessing => ({ s with runtime := s.runtime.beginProcessing }, [])
  | .persisted => (s.update s.runtime.persisted, [])
  | .completeProcessing => ({ s with runtime := s.runtime.completeProcessing }, [])
  | .resumeBudget => (s, [.transition s.runtime.resumeBudgetTransition])
  | .closeReceiver => ({ s with receiverOpen := false, queue := [], discarded := s.discarded + s.queue.length }, [])

def fail (stage : CaptureFailureStage) : List (Operation F) :=
  [.closeAcceptance, .recordFailure stage, .transition .failure, .closeSender]

/-- How the turn of the reader for one event ends. -/
inductive FrameOutcome (F : Type*)
  | streamEnded
  | acknowledgementFailed
  | staleGeneration (session : SessionTime)
  | ordinalsExhausted (session : SessionTime)
  | rejected (session : SessionTime)
  | captured (session : SessionTime) (frame : F)

/-- `frame_reader`, one turn. -/
def readerScript : FrameOutcome F → List (Operation F)
  | .streamEnded => fail .frameEventStream
  | .acknowledgementFailed => .recordReceived :: .declareGap :: fail .acknowledgement
  | .staleGeneration session => [.recordReceived, .recordAck session]
  | .ordinalsExhausted session => .recordReceived :: .recordAck session :: fail .ordinalAllocation
  | .rejected session => .recordReceived :: .recordAck session :: .transition .actualFrame :: .declareGap ::
      .recordDropped :: fail .frameEnvelope
  | .captured session frame => [.recordReceived, .recordAck session, .transition .actualFrame, .trySend frame]

/-- What becomes of the frame in hand; the flags say whether a gap cannot be persisted, for the frame and at the end of
the worker. -/
inductive ProcessOutcome
  | appended
  | gapPersistenceFailed (finalGapFails : Bool)
  | decodeFailed (gapFails finalGapFails : Bool)
  | budgetExhausted
  | appendFailed (finalGapFails : Bool)
  deriving DecidableEq

inductive BudgetOutcome
  | refused (finalGapFails : Bool)
  | gapPersistenceFailed (finalGapFails : Bool)
  | allowed

/-- The end of `worker_loop`. -/
def finish (finalGapFails : Bool) : List (Operation F) :=
  (if finalGapFails then fail .gapPersistence else []) ++ [.closeReceiver]

/-- `worker_loop` for the frame in hand. -/
def processScript : ProcessOutcome → List (Operation F)
  | .appended => [.persisted, .completeProcessing]
  | .gapPersistenceFailed finalGapFails => fail .gapPersistence ++ finish finalGapFails
  | .decodeFailed gapFails finalGapFails => .completeProcessing :: .declareGap ::
      (fail (if gapFails then .gapPersistence else .frameDecode) ++ finish finalGapFails)
  | .budgetExhausted => [.completeProcessing, .declareGap, .transition .pauseBudget]
  | .appendFailed finalGapFails => .completeProcessing :: .declareGap ::
      (fail .framePersistence ++ finish finalGapFails)

/-- The rest of the turn after the budget was exhausted. -/
def budgetScript : BudgetOutcome → List (Operation F)
  | .refused finalGapFails => finish finalGapFails
  | .gapPersistenceFailed finalGapFails => fail .gapPersistence ++ finish finalGapFails
  | .allowed => [.resumeBudget]

inductive Input (F : Type*)
  | frame (outcome : FrameOutcome F)
  | readerStep
  | receive
  | drained (finalGapFails : Bool)
  | process (outcome : ProcessOutcome)
  | budget (outcome : BudgetOutcome)
  | workerStep
  -- Another task changes the state of the stream, declares a gap or reads the status.
  | transition (t : Transition)
  | declareGap
  | status

/-- Transitions that other tasks than the reader and the worker make while the stream is not stopped. -/
def external : Transition → Bool
  | .failure | .drained | .deadline | .pauseBudget | .resumeBudgetVisible | .resumeBudgetHidden => false
  | _ => true

def exec (s : StreamRuntime F) (input : Input F) : Option (StreamRuntime F) :=
  if s.panicked then none
  else match input with
    | .frame outcome => if s.accepting && s.reader.isEmpty then some { s with reader := readerScript outcome } else none
    | .readerStep =>
      match s.reader with
      | [] => none
      | op :: rest => let (s, more) := { s with reader := rest }.perform op
        some { s with reader := more ++ s.reader }
    | .receive =>
      match s.queue with
      | [] => none
      | frame :: queue =>
        if s.receiverOpen && s.worker.isEmpty && s.inHand.isNone && !s.awaitingBudget then
          some { s with queue, inHand := some frame, worker := [.beginProcessing] }
        else none
    | .drained finalGapFails =>
      if s.receiverOpen && s.worker.isEmpty && s.inHand.isNone && !s.awaitingBudget && s.queue.isEmpty &&
          !s.senderOpen then
        some { s with worker := finish finalGapFails }
      else none
    | .process outcome =>
      if s.worker.isEmpty && s.inHand.isSome then
        some { s with
          worker := processScript outcome
          inHand := none
          awaitingBudget := decide (outcome = .budgetExhausted)
          discarded := if outcome = .appended then s.discarded else s.discarded + 1 }
      else none
    | .budget outcome =>
      if s.worker.isEmpty && s.awaitingBudget then
        some { s with worker := budgetScript outcome, awaitingBudget := false }
      else none
    | .workerStep =>
      match s.worker with
      | [] => none
      | op :: rest => let (s, more) := { s with worker := rest }.perform op
        some { s with worker := more ++ s.worker }
    | .transition t => if external t then some (s.perform (.transition t)).1 else none
    | .declareGap => some (s.perform .declareGap).1
    | .status =>
      match statusFromState s.target s.runtime with
      | .ok _ => some s
      | .error _ => some { s with panicked := true }

/-- Any interleaving of the reader, the worker and the readers of the status. -/
def pipeline (F : Type*) : Runs.System (StreamRuntime F) (Input F) Unit where
  init s := ∃ target queueCapacity, target.attachmentGeneration ≠ 0 ∧ queueCapacity ≠ 0 ∧ queueCapacity ≤ u64Max ∧
    s = new target queueCapacity
  step s input _ s' := s.exec input = some s'

end StreamRuntime

end Krometrail
