import Krometrail.Capture.GapLedger
import Krometrail.Lib.Runs

/-!
# The flow of capture gaps

The gaps of one capture stream are declared by the frame reader, the visibility reader, the worker and the calls that
suspend and stop the stream, and the worker takes them from the ledger and hands them to the sink.  A party does one
thing under one lock, or between two awaits, in a step; any interleaving of the parties is a run.  Frames are their
session times here.
-/

namespace Krometrail.CaptureGaps

open Runs (Run System exists_reachable exists_run)

/-- An identifier and the reading of the clock. -/
structure Draw where
  id : GapId
  now : ObservedTime

/-- The ledger and the sink.  History: the identifiers that have been given out and those of the gaps that the sink has
been handed, the ranges that have been declared, and for every gap that the sink refused what was not stored by then,
and the ledger. -/
structure Gaps where
  ledger : GapLedger
  stored : List CaptureGap
  drawn : List GapId
  handed : List GapId
  declared : List SessionRange
  refusals : List (List CaptureGap × List CaptureGap)

/-- The stream's session and target. -/
structure Target where
  sessionId : SessionId
  targetId : TargetId

namespace Gaps

variable (g : Gaps)

/-- `declare_gap`, with the gap that it answers with; the source of identifiers gives none out twice. -/
def declare (target : Target) (reason : CaptureGapReason) (time : SessionTime) (estimated : Option Nat) (draw : Draw) :
    Option (Option CaptureGap × Gaps) :=
  if draw.id ∈ g.drawn then none
  else
    let g := { g with drawn := draw.id :: g.drawn }
    match CaptureGap.new draw.id target.sessionId target.targetId (NonemptyInterval.pure time) draw.now reason
      (estimated.filter (· ≠ 0)) with
    | .error _ => some (none, g)
    | .ok gap =>
      let pushed := g.ledger.push gap
      some (some pushed.1, { g with ledger := pushed.2, declared := g.declared ++ [gap.range] })

def take : Gaps := { g with ledger := g.ledger.take }

/-- A gap that the sink may still store: it has none with this identifier. -/
def isNew (gap : CaptureGap) : Bool := gap.id ∉ g.stored.map CaptureGap.id

/-- `append_gap` answers with success. -/
def store (gap : CaptureGap) : Gaps := { g with stored := g.stored ++ [gap], handed := g.handed ++ [gap.id] }

/-- `append_gap` answers with an error, with `rest` taken after the gap. -/
def refuse (gap : CaptureGap) (rest : List CaptureGap) : Gaps :=
  { g with handed := g.handed ++ [gap.id], refusals := g.refusals ++ [(gap :: rest, g.ledger.pending)] }

end Gaps

/-- Where `frame_reader` is. -/
inductive Reader
  | checking
  | waiting
  | dropping (reason : CaptureGapReason) (time : SessionTime) (fails : Bool)
  | sent
  | exited

/-- What the frame reader waits for: the task is cancelled, the events are over, or one came and was not acknowledged, or
was and got no ordinal, was rejected, or is a frame. -/
inductive FrameEvent
  | cancelled | closed
  | unacknowledged (time : SessionTime)
  | stale (time : SessionTime)
  | exhausted (time : SessionTime)
  | rejected (time : SessionTime)
  | frame (time : SessionTime)

/-- Where `visibility_reader` is. -/
inductive Visibility
  | checking
  | waiting
  | hidden (time : SessionTime)
  | exited

/-- What the visibility reader waits for; `hidden` is an event that changes the state of the stream. -/
inductive VisibilityEvent
  | cancelled | closed | unreadable | unchanged
  | hidden (time : SessionTime)

/-- What `worker_loop` does once the gaps that it takes are stored. -/
inductive Next
  | frame (time : SessionTime)
  | resume
  | finish

/-- Where `worker_loop` is. -/
inductive Worker
  | receiving
  | taking (next : Next)
  | persisting (gaps : List CaptureGap) (next : Next)
  | appending (time : SessionTime)
  | paused (time : SessionTime)
  | failed (time : SessionTime)
  | rejected (time : SessionTime)
  | rejecting (gap : CaptureGap)
  | awaitingBudget
  | exited

/-- How the sink takes a frame. -/
inductive Appended
  | stored | budgetExhausted | error

structure WorkerInput where
  accepted : Bool
  decoded : Bool
  allowed : Bool
  appended : Appended
  draw : Draw

/-- Where a call of `suspend_target` or `stop_target` is. -/
inductive Call
  | suspending (time : SessionTime)
  | disconnecting (time : SessionTime)
  | suspended
  | stopping
  | commanding
  | joining (succeeded : Bool)
  | settling (complete : Bool)
  | stopped
  deriving DecidableEq

structure CallInput where
  succeeded : Bool
  deadline : Bool
  abandoned : Nat
  draw : Draw

structure State where
  target : Target
  queueCapacity : Nat
  gaps : Gaps
  accepting : Bool
  senderOpen : Bool
  readersAborted : Bool
  queue : List SessionTime
  lastFrame : Option SessionTime
  reader : Reader
  visibility : Visibility
  worker : Worker
  workerAborted : Bool
  workerTaken : Bool
  calls : List Call

inductive Input
  | reader (event : FrameEvent) (draw : Draw)
  | visibility (event : VisibilityEvent) (draw : Draw)
  | worker (input : WorkerInput)
  /-- The aborted worker's task is dropped at an await. -/
  | dropWorker
  | suspend (time : SessionTime)
  | stop
  | advance (i : Nat) (input : CallInput)

namespace State

variable (s : State)

def fail : State := { s with accepting := false, senderOpen := false }

/-- `close_acceptance` and `abort_readers`. -/
def close : State := { s with accepting := false, senderOpen := false, readersAborted := true }

def declare (reason : CaptureGapReason) (time : SessionTime) (estimated : Option Nat) (draw : Draw) :
    Option (Option CaptureGap × State) :=
  (s.gaps.declare s.target reason time estimated draw).map fun declared => (declared.1, { s with gaps := declared.2 })

/-- The receiver is dropped with the worker. -/
def receiverOpen : Bool :=
  match s.worker with
  | .exited => false
  | _ => true

/-- `handoff`, up to its declaration or its accounting. -/
def handoff (time : SessionTime) : State :=
  if s.senderOpen && s.accepting && s.receiverOpen then
    if s.queue.length < s.queueCapacity then { s with queue := s.queue ++ [time], reader := .sent }
    else { s with reader := .dropping .ingestionQueueSaturated time false }
  else { s with reader := .dropping .captureStopped time false }

def readerEvent (event : FrameEvent) : Option State :=
  match event with
  | .cancelled => if s.readersAborted then some { s with reader := .exited } else none
  | .closed => some { s.fail with reader := .exited }
  | .unacknowledged time => some { s with reader := .dropping .acknowledgementFailed time true }
  | .stale time => some { s with reader := .checking, lastFrame := some time }
  | .exhausted time => some { s.fail with reader := .exited, lastFrame := some time }
  | .rejected time => some { s with reader := .dropping .frameRejected time true, lastFrame := some time }
  | .frame time => some (State.handoff { s with lastFrame := some time } time)

def readerStep (event : FrameEvent) (draw : Draw) : Option State :=
  match s.reader with
  | .checking => some { s with reader := if s.accepting then .waiting else .exited }
  | .waiting => s.readerEvent event
  | .dropping reason time fails =>
    (s.declare reason time (some 1) draw).map fun declared =>
      if fails then { declared.2.fail with reader := .exited } else { declared.2 with reader := .checking }
  | .sent => some { s with reader := .checking, gaps := { s.gaps with ledger := s.gaps.ledger.closeSaturation } }
  | .exited => none

def visibilityStep (event : VisibilityEvent) (draw : Draw) : Option State :=
  match s.visibility with
  | .checking => some { s with visibility := if s.accepting then .waiting else .exited }
  | .waiting =>
    match event with
    | .cancelled => if s.readersAborted then some { s with visibility := .exited } else none
    | .closed => some { s.fail with visibility := .exited }
    | .unreadable => some { s.fail with visibility := .checking }
    | .unchanged => some { s with visibility := .checking }
    | .hidden time => some { s with visibility := .hidden time }
  | .hidden time =>
    (s.declare .targetHidden time none draw).map fun declared => { declared.2 with visibility := .checking }
  | .exited => none

/-- The loop of `persist_pending_gaps` and what follows it. -/
def persistStep (taken : List CaptureGap) (next : Next) (input : WorkerInput) : State :=
  match taken with
  | gap :: rest =>
    if input.accepted && s.gaps.isNew gap then { s with gaps := s.gaps.store gap, worker := .persisting rest next }
    else
      -- the error leaves the loop, and the rest of what was taken is dropped
      { s.fail with
        gaps := s.gaps.refuse gap rest
        worker := match next with
          | .finish => .exited
          | _ => .taking .finish }
  | [] =>
    { s with
      worker := match next with
        | .frame time => if input.decoded then .appending time else .rejected time
        | .resume => .receiving
        | .finish => .exited }

def workerStep (input : WorkerInput) : Option State :=
  match s.worker with
  | .receiving =>
    match s.queue with
    | time :: rest => some { s with queue := rest, worker := .taking (.frame time) }
    | [] => if s.senderOpen then none else some { s with worker := .taking .finish }
  | .taking next => some { s with gaps := s.gaps.take, worker := .persisting s.gaps.ledger.pending next }
  | .persisting taken next => some (s.persistStep taken next input)
  | .appending time =>
    match input.appended with
    | .stored => some { s with worker := .receiving }
    | .budgetExhausted => some { s with worker := .paused time }
    | .error => some { s with worker := .failed time }
  | .paused time =>
    (s.declare .persistenceRejected time (some 1) input.draw).map fun declared => { declared.2 with worker := .awaitingBudget }
  | .failed time =>
    (s.declare .persistenceRejected time (some 1) input.draw).map fun declared => { declared.2.fail with worker := .taking .finish }
  | .rejected time =>
    (s.declare .frameRejected time (some 1) input.draw).map fun declared =>
      match declared.1 with
      | some gap => { declared.2 with worker := .rejecting gap }
      | none => { declared.2.fail with worker := .taking .finish }
  | .rejecting gap =>
    some { s.fail with
      gaps := if input.accepted && s.gaps.isNew gap then s.gaps.store gap else s.gaps.refuse gap []
      worker := .taking .finish }
  | .awaitingBudget => some { s with worker := .taking (if input.allowed then .resume else .finish) }
  | .exited => none

def awaiting : Bool :=
  match s.worker with
  | .receiving | .persisting (_ :: _) _ | .appending _ | .rejecting _ | .awaitingBudget => true
  | _ => false

def callStep (i : Nat) (call : Call) (input : CallInput) : Option State :=
  let goesOn (s : State) (call : Call) : State := { s with calls := s.calls.set i call }
  match call with
  | .suspending time => some (goesOn s.close (.disconnecting time))
  | .disconnecting time => (s.declare .browserDisconnected time none input.draw).map fun declared => goesOn declared.2 .suspended
  | .stopping => some (goesOn s.close .commanding)
  | .commanding =>
    if s.workerTaken then some (goesOn s (.settling input.succeeded))
    else some (goesOn { s with workerTaken := true } (.joining input.succeeded))
  | .joining succeeded =>
    if input.deadline then some (goesOn { s with workerAborted := true } (.settling false))
    else if s.receiverOpen then none
    else some (goesOn s (.settling succeeded))
  | .settling complete =>
    if complete then some (goesOn s .stopped)
    else
      (s.declare .captureStopped (s.lastFrame.getD ⟨0⟩) (some input.abandoned) input.draw).map fun declared =>
        goesOn declared.2 .stopped
  | .suspended | .stopped => none

def exec (input : Input) : Option State :=
  match input with
  | .reader event draw => s.readerStep event draw
  | .visibility event draw => s.visibilityStep event draw
  | .worker input => s.workerStep input
  | .dropWorker => if s.workerAborted && s.awaiting then some { s with worker := .exited } else none
  | .suspend time => some { s with calls := s.calls ++ [.suspending time] }
  | .stop => some { s with calls := s.calls ++ [.stopping] }
  | .advance i input => s.calls[i]?.bind (s.callStep i · input)

end State

/-- A stream that has just been started. -/
def start (target : Target) (queueCapacity : Nat) (ledgerCapacity : ℕ+) : State where
  target := target
  queueCapacity := queueCapacity
  gaps := ⟨⟨ledgerCapacity, [], false⟩, [], [], [], [], []⟩
  accepting := true
  senderOpen := true
  readersAborted := false
  queue := []
  lastFrame := none
  reader := .checking
  visibility := .checking
  worker := .receiving
  workerAborted := false
  workerTaken := false
  calls := []

def State.IsInitial (s : State) : Prop := ∃ target queueCapacity ledgerCapacity, s = start target queueCapacity ledgerCapacity

/-- The frame reader, the visibility reader, the worker and any number of calls, in any order. -/
def system : System State Input Unit := .ofExec State.IsInitial State.exec

/-- A call that suspends or stops the stream has returned. -/
def State.Ended (s : State) : Prop := ∃ call ∈ s.calls, call = .suspended ∨ call = .stopped

structure State.Delivered (s : State) : Prop where
  /-- The sink is handed no gap twice. -/
  once : s.gaps.handed.Nodup
  /-- Where `append_gap` fails, the ledger has what was not stored. -/
  kept : ∀ refusal ∈ s.gaps.refusals, ∀ gap ∈ refusal.1, gap ∈ refusal.2
  /-- No range that was declared is lost when the stream has ended. -/
  stored : s.Ended → s.receiverOpen = false → ∀ range ∈ s.gaps.declared, Covered s.gaps.stored range

/-- The worker has taken gaps from the ledger for the last time. -/
def Worker.finishing : Worker → Bool
  | persisting _ .finish | exited => true
  | _ => false

/-- The gaps that the worker has taken and not handed on. -/
def Worker.hands : Worker → List CaptureGap
  | persisting gaps _ => gaps
  | _ => []

namespace State

variable (s : State)

/-- A gap is declared before the worker's last look at the ledger, unless it is refused. -/
def InTime (time : SessionTime) (draw : Draw) : Prop := s.worker.finishing = false ∨ ¬ time.nanos ≤ draw.now.nanos

/-- The sink refuses no gap that the worker has taken, no frame fails to be decoded, no gap is declared after the worker's
last look at the ledger, and no gap is left when the worker is dropped. -/
def Unhindered : Input → Prop
  | .reader _ draw => match s.reader with
    | .dropping _ time _ => s.InTime time draw
    | _ => True
  | .visibility _ draw => match s.visibility with
    | .hidden time => s.InTime time draw
    | _ => True
  | .worker input => match s.worker with
    | .persisting (_ :: _) _ => input.accepted = true
    | .persisting [] (.frame _) => input.decoded = true
    | _ => True
  | .dropWorker => s.worker.hands = [] ∧ s.gaps.ledger.pending = []
  | .advance i input => match s.calls[i]? with
    | some (.disconnecting time) => s.InTime time input.draw
    | some (.settling false) => s.InTime (s.lastFrame.getD ⟨0⟩) input.draw
    | _ => True
  | _ => True

end State

end Krometrail.CaptureGaps
