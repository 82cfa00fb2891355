import Krometrail.Events.Ledger
import Krometrail.Lib.Runs

/-!
# The event pipeline of a target

Pumps submit payloads: an ordinal is allocated under the lock of the ingress, the event is built and sent to the queue
without it, and what cannot be sent becomes a gap under the lock again.  The writer takes gaps first, then batches of
queued events.  Event identifiers come from a source `ids`, and the bytes that all targets together may have pending are
the surroundings' affair.
-/

namespace Krometrail.Events

open Runs (Run System)

def maxBrowserEventPayloadBytes : Nat := 8 * 1024

def maxBrowserEventBatchRows : Nat := 128

def maxBrowserEventBatchBytes : Nat := 256 * 1024

/-- What a serialized event takes besides its payload: three UUIDs, a severity and at most six numbers. -/
def maxEnvelopeBytes : Nat := 1024

/-- The size of a serialized event that `BrowserEvent::validate` accepts. -/
structure EventSize where
  bytes : Nat
  bytes_le : bytes ≤ maxBrowserEventPayloadBytes + maxEnvelopeBytes
  deriving DecidableEq

inductive BrowserEventPayload
  | collectionGap (gap : CollectionGap)
  | other (cls : BrowserEventClass)
  deriving DecidableEq

def BrowserEventPayload.cls : BrowserEventPayload → BrowserEventClass
  | collectionGap _ => .operational
  | other cls => cls

/-- An event of the target, which `BrowserEvent::new` has accepted. -/
structure BrowserEvent (Id : Type) where
  id : Id
  attachment : ℕ+
  ordinal : Nat
  sessionTime : SessionTime
  payload : BrowserEventPayload
  size : EventSize
  deriving DecidableEq

namespace BrowserEvent

variable {Id : Type}

def affectedRange (event : BrowserEvent Id) : SessionRange :=
  match event.payload with
  | .collectionGap gap => gap.range
  | .other _ => NonemptyInterval.pure event.sessionTime

end BrowserEvent

variable {Id : Type} [DecidableEq Id]

/-- The loop of `BrowserEventBatch::new`, over events of one session and one target that are valid by themselves. -/
def checkEvents : List Id → Option Nat → Nat → List (BrowserEvent Id) → Result Unit
  | _, _, _, [] => .ok ()
  | ids, previous, byteCount, event :: events => do
    refuse (event.id ∈ ids) (invalid "browser event batch contains a duplicate event ID")
    refuse (∃ ordinal ∈ previous, event.ordinal ≤ ordinal) (invalid "browser event batch ordinals must increase strictly per target")
    refuse (maxBrowserEventBatchBytes < byteCount + event.size.bytes)
      (invalid "browser event batch exceeds its serialized byte limit")
    checkEvents (event.id :: ids) (some event.ordinal) (byteCount + event.size.bytes) events

/-- `BrowserEventBatch::new`. -/
def newBatch (events : List (BrowserEvent Id)) : Result (List (BrowserEvent Id)) := do
  refuse (events = []) (invalid "browser event batch must contain at least one row")
  refuse (maxBrowserEventBatchRows < events.length) (invalid "browser event batch exceeds its row limit")
  checkEvents [] none 0 events
  return events

/-- The part of a `BrowserEventConfig` that a target's pipeline reads, as `validate` accepts it. -/
structure BrowserEventConfig where
  perTargetQueueCapacity : Nat
  storeBatchRows : Nat
  storeBatchBytes : Nat
  gapLedgerCapacity : Nat
  storeBatchRows_pos : 0 < storeBatchRows
  storeBatchRows_le : storeBatchRows ≤ maxBrowserEventBatchRows
  storeBatchBytes_le : storeBatchBytes ≤ maxBrowserEventBatchBytes

/-- What all of a session's ingresses share. -/
structure PipelineInner (Id : Type) where
  config : BrowserEventConfig
  sessionOrigin : ObservedTime
  ids : Nat → Id

/-- A call of `submit_payload` that has its ordinal and has neither sent its event nor recorded its drop. -/
structure Submission where
  generation : TargetGeneration
  ordinal : Nat
  sessionTime : SessionTime
  cls : BrowserEventClass
  refused : Option BrowserEventGapReason

/-- Where `writer_loop` is, with what it has in its hands. -/
inductive Writer (Id : Type)
  | nextGap
  | buildGap (entry : GapEntry)
  | appendGap (event : BrowserEvent Id) (gap : CollectionGap)
  | sleep
  | receive
  | empty
  | wait
  | batch (events : List (BrowserEvent Id))
  | append (events : List (BrowserEvent Id))
  | returned
  deriving DecidableEq

structure State (Id : Type) where
  generation : TargetGeneration
  accepting : Bool
  lastOrdinal : Nat
  lastSessionTime : SessionTime
  gaps : GapLedger
  stopping : Bool
  inFlight : List Submission
  queue : List (BrowserEvent Id)
  carry : Option (BrowserEvent Id)
  writer : Writer Id
  nextId : Nat
  /-- The events that the sink has accepted. -/
  persisted : List (BrowserEvent Id)
  /-- The events that the sink has been given. -/
  handed : List (BrowserEvent Id)
  /-- The ordinals that events and recorded drops have been given. -/
  allocated : List Nat

inductive Input
  | beginGeneration (generation : TargetGeneration)
  | suspendGeneration (generation : TargetGeneration) (reason : BrowserEventGapReason) (observed : ObservedTime)
  | submit (generation : TargetGeneration) (observed : ObservedTime) (cls : BrowserEventClass)
  /-- The submission at `i` builds its event (`built`, if it is accepted and serializes) and sends it, if the bytes pending
  in the session leave room (`reserved`). -/
  | enqueue (i : Nat) (built : Option EventSize) (reserved : Bool)
  | recordAllocatedDrop (i : Nat)
  | recordObservedDrops (generation : TargetGeneration) (reason : BrowserEventGapReason) (cls : Option BrowserEventClass)
      (observed : ObservedTime) (count : Nat)
  | refuse
  | raiseStopping
  /-- A step of the writer: what the clock says, the size of a gap event, what the sink answers, and whether a wait ends by a
  notification. -/
  | write (now : ObservedTime) (size : EventSize) (persisted notified : Bool)

namespace State

variable (inner : PipelineInner Id) (s : State Id)

def isStale (generation : TargetGeneration) : Bool :=
  generation.connection < s.generation.connection ||
    (generation.connection == s.generation.connection &&
      (generation.attachment < s.generation.attachment ||
        (generation.attachment == s.generation.attachment && s.accepting)))

def beginGeneration (generation : TargetGeneration) : Option (State Id) :=
  if s.isStale generation then none
  else some { s with generation := generation, accepting := true, stopping := false }

def normalize (observed : ObservedTime) : Option SessionTime :=
  if inner.sessionOrigin.nanos ≤ observed.nanos then some ⟨observed.nanos - inner.sessionOrigin.nanos⟩ else none

def allocate (observed : ObservedTime) : Option (Nat × SessionTime × State Id) :=
  if s.lastOrdinal + 1 ≤ u64Max then
    (normalize inner observed).map fun normalized =>
      let time := max normalized s.lastSessionTime
      (s.lastOrdinal + 1, time, { s with lastOrdinal := s.lastOrdinal + 1, lastSessionTime := time })
  else none

/-- The state with one more gap in its ledger. -/
def pushEntry (entry : GapEntry) : State Id := { s with gaps := s.gaps.pushEntry entry }

/-- A lost event that never had an event: its ordinal and its gap. -/
def recordDrop (generation : TargetGeneration) (reason : BrowserEventGapReason) (cls : Option BrowserEventClass)
    (observed : ObservedTime) : Option (State Id) :=
  (s.allocate inner observed).map fun (ordinal, time, allocated) =>
    { allocated.pushEntry (.point generation reason cls time ordinal) with allocated := s.allocated ++ [ordinal] }

/-- The loop of `record_observed_drops`, which ends when no ordinal is left. -/
def recordDrops (generation : TargetGeneration) (reason : BrowserEventGapReason) (cls : Option BrowserEventClass)
    (observed : ObservedTime) : Nat → State Id → State Id
  | 0, s => s
  | count + 1, s =>
    match s.recordDrop inner generation reason cls observed with
    | some s => recordDrops generation reason cls observed count s
    | none => s

def suspendGeneration (generation : TargetGeneration) (reason : BrowserEventGapReason) (observed : ObservedTime) : State Id :=
  if s.generation ≠ generation ∨ s.accepting = false then s
  else
    let refused := { s with accepting := false }
    (refused.recordDrop inner generation reason (some .operational) observed).getD refused

/-- The first half of `submit_payload`, under the lock. -/
def submit (generation : TargetGeneration) (observed : ObservedTime) (cls : BrowserEventClass) : Option (State Id) :=
  if s.accepting = false ∨ s.generation ≠ generation then none
  else (s.allocate inner observed).map fun (ordinal, time, allocated) =>
    { allocated with
      inFlight := s.inFlight ++ [⟨generation, ordinal, time, cls, none⟩]
      allocated := s.allocated ++ [ordinal] }

/-- The submission at `i` has been refused. -/
def refuseAt (i : Nat) (submission : Submission) (reason : BrowserEventGapReason) : State Id :=
  { s with inFlight := s.inFlight.set i { submission with refused := some reason } }

/-- The event that `build_event` makes of a submission. -/
def eventOf (submission : Submission) (size : EventSize) : BrowserEvent Id :=
  ⟨inner.ids s.nextId, submission.generation.attachment, submission.ordinal, submission.sessionTime, .other submission.cls, size⟩

/-- The second half of `submit_payload`: the event is built, its bytes reserved, and it is sent. -/
def enqueue (i : Nat) (built : Option EventSize) (reserved : Bool) : Option (State Id) :=
  s.inFlight[i]?.bind fun submission =>
    if submission.refused ≠ none then none
    else
      let numbered := { s with nextId := s.nextId + 1 }
      match built with
      | none => some (numbered.refuseAt i submission .invalidPayload)
      | some size =>
        if reserved = false then some (numbered.refuseAt i submission .queueSaturated)
        else if s.writer = .returned then some (numbered.refuseAt i submission .subscriptionClosed)
        else if inner.config.perTargetQueueCapacity ≤ s.queue.length then some (numbered.refuseAt i submission .queueSaturated)
        else some { numbered with
          queue := s.queue ++ [s.eventOf inner submission size]
          inFlight := s.inFlight.eraseIdx i }

def recordAllocatedDrop (i : Nat) : Option (State Id) :=
  s.inFlight[i]?.bind fun submission =>
    submission.refused.map fun reason =>
      { s.pushEntry (.point submission.generation reason (some submission.cls) submission.sessionTime submission.ordinal) with
        inFlight := s.inFlight.eraseIdx i }

/-- The range of a batch, or what its first event affects when the times are out of order. -/
def batchRange (first last : BrowserEvent Id) : SessionRange :=
  if h : first.sessionTime ≤ last.sessionTime then ⟨(first.sessionTime, last.sessionTime), h⟩ else first.affectedRange

/-- The entry of `record_batch_failure`. -/
def batchEntry (first last : BrowserEvent Id) (events : List (BrowserEvent Id)) : GapEntry where
  generation := ⟨0, first.attachment⟩
  gap := {
    reason := .persistenceRejected
    affectedClass := if events.all (fun event => event.payload.cls = first.payload.cls) then some first.payload.cls else none
    range := batchRange first last
    firstOrdinal := first.ordinal
    lastOrdinal := last.ordinal
    count := events.length
    ledgerMerged := false }

def recordBatchFailure (events : List (BrowserEvent Id)) : State Id :=
  match events.head?, events.getLast? with
  | some first, some last => s.pushEntry (batchEntry first last events)
  | _, _ => s

/-- The rest of `next_gap_event`: an ordinal, the payload and the event, of which each may fail. -/
def buildGap (entry : GapEntry) (now : ObservedTime) (size : EventSize) : State Id :=
  match s.allocate inner now with
  | none => { s with writer := .receive }
  | some (ordinal, _, allocated) =>
    match { entry.gap with count := max entry.gap.count 1 }.new with
    | .error _ => { allocated with writer := .receive }
    | .ok gap =>
      let numbered := { allocated with nextId := s.nextId + 1 }
      if now.nanos < gap.range.snd.nanos then { numbered with writer := .receive }
      else { numbered with
        writer := .appendGap ⟨inner.ids s.nextId, entry.generation.attachment, ordinal, gap.range.snd, .collectionGap gap, size⟩
          gap }

/-- The receiver is dropped, with what is still in the channel. -/
def returnWriter : State Id := { s with writer := .returned, queue := [], carry := none }

/-- `append_event_batch` of a gap event, and `requeue_gap_event` when it fails. -/
def appendGap (event : BrowserEvent Id) (gap : CollectionGap) (persisted : Bool) : State Id :=
  match newBatch [event] with
  | .ok _ =>
    if persisted then
      { s with persisted := s.persisted ++ [event], handed := s.handed ++ [event], writer := .nextGap }
    else
      { s with handed := s.handed ++ [event], gaps := s.gaps.pushFront ⟨⟨0, event.attachment⟩, gap⟩, writer := .sleep }
  | .error _ => { s with gaps := s.gaps.pushFront ⟨⟨0, event.attachment⟩, gap⟩, writer := .sleep }

/-- `append_event_batch` of a batch, and `record_batch_failure` when it fails. -/
def append (events : List (BrowserEvent Id)) (persisted : Bool) : State Id :=
  match newBatch events with
  | .ok _ =>
    if persisted then
      { s with persisted := s.persisted ++ events, handed := s.handed ++ events, writer := .nextGap }
    else { s.recordBatchFailure events with handed := s.handed ++ events, writer := .nextGap }
  | .error _ => { s.recordBatchFailure events with writer := .nextGap }

/-- A turn of the loop that fills a batch. -/
def fill (events : List (BrowserEvent Id)) : State Id :=
  if inner.config.storeBatchRows ≤ events.length then { s with writer := .append events }
  else
    match s.queue with
    | [] => { s with writer := .append events }
    | next :: rest =>
      if (events.map (·.size.bytes)).sum + next.size.bytes ≤ inner.config.storeBatchBytes then
        { s with queue := rest, writer := .batch (events ++ [next]) }
      else { s with queue := rest, carry := some next, writer := .append events }

/-- A step of `writer_loop`. -/
def write (now : ObservedTime) (size : EventSize) (persisted notified : Bool) : Option (State Id) :=
  match s.writer with
  | .nextGap =>
    match s.gaps.pop with
    | some (entry, gaps) => some { s with gaps := gaps, writer := .buildGap entry }
    | none => some { s with writer := .receive }
  | .buildGap entry => some (s.buildGap inner entry now size)
  | .appendGap event gap => some (s.appendGap event gap persisted)
  | .sleep => some (if s.stopping then s.returnWriter else { s with writer := .nextGap })
  | .receive =>
    match s.carry, s.queue with
    | some event, _ => some { s with carry := none, writer := .batch [event] }
    | none, event :: rest => some { s with queue := rest, writer := .batch [event] }
    | none, [] => some { s with writer := .empty }
  | .empty => some (if s.stopping then s.returnWriter else { s with writer := .wait })
  | .wait =>
    if notified then some { s with writer := .nextGap }
    else
      match s.queue with
      | event :: rest => some { s with queue := rest, writer := .batch [event] }
      | [] => none
  | .batch events => some (s.fill inner events)
  | .append events => some (s.append events persisted)
  | .returned => none

def exec : Input → Option (State Id)
  | .beginGeneration generation => s.beginGeneration generation
  | .suspendGeneration generation reason observed => some (s.suspendGeneration inner generation reason observed)
  | .submit generation observed cls => s.submit inner generation observed cls
  | .enqueue i built reserved => s.enqueue inner i built reserved
  | .recordAllocatedDrop i => s.recordAllocatedDrop i
  | .recordObservedDrops generation reason cls observed count =>
    if s.accepting = false ∨ s.generation ≠ generation then none
    else some (recordDrops inner generation reason cls observed count s)
  | .refuse => some { s with accepting := false }
  | .raiseStopping => some { s with stopping := true }
  | .write now size persisted notified => s.write inner now size persisted notified

end State

/-- What `begin_target` makes of a new target. -/
def State.initial (inner : PipelineInner Id) (generation : TargetGeneration) : State Id where
  generation := generation
  accepting := true
  lastOrdinal := 0
  lastSessionTime := ⟨0⟩
  gaps := ⟨inner.config.gapLedgerCapacity, []⟩
  stopping := false
  inFlight := []
  queue := []
  carry := none
  writer := .nextGap
  nextId := 0
  persisted := []
  handed := []
  allocated := []

def State.IsInitial (inner : PipelineInner Id) (s : State Id) : Prop := ∃ generation, s = .initial inner generation

/-- One target's pumps and its writer. -/
def pipeline (inner : PipelineInner Id) : System (State Id) Input Unit :=
  .ofExec (State.IsInitial inner) (State.exec inner)

end Krometrail.Events
