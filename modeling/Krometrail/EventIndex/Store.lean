import Krometrail.Lib.Sorting
import Krometrail.Segments.Wire
import Krometrail.Timeline.Ranges

/-!
# Rows of browser events

A browser event is kept as a row, a reference in the timeline and a row of its usage.  The columns are those of the
schema: what a CHECK constraint says about the width of a blob or the values of a column is the type of the column here.
What serialization and the payloads themselves decide is a parameter (`Payloads`).
-/

namespace Krometrail.EventIndex

structure BrowserEventId where
  uuid : Uuid

namespace BrowserEventId

theorem spelled_injective : Function.Injective fun id : BrowserEventId => BigEndian.ofBytes id.uuid.bytes := by
  rintro ⟨⟨bytes, hbytes⟩⟩ ⟨⟨bytes', hbytes'⟩⟩ h
  have h' : BigEndian.toBytes bytes.length (BigEndian.ofBytes bytes) = BigEndian.toBytes bytes'.length (BigEndian.ofBytes bytes') := by
    rw [hbytes, hbytes']
    exact congrArg (BigEndian.toBytes 16) h
  rw [BigEndian.toBytes_ofBytes, BigEndian.toBytes_ofBytes] at h'
  subst h'
  rfl

instance : LinearOrder BrowserEventId := LinearOrder.lift' _ spelled_injective

/-- `codec::id`. -/
def blob (id : BrowserEventId) : List UInt8 := id.uuid.bytes

theorem blob_injective : Function.Injective blob := by
  intro id id' h
  exact spelled_injective (congrArg BigEndian.ofBytes h)

end BrowserEventId

inductive BrowserSourceClock
  | cdpMonotonic | unixEpoch
  deriving DecidableEq

def sourceClockName : BrowserSourceClock → String
  | .cdpMonotonic => "cdp_monotonic"
  | .unixEpoch => "unix_epoch"

inductive BrowserEventSeverity
  | debug | info | warning | error
  deriving DecidableEq

structure BrowserSourceTimestamp where
  clock : BrowserSourceClock
  time : SourceTime
  rounded : Bool
  deriving DecidableEq

/-- The time is not negative. -/
def BrowserSourceTimestamp.new (clock : BrowserSourceClock) (time : SourceTime) (rounded : Bool) : Option BrowserSourceTimestamp :=
  if time.nanos.toInt < 0 then none else some ⟨clock, time, rounded⟩

structure BrowserEvent (P : Type) where
  id : BrowserEventId
  sessionId : SessionId
  targetId : TargetId
  attachmentGeneration : Nat
  ordinal : Nat
  sessionTime : SessionTime
  sourceTime : Option BrowserSourceTimestamp
  observedTime : ObservedTime
  severity : BrowserEventSeverity
  payload : P
  deriving DecidableEq

/-- What the payloads decide: their JSON text, kind, class and priority, the range of a collection gap, whether the
checks of `BrowserEvent::validate` on the payload pass, the bytes of a serialized batch, and the text of a timeline
reference. -/
structure Payloads (P : Type) where
  encode : P → String
  decode : String → Option P
  kind : P → String
  className : P → String
  compactPriority : P → Nat
  gapRange : P → Option SessionRange
  accepts : BrowserEvent P → Bool
  batchBytes : List (BrowserEvent P) → Nat
  reference : BrowserEventId → String

variable {P : Type}

namespace BrowserEvent

/-- `validate`. -/
def valid (payloads : Payloads P) (event : BrowserEvent P) : Bool :=
  !event.id.uuid.isNil && !event.sessionId.uuid.isNil && !event.targetId.uuid.isNil &&
    event.sessionTime.nanos.toNat ≤ event.observedTime.nanos.toNat &&
    event.sourceTime.all (fun source => 0 ≤ source.time.nanos.toInt) && payloads.accepts event

def affectedRange (payloads : Payloads P) (event : BrowserEvent P) : SessionRange :=
  (payloads.gapRange event.payload).getD (NonemptyInterval.pure event.sessionTime)

end BrowserEvent

/-- A row of `browser_events`. -/
structure RawEvent where
  eventId : BrowserEventId
  sessionId : SessionId
  targetId : TargetId
  ordinal : Nat
  attachmentGeneration : Nat
  sessionTime : SessionTime
  affectedStart : SessionTime
  affectedEnd : SessionTime
  sourceClock : Option BrowserSourceClock
  sourceTime : Option SourceTime
  sourceRounded : Bool
  observedTime : ObservedTime
  kind : String
  className : String
  severity : BrowserEventSeverity
  compactPriority : Nat
  payloadJson : String
  accountedBytes : Nat
  retentionSequence : Nat
  deriving DecidableEq

/-- A row of `timeline_observations` whose kind is `browser_event`; its sort key is any blob. -/
structure TimelineRow where
  sortKey : List UInt8
  sessionId : SessionId
  targetId : TargetId
  sessionTime : SessionTime
  sourceTime : Option SourceTime
  observedTime : ObservedTime
  payloadJson : String
  deriving DecidableEq

/-- A row of `usage` whose class is `browser_event`. -/
structure UsageRow where
  objectKey : List UInt8
  sessionId : Option SessionId
  byteLen : Nat
  deriving DecidableEq

inductive UnavailableReason
  | retentionEvicted | corruptDiscarded
  deriving DecidableEq

/-- A row of `browser_event_unavailable_ranges`. -/
structure UnavailableRow where
  sessionId : SessionId
  targetId : TargetId
  start : SessionTime
  stop : SessionTime
  firstOrdinal : Option Nat
  lastOrdinal : Option Nat
  eventCount : Nat
  reason : UnavailableReason
  deriving DecidableEq

/-- An `EventScope`; the row has its other parts. -/
structure EventScope where
  eventId : BrowserEventId
  sessionId : SessionId
  targetId : TargetId
  ordinal : Nat
  sessionTime : SessionTime

namespace RawEvent

variable (payloads : Payloads P) (raw : RawEvent)

def decodeScope : Result EventScope := do
  refuse (raw.ordinal = 0) (persistenceError "stored browser event ordinal is malformed")
  refuse (raw.eventId.uuid.isNil ∨ raw.sessionId.uuid.isNil ∨ raw.targetId.uuid.isNil ∨ raw.attachmentGeneration = 0 ∨
      raw.observedTime.nanos.toNat < raw.sessionTime.nanos.toNat ∨ raw.affectedEnd < raw.affectedStart ∨
      raw.sessionTime < raw.affectedStart ∨ raw.affectedEnd < raw.sessionTime)
    (persistenceError "stored browser event identity or time is malformed")
  return ⟨raw.eventId, raw.sessionId, raw.targetId, raw.ordinal, raw.sessionTime⟩

def decodeSource : Result (Option BrowserSourceTimestamp) :=
  match raw.sourceClock, raw.sourceTime with
  | none, none =>
    if raw.sourceRounded then .error (persistenceError "stored browser source timestamp is malformed") else .ok none
  | some clock, some time =>
    match BrowserSourceTimestamp.new clock time raw.sourceRounded with
    | some source => .ok (some source)
    | none => .error (persistenceError "stored browser source timestamp is malformed")
  | _, _ => .error (persistenceError "stored browser source timestamp is malformed")

end RawEvent

/-- Three identifiers, seven numbers, four integers, the source time, the projected texts and the allowance of a row. -/
def accountedBytes (payloads : Payloads P) (event : BrowserEvent P) (payloadBytes : Nat) : Result Nat :=
  let source := match event.sourceTime with
    | some source => (sourceClockName source.clock).utf8ByteSize + 16
    | none => 0
  let projection := 16 * 3 + 8 * 7 + 8 * 4 + source + (payloads.kind event.payload).utf8ByteSize +
    (payloads.className event.payload).utf8ByteSize
  okOr ((checkedAdd payloadBytes projection).bind (checkedAdd · 256))
    (persistenceError "browser event accounted bytes overflow")

namespace RawEvent

variable (payloads : Payloads P) (raw : RawEvent)

def decodeEvent : Result (BrowserEvent P) := do
  let scope ← raw.decodeScope
  let sourceTime ← raw.decodeSource
  let payload ← okOr (payloads.decode raw.payloadJson) (persistenceError "stored browser event payload is malformed")
  let event : BrowserEvent P := ⟨scope.eventId, scope.sessionId, scope.targetId, raw.attachmentGeneration, scope.ordinal,
    scope.sessionTime, sourceTime, raw.observedTime, raw.severity, payload⟩
  refuse (raw.attachmentGeneration = 0 ∨ event.valid payloads = false) (persistenceError "stored browser event is invalid")
  let affected := event.affectedRange payloads
  let accounted ← EventIndex.accountedBytes payloads event raw.payloadJson.utf8ByteSize
  refuse (raw.kind ≠ payloads.kind event.payload ∨ raw.className ≠ payloads.className event.payload ∨
      raw.compactPriority ≠ payloads.compactPriority event.payload ∨ raw.affectedStart ≠ affected.fst ∨
      raw.affectedEnd ≠ affected.snd ∨ raw.accountedBytes ≠ accounted)
    (persistenceError "stored browser event projection is inconsistent")
  refuse (raw.retentionSequence = 0) (persistenceError "stored retention sequence is malformed")
  return event

end RawEvent

end Krometrail.EventIndex

/-!
## The store of browser events

Appending a batch, evicting the oldest events and recovering the three tables.  A function of one transaction answers
with an error or the rows that it commits; an error leaves the rows as they were before the transaction.  The rows of
sessions and targets, which the events refer to, are left out.
-/

namespace Krometrail.EventIndex

open Sorting (sortByKey)

variable {P : Type}

/-- The tables; a row that is inserted comes last. -/
structure Db where
  events : List RawEvent
  timeline : List TimelineRow
  usage : List UsageRow
  unavailable : List UnavailableRow
  /-- `retention_sequence.next_value`. -/
  nextSequence : Nat
  deriving DecidableEq

/-- An `EventRecoveryReport`. -/
structure EventRecoveryReport where
  timelineRowsRepaired : Nat
  usageRowsRepaired : Nat
  corruptRowsDiscarded : Nat
  orphanTimelineRowsDiscarded : Nat
  orphanUsageRowsRemoved : Nat

/-- `EventRecoveryReport::default`. -/
def EventRecoveryReport.empty : EventRecoveryReport := ⟨0, 0, 0, 0, 0⟩

section Dependents

variable (payloads : Payloads P) (event : BrowserEvent P)

/-- The row of `timeline_observation`. -/
def timelineRow : TimelineRow :=
  ⟨event.id.blob, event.sessionId, event.targetId, event.sessionTime, event.sourceTime.map (·.time), event.observedTime,
    payloads.reference event.id⟩

def usageRow (accounted : Nat) : UsageRow := ⟨event.id.blob, some event.sessionId, accounted⟩

variable (db : Db)

/-- `TimelineObservation::new` refuses an event that was observed before its session time. -/
def appendObservation : Result Db := do
  refuse (event.observedTime.nanos.toNat < event.sessionTime.nanos.toNat)
    (persistenceError "browser event timeline projection is invalid")
  return { db with timeline := db.timeline ++ [timelineRow payloads event] }

def validateTimelineReference : Result Unit :=
  refuse ((db.timeline.filter (· = timelineRow payloads event)).length ≠ 1)
    (persistenceError "browser event timeline reference disagrees with its row")

def hasTimelineReference : Bool := db.timeline.any (·.sortKey = event.id.blob)

def ensureTimeline : Result Db := do
  if hasTimelineReference event db then
    validateTimelineReference payloads event db
    return db
  else appendObservation payloads event db

def ensureUsage (accounted : Nat) : Result Db :=
  match db.usage.find? (·.objectKey = event.id.blob) with
  | some existing =>
    if existing = usageRow event accounted then .ok db
    else .error (persistenceError "browser event usage disagrees with its row")
  | none => .ok { db with usage := db.usage ++ [usageRow event accounted] }

def ensureEventDependents (accounted : Nat) : Result Db := do
  let db ← ensureTimeline payloads event db
  ensureUsage event db accounted

/-- Answers whether the reference had to be repaired. -/
def reconcileTimeline : Result (Bool × Db) := do
  if hasTimelineReference event db && (validateTimelineReference payloads event db).isOk then return (false, db)
  else
    let db := { db with timeline := db.timeline.filter (·.sortKey ≠ event.id.blob) }
    let db ← appendObservation payloads event db
    return (true, db)

def reconcileUsage (accounted : Nat) : Bool × Db :=
  if db.usage.find? (·.objectKey = event.id.blob) = some (usageRow event accounted) then (false, db)
  else
    -- ON CONFLICT DO UPDATE
    (true, { db with usage := db.usage.filter (·.objectKey ≠ event.id.blob) ++ [usageRow event accounted] })

end Dependents

namespace Db

variable (db : Db)

/-- `remove_event_dependents_tx`. -/
def removeEventDependents (id : BrowserEventId) : Db :=
  { db with
    timeline := db.timeline.filter (·.sortKey ≠ id.blob)
    usage := db.usage.filter (·.objectKey ≠ id.blob) }

def deleteEvent (id : BrowserEventId) : Db := { db with events := db.events.filter (·.eventId ≠ id) }

end Db

/-- The position of the range of the scope that ends last, the one inserted last among equals. -/
def unavailableTail (rows : List UnavailableRow) (sessionId : SessionId) (targetId : TargetId) (reason : UnavailableReason) :
    Option Nat :=
  (rows.zipIdx.filter fun row => row.1.sessionId = sessionId ∧ row.1.targetId = targetId ∧ row.1.reason = reason).foldl
    (fun tail row =>
      match tail with
      | none => some row
      | some tail => if tail.1.stop ≤ row.1.stop then some row else some tail) none |>.map (·.2)

/-- The event goes on where the range ends, by its ordinal or its time. -/
def UnavailableRow.takesIn (tail : UnavailableRow) (time : SessionTime) (ordinal : Option Nat) : Bool :=
  let ordinalContiguous := match tail.lastOrdinal, ordinal with
    | some old, some new => decide (new ≤ saturatingAdd old 1)
    | _, _ => false
  let timeContiguous := decide (time ≤ tail.stop.next)
  (ordinalContiguous || timeContiguous) && tail.firstOrdinal.isSome == ordinal.isSome

/-- One event at a time is recorded as unavailable, with its ordinal if it is known. -/
def recordUnavailable (db : Db) (sessionId : SessionId) (targetId : TargetId) (time : SessionTime) (ordinal : Option Nat)
    (reason : UnavailableReason) : Result Db :=
  let insert : Result Db := do
    refuse (sessionId.uuid.isNil ∨ targetId.uuid.isNil) (persistenceError "browser event unavailable range is invalid")
    return { db with unavailable := db.unavailable ++ [⟨sessionId, targetId, time, time, ordinal, ordinal, 1, reason⟩] }
  match unavailableTail db.unavailable sessionId targetId reason with
  | none => insert
  | some i =>
    match db.unavailable[i]? with
    | none => insert
    | some tail =>
      if tail.takesIn time ordinal then do
        let count ← okOr (checkedAdd tail.eventCount 1) (persistenceError "browser event unavailable count overflow")
        return { db with
          unavailable := db.unavailable.set i { tail with
            start := min tail.start time
            stop := max tail.stop time
            firstOrdinal := Option.map₂ min tail.firstOrdinal ordinal
            lastOrdinal := Option.map₂ max tail.lastOrdinal ordinal
            eventCount := count } }
      else insert

section Append

variable (payloads : Payloads P)

def conflictingRows (db : Db) (event : BrowserEvent P) : List RawEvent :=
  sortByKey RawEvent.eventId <| db.events.filter fun raw => raw.eventId = event.id ∨
    (raw.sessionId = event.sessionId ∧ raw.targetId = event.targetId ∧ raw.ordinal = event.ordinal)

def rawEvent (event : BrowserEvent P) (accounted sequence : Nat) : RawEvent where
  eventId := event.id
  sessionId := event.sessionId
  targetId := event.targetId
  ordinal := event.ordinal
  attachmentGeneration := event.attachmentGeneration
  sessionTime := event.sessionTime
  affectedStart := (event.affectedRange payloads).fst
  affectedEnd := (event.affectedRange payloads).snd
  sourceClock := event.sourceTime.map (·.clock)
  sourceTime := event.sourceTime.map (·.time)
  sourceRounded := event.sourceTime.any (·.rounded)
  observedTime := event.observedTime
  kind := payloads.kind event.payload
  className := payloads.className event.payload
  severity := event.severity
  compactPriority := payloads.compactPriority event.payload
  payloadJson := payloads.encode event.payload
  accountedBytes := accounted
  retentionSequence := sequence

/-- `append_event_tx`: the bytes that it inserts, and the rows. -/
def appendEvent [DecidableEq P] (db : Db) (event : BrowserEvent P) : Result (Nat × Db) :=
  match conflictingRows db event with
  | [] => do
    let accounted ← accountedBytes payloads event (payloads.encode event.payload).utf8ByteSize
    let sequence := db.nextSequence
    -- the sequence of a row is unique
    refuse (sequence = 0 ∨ ∃ raw ∈ db.events, raw.retentionSequence = sequence) (persistenceError "could not persist browser event")
    let db := { db with events := db.events ++ [rawEvent payloads event accounted sequence], nextSequence := sequence + 1 }
    let db ← ensureEventDependents payloads event db accounted
    return (accounted, db)
  | [raw] => do
    let stored ← raw.decodeEvent payloads
    if stored = event then
      let db ← ensureEventDependents payloads event db raw.accountedBytes
      return (0, db)
    else throw (persistenceError "browser event identity conflicts with its durable value")
  | _ => .error (persistenceError "browser event identity conflicts with its durable value")

def maxEventEvictionRows : Nat := 256

def maxEventEvictionBytes : Nat := 1024 * 1024

/-- The loop of `evict_events_tx` over its candidates: the bytes that were removed, and the rows. -/
def evictCandidates (required : Option Nat) : List RawEvent → Nat → Db → Result (Nat × Db)
  | [], removed, db => .ok (removed, db)
  | raw :: rest, removed, db =>
    if 0 < removed ∧ maxEventEvictionBytes < saturatingAdd removed raw.accountedBytes then .ok (removed, db)
    else do
      let scope ← raw.decodeScope
      let db := (db.removeEventDependents scope.eventId).deleteEvent scope.eventId
      let db ← recordUnavailable db scope.sessionId scope.targetId scope.sessionTime (some scope.ordinal) .retentionEvicted
      let removed ← okOr (checkedAdd removed raw.accountedBytes) (persistenceError "browser event eviction byte count overflow")
      if required.any (· ≤ removed) then return (removed, db) else evictCandidates required rest removed db

/-- `evict_events_tx`. -/
def evictEvents (db : Db) (before required : Option Nat) : Result (Nat × Db) :=
  let candidates := (sortByKey RawEvent.retentionSequence (db.events.filter fun raw => before.all (raw.retentionSequence < ·))).take
    maxEventEvictionRows
  evictCandidates required candidates 0 db

def appendEvents [DecidableEq P] : List (BrowserEvent P) → Nat → Db → Result (Nat × Db)
  | [], inserted, db => .ok (inserted, db)
  | event :: rest, inserted, db => do
    refuse (event.valid payloads = false) (persistenceError "browser event is invalid")
    let (bytes, db) ← appendEvent payloads db event
    let inserted ← okOr (checkedAdd inserted bytes) (persistenceError "browser event batch usage overflow")
    appendEvents rest inserted db

/-- The eviction of a transaction that would exceed the budget, with the total after it. -/
def makeRoom (db : Db) (budget total : Nat) : Result (Nat × Db) :=
  if budget < total then do
    let (removed, db) ← evictEvents db none (some (total - budget))
    return (total - removed, db)
  else .ok (total, db)

/-- `append_browser_event_batch`, as one transaction. -/
def appendBatch [DecidableEq P] (db : Db) (batch : List (BrowserEvent P)) (budget managedBefore : Nat) : Result Db := do
  refuse (batch = [] ∨ 128 < batch.length ∨ 256 * 1024 < payloads.batchBytes batch)
    (persistenceError "browser event batch exceeds its bounded contract")
  let (inserted, db) ← appendEvents payloads batch 0 db
  let total ← okOr (checkedAdd managedBefore inserted) (persistenceError "managed usage overflow")
  let (total, db) ← makeRoom db budget total
  refuse (budget < total) (.new .budgetExhausted "disk budget cannot retain the browser event batch")
  return db

end Append

section Recover

variable (payloads : Payloads P)

def recoveryChunkRows : Nat := 128

def recoverRow (state : EventRecoveryReport × Db) (raw : RawEvent) : Result (EventRecoveryReport × Db) := do
  let (report, db) := state
  let scope ← raw.decodeScope
  match raw.decodeEvent payloads with
  | .ok event =>
    let (repaired, db) ← reconcileTimeline payloads event db
    let reconciled := reconcileUsage event db raw.accountedBytes
    return ({ report with
      timelineRowsRepaired := report.timelineRowsRepaired + repaired.toNat
      usageRowsRepaired := report.usageRowsRepaired + reconciled.1.toNat }, reconciled.2)
  | .error _ =>
    let db := (db.removeEventDependents scope.eventId).deleteEvent scope.eventId
    let db ← recordUnavailable db scope.sessionId scope.targetId scope.sessionTime (some scope.ordinal) .corruptDiscarded
    return ({ report with corruptRowsDiscarded := report.corruptRowsDiscarded + 1 }, db)

/-- The rows of `raw_rows_after`, without their limit. -/
def rowsAfter (db : Db) (after : Option BrowserEventId) : List RawEvent :=
  sortByKey RawEvent.eventId (db.events.filter fun raw => after.all (· < raw.eventId))

/-- The loop over the chunks, each of which is a transaction; `fuel` is more than the rows that are left. -/
def recoverChunks : Nat → Option BrowserEventId → EventRecoveryReport → Db → Result EventRecoveryReport × Db
  | 0, _, report, db => (.ok report, db)
  | fuel + 1, after, report, db =>
    let rows := (rowsAfter db after).take recoveryChunkRows
    if rows = [] then (.ok report, db)
    else
      match rows.foldlM (recoverRow payloads) (report, db) with
      | .error error => (.error error, db)
      | .ok (report, db) =>
        if rows.length < recoveryChunkRows then (.ok report, db)
        else recoverChunks fuel (rows.getLast?.map (·.eventId)) report db

/-- The references without a row, without their limit. -/
def orphanTimeline (db : Db) : List TimelineRow :=
  db.timeline.filter fun row => ∀ raw ∈ db.events, raw.eventId.blob ≠ row.sortKey

def discardOrphan (state : EventRecoveryReport × Db) (row : TimelineRow) : Result (EventRecoveryReport × Db) := do
  let (report, db) := state
  refuse (row.sortKey.length ≠ 16) (persistenceError "stored identifier is malformed")
  refuse (row.sessionId.uuid.isNil ∨ row.targetId.uuid.isNil ∨ row.sortKey.all (· == 0))
    (persistenceError "stored orphan event timeline identity is malformed")
  let db ← recordUnavailable db row.sessionId row.targetId row.sessionTime none .corruptDiscarded
  return ({ report with orphanTimelineRowsDiscarded := report.orphanTimelineRowsDiscarded + 1 },
    { db with timeline := db.timeline.filter (·.sortKey ≠ row.sortKey) })

def recoverOrphanTimeline : Nat → EventRecoveryReport → Db → Result EventRecoveryReport × Db
  | 0, report, db => (.ok report, db)
  | fuel + 1, report, db =>
    let rows := (orphanTimeline db).take recoveryChunkRows
    match rows.foldlM discardOrphan (report, db) with
    | .error error => (.error error, db)
    | .ok (report, db) =>
      if rows.length < recoveryChunkRows then (.ok report, db) else recoverOrphanTimeline fuel report db

def orphanUsage (db : Db) : List UsageRow :=
  db.usage.filter fun row => ∀ raw ∈ db.events, raw.eventId.blob ≠ row.objectKey

def removeOrphan (state : EventRecoveryReport × Db) (row : UsageRow) : EventRecoveryReport × Db :=
  ({ state.1 with orphanUsageRowsRemoved := state.1.orphanUsageRowsRemoved + 1 },
    { state.2 with usage := state.2.usage.filter (·.objectKey ≠ row.objectKey) })

def recoverOrphanUsage : Nat → EventRecoveryReport → Db → EventRecoveryReport × Db
  | 0, report, db => (report, db)
  | fuel + 1, report, db =>
    let rows := (orphanUsage db).take recoveryChunkRows
    let state := rows.foldl removeOrphan (report, db)
    if rows.length < recoveryChunkRows then state else recoverOrphanUsage fuel state.1 state.2

/-- `recover_browser_events`: its answer, and the rows, also where it fails. -/
def recoverBrowserEvents (db : Db) : Result EventRecoveryReport × Db :=
  match recoverChunks payloads (db.events.length + 1) none .empty db with
  | (.error error, db) => (.error error, db)
  | (.ok report, db) =>
    match recoverOrphanTimeline (db.timeline.length + 1) report db with
    | (.error error, db) => (.error error, db)
    | (.ok report, db) =>
      let recovered := recoverOrphanUsage (db.usage.length + 1) report db
      (.ok recovered.1, recovered.2)

end Recover

/-- `query_events` over the rows that it selects. -/
def queryEvents (payloads : Payloads P) (db : Db) (rows : List RawEvent) : Result (List (BrowserEvent P)) :=
  rows.mapM fun raw => do
    let event ← raw.decodeEvent payloads
    validateTimelineReference payloads event db
    return event

end Krometrail.EventIndex
