import Krometrail.Index.Schema

/-!
# Registering segments and frames

The transactions that bring a segment and its frames into the index.  A segment row keeps the session, the target,
the start and the retention sequence it was first written with; the accounting row of the segment follows the size of
its file.  What each transaction leaves of the tables is said table by table.
-/

namespace Krometrail

open Relations

structure SegmentUsageDelta where
  removed : Nat
  added : Nat

namespace SegmentUsageDelta

def fromTransition (before : Option Nat) (after : Nat) : SegmentUsageDelta :=
  match before with
  | some before => if before ≥ after then ⟨before - after, 0⟩ else ⟨0, after - before⟩
  | none => ⟨0, after⟩

def combine (delta other : SegmentUsageDelta) : Result SegmentUsageDelta := do
  let removed ← okOr (checkedAdd delta.removed other.removed) (persistenceError "segment usage delta overflow")
  let added ← okOr (checkedAdd delta.added other.added) (persistenceError "segment usage delta overflow")
  return ⟨removed, added⟩

end SegmentUsageDelta

def segmentUsageKey (segmentId : SegmentId) : List UInt8 := segmentId.uuid.bytes

def SegmentRegistration.usageRow (registration : SegmentRegistration) : UsageRow where
  usageClass := .segment
  objectKey := segmentUsageKey registration.segmentId
  sessionId := some registration.sessionId
  byteLen := registration.fileBytes

namespace SqliteIndex

def ensureIdentity (sessionId : SessionId) (targetId : TargetId) (index : SqliteIndex) : SqliteIndex :=
  { index with
    sessions := index.sessions.upsert sessionId
    targets := index.targets.upsert (sessionId, targetId) }

/-- The row that the upsert of `register_segment_tx` leaves. -/
def registeredRow (now : Int) (registration : SegmentRegistration) (index : SqliteIndex) : SegmentRow :=
  match index.segments.find? registration.segmentId with
  | some row => { row with registration := { row.registration with
      state := registration.state, endTime := registration.endTime, fileBytes := registration.fileBytes
      payloadBytes := registration.payloadBytes, recordCount := registration.recordCount } }
  | none => ⟨registration, index.nextRetentionSequence, now⟩

/-- `register_segment_tx`, at the time `now` of the clock that stamps new rows. -/
def registerSegment (now : Int) (registration : SegmentRegistration) (index : SqliteIndex) :
    SqliteIndex × SegmentUsageDelta :=
  let index := index.ensureIdentity registration.sessionId registration.targetId
  let previousBytes := (index.usage.find? (.segment, segmentUsageKey registration.segmentId)).map (·.byteLen)
  ({ index with
     segments := index.segments.upsert (index.registeredRow now registration)
     nextRetentionSequence :=
       if (index.segments.find? registration.segmentId).isSome then index.nextRetentionSequence
       else index.nextRetentionSequence + 1
     usage := index.usage.upsert registration.usageRow },
   .fromTransition previousBytes registration.fileBytes)

def frameRow (frame : EncodedFrame) (address : FrameAddress) : FrameRow where
  frameId := frame.metadata.id
  sessionId := frame.metadata.sessionId
  targetId := frame.metadata.targetId
  segmentId := address.segmentId
  byteOffset := address.byteOffset
  sessionTime := frame.metadata.sessionTime
  captureOrdinal := frame.metadata.captureOrdinal.value

/-- `INSERT INTO frames` under the unique keys of the table. -/
def insertFrame (row : FrameRow) (index : SqliteIndex) : Option SqliteIndex :=
  if index.frames.rows.any fun row' => row'.frameId = row.frameId ∨
      (row'.segmentId = row.segmentId ∧ row'.byteOffset = row.byteOffset) ∨
      (row'.sessionId = row.sessionId ∧ row'.targetId = row.targetId ∧ row'.captureOrdinal = row.captureOrdinal)
  then none
  else some { index with frames := index.frames.upsert row }

/-- The timeline row of a frame. -/
def frameObservation (row : FrameRow) : ObservationRow where
  sessionId := row.sessionId
  targetId := row.targetId
  sessionTime := row.sessionTime
  captureOrdinal := some row.captureOrdinal
  payload := .frame row.frameId

def appendObservation (row : ObservationRow) (index : SqliteIndex) : SqliteIndex :=
  { index.ensureIdentity row.sessionId row.targetId with observations := index.observations ++ [row] }

def indexFrame (now : Int) (frame : EncodedFrame) (commit : FrameWriteCommit) (index : SqliteIndex) :
    Result (SqliteIndex × SegmentUsageDelta) := do
  let (index, sealedDelta) := match commit.sealedSegment with
    | some registration => index.registerSegment now registration
    | none => (index, ⟨0, 0⟩)
  let (index, activeDelta) := index.registerSegment now commit.activeSegment
  let usageDelta ← sealedDelta.combine activeDelta
  if commit.activeSegment.segmentId ≠ commit.address.segmentId ∨
      commit.activeSegment.sessionId ≠ frame.metadata.sessionId ∨
      commit.activeSegment.targetId ≠ frame.metadata.targetId then
    .error (persistenceError "segment append result does not match frame metadata")
  else do
  let row := frameRow frame commit.address
  let index ← okOr (index.insertFrame row) (persistenceError "could not index frame metadata")
  return (index.appendObservation (frameObservation row), usageDelta)

section

variable {now : Int} {registration : SegmentRegistration} {index index' : SqliteIndex} {row : FrameRow}

@[simp] theorem segments_registerSegment :
    (index.registerSegment now registration).1.segments = index.segments.upsert (index.registeredRow now registration) := rfl

variable {observation : ObservationRow}

@[simp] theorem frames_appendObservation :
    (index.appendObservation observation).frames = index.frames := rfl

@[simp] theorem segmentId_registeredRow :
    (index.registeredRow now registration).registration.segmentId = registration.segmentId := by
  unfold registeredRow
  split
  · rename_i row hrow
    exact (Relation.find?_eq_some.1 hrow).2
  · rfl

theorem registration_registeredRow
    (h : ∀ row ∈ index.segments, row.registration.segmentId = registration.segmentId →
      row.registration.sessionId = registration.sessionId ∧ row.registration.targetId = registration.targetId ∧
        row.registration.startTime = registration.startTime) :
    (index.registeredRow now registration).registration = registration := by
  unfold registeredRow
  split
  · rename_i row hrow
    obtain ⟨hmem, hid⟩ := Relation.find?_eq_some.1 hrow
    obtain ⟨hsession, htarget, hstart⟩ := h row hmem hid
    cases registration
    simp_all
  · rfl

theorem insertFrame_eq_some : index.insertFrame row = some index' ↔
    (∀ row' ∈ index.frames, row'.frameId ≠ row.frameId ∧
      ¬(row'.segmentId = row.segmentId ∧ row'.byteOffset = row.byteOffset) ∧
      ¬(row'.sessionId = row.sessionId ∧ row'.targetId = row.targetId ∧ row'.captureOrdinal = row.captureOrdinal)) ∧
    { index with frames := index.frames.upsert row } = index' := by
  unfold insertFrame
  split
  · rename_i h
    simp only [List.any_eq_true, decide_eq_true_eq, Relation.mem_rows] at h
    obtain ⟨row', hmem, hconflict⟩ := h
    refine iff_of_false (by simp) fun hall => ?_
    have := hall.1 row' hmem
    tauto
  · rename_i h
    simp only [List.any_eq_true, decide_eq_true_eq, Relation.mem_rows, not_exists, not_and, not_or] at h
    simp only [Option.some.injEq]
    exact ⟨fun heq => ⟨fun row' hrow' => by have := h row' hrow'; tauto, heq⟩, fun heq => heq.2⟩

end

end SqliteIndex

end Krometrail

/-!
## Index maintenance

The removals that recovery is made of.  Frame rows go with their timeline rows and with every artifact derived from
their segment; a segment row goes with its links to pins; accounting rows are set and removed one by one.
-/

namespace Krometrail

open Relations

/-- The frame row is in the segment, at or behind the offset. -/
def FrameRow.isIn (segmentId : SegmentId) (fromOffset : Option Nat) (row : FrameRow) : Bool :=
  row.segmentId = segmentId ∧ ∀ offset ∈ fromOffset, offset ≤ row.byteOffset

namespace SqliteIndex

/-- The artifact has a source frame in the segment. -/
def derivedFrom (segmentId : SegmentId) (index : SqliteIndex) (artifactId : ArtifactId) : Bool :=
  index.artifactFrames.any fun source =>
    source.artifactId = artifactId ∧ (index.framesOf segmentId).any fun row => row.frameId = source.frameId

/-- `DELETE FROM artifacts`, with its cascade to the source links. -/
def deleteArtifacts (condition : ArtifactRow → Bool) (index : SqliteIndex) : SqliteIndex :=
  let doomed := index.artifacts.rows.filter condition
  { index with
    artifacts := index.artifacts.delete condition
    artifactFrames := index.artifactFrames.filter fun source => !doomed.any fun row => row.artifactId = source.artifactId }

def purgeArtifactsForSegment (segmentId : SegmentId) (index : SqliteIndex) : SqliteIndex :=
  let doomed := index.artifacts.rows.filter fun row => index.derivedFrom segmentId row.artifactId
  { index.deleteArtifacts fun row => index.derivedFrom segmentId row.artifactId with
    usage := index.usage.delete fun row =>
      row.usageClass = .artifact ∧ doomed.any fun artifact => artifact.artifactId.uuid.bytes = row.objectKey }

/-- `DELETE FROM timeline_observations WHERE kind='frame' AND payload_sort_key IN (…)`. -/
def deleteFrameObservations (frameIds : List FrameId) (index : SqliteIndex) : SqliteIndex :=
  { index with observations := index.observations.filter fun row =>
      !frameIds.any fun frameId => row.payload = .frame frameId }

/-- `remove_frame_rows`: the index, and the frames that left it. -/
def removeFrameRows (segmentId : SegmentId) (fromOffset : Option Nat) (index : SqliteIndex) :
    SqliteIndex × List FrameId :=
  let ids := (index.frames.rows.filter (FrameRow.isIn segmentId fromOffset)).map (·.frameId)
  let index := (index.purgeArtifactsForSegment segmentId).deleteFrameObservations ids
  ({ index with frames := index.frames.delete fun row => ids.contains row.frameId }, ids)

/-- `DELETE FROM segments`, with its cascade to the pins. -/
def removeSegment (segmentId : SegmentId) (index : SqliteIndex) : SqliteIndex :=
  { index with
    segments := index.segments.delete fun row => row.registration.segmentId = segmentId
    pinSegments := index.pinSegments.filter fun row => !decide (row.segmentId = segmentId) }

def updateUsage (entry : UsageRow) (index : SqliteIndex) : Result SqliteIndex :=
  if entry.objectKey = [] then .error (persistenceError "usage object key must not be empty")
  else .ok { index with usage := index.usage.upsert entry }

def removeUsage (usageClass : UsageClass) (objectKey : List UInt8) (index : SqliteIndex) : SqliteIndex :=
  { index with usage := index.usage.delete fun row => row.usageClass = usageClass ∧ row.objectKey = objectKey }

section

variable {segmentId : SegmentId} {fromOffset : Option Nat} {index : SqliteIndex} {row : FrameRow}

@[simp] theorem isIn_none : FrameRow.isIn segmentId none row = decide (row.segmentId = segmentId) := by
  simp [FrameRow.isIn]

theorem mem_frames_removeFrameRows : row ∈ (index.removeFrameRows segmentId fromOffset).1.frames ↔
    row ∈ index.frames ∧ row.isIn segmentId fromOffset = false := by
  change row ∈ index.frames.delete _ ↔ _
  rw [Relation.mem_delete]
  refine and_congr_right fun hrow => ?_
  simp only [List.contains_eq_mem, List.mem_map, List.mem_filter, Relation.mem_rows, decide_eq_false_iff_not, not_exists,
    not_and]
  constructor
  · intro h
    by_contra hin
    exact h row ⟨hrow, by simpa using hin⟩ rfl
  · rintro hin row' ⟨hrow', hin'⟩ hid
    obtain rfl := Relation.eq_of_key hrow' hrow hid
    cases hin'.symm.trans hin

@[simp] theorem segments_removeFrameRows :
    (index.removeFrameRows segmentId fromOffset).1.segments = index.segments := rfl

@[simp] theorem frames_removeSegment : (index.removeSegment segmentId).frames = index.frames := rfl

@[simp] theorem mem_segments_removeSegment {row : SegmentRow} :
    row ∈ (index.removeSegment segmentId).segments ↔ row ∈ index.segments ∧ row.registration.segmentId ≠ segmentId := by
  simp [removeSegment]

end

end SqliteIndex

end Krometrail
