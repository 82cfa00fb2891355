import Krometrail.Core.Time
import Krometrail.Lib.Relations
import Krometrail.Segments.Writer

/-!
# The tables of the index

The rows of the SQLite index, as far as the store reads or constrains them, and the index as the state of these
tables.  A table with a primary key is a `Relation` of it.  Identifiers are compared by their bytes, as the BLOB
columns and the `Ord` of a UUID do.
-/

namespace Krometrail

open Relations

theorem Uuid.map_toNat_injective : Function.Injective fun uuid : Uuid => uuid.bytes.map UInt8.toNat := by
  intro a b h
  cases a
  cases b
  simpa using List.map_injective_iff.2 (fun _ _ => UInt8.toNat_inj.1) h

instance : LinearOrder Uuid := LinearOrder.lift' _ Uuid.map_toNat_injective

instance : LinearOrder SegmentId :=
  LinearOrder.lift' SegmentId.uuid fun a b h => by cases a; cases b; simpa using h

structure ArtifactId where
  uuid : Uuid
  deriving DecidableEq

structure EventId where
  uuid : Uuid
  deriving DecidableEq

structure SegmentRow where
  registration : SegmentRegistration
  retentionSequence : Nat
  /-- `created_unix_ms`. -/
  created : Int

/-- The columns of `frames` that identify and order a frame; the other ones copy its metadata and are read back with
the frame only. -/
structure FrameRow where
  frameId : FrameId
  sessionId : SessionId
  targetId : TargetId
  segmentId : SegmentId
  byteOffset : Nat
  sessionTime : SessionTime
  captureOrdinal : UInt64

/-- What a timeline row refers to: a frame by its identifier, or evidence of another kind. -/
inductive ObservationPayload where
  | frame (frameId : FrameId)
  | browserEvent (eventId : EventId)
  | other
  deriving DecidableEq

structure ObservationRow where
  sessionId : SessionId
  targetId : TargetId
  sessionTime : SessionTime
  captureOrdinal : Option UInt64
  payload : ObservationPayload

structure PinRow where
  pinId : Nat
  sessionId : SessionId
  targetId : TargetId
  range : SessionRange

structure PinSegmentRow where
  pinId : Nat
  segmentId : SegmentId

inductive ArtifactState where
  | staging | ready

structure ArtifactRow where
  artifactId : ArtifactId
  sessionId : SessionId
  targetId : TargetId
  state : ArtifactState
  startTime : UInt64
  relativePath : String
  byteLen : Nat
  created : Int

structure ArtifactFrameRow where
  artifactId : ArtifactId
  frameId : FrameId

inductive UsageClass where
  | segment | index | browserEvent | artifact
  deriving DecidableEq

structure UsageRow where
  usageClass : UsageClass
  objectKey : List UInt8
  sessionId : Option SessionId
  byteLen : Nat

inductive DeletionKind where
  | eviction | session

inductive DeletionState where
  | prepared | metadataRemoved

/-- The object, with its `relative_path`: of a segment it is the sealed name of its identifier. -/
inductive DeletionObjectKind where
  | segment (segmentId : SegmentId)
  | artifact (artifactId : ArtifactId) (relativePath : String)

structure DeletionObject where
  kind : DeletionObjectKind
  byteLen : Nat
  sessionId : SessionId

structure DeletionBatch where
  batchId : Uuid
  kind : DeletionKind
  sessionId : Option SessionId
  state : DeletionState
  objects : List DeletionObject

structure EvictedRangeRow where
  sessionId : SessionId
  targetId : TargetId
  range : SessionRange

structure GapRow where
  sessionId : SessionId
  targetId : TargetId

structure EventRow where
  eventId : EventId
  sessionId : SessionId
  targetId : TargetId
  sessionTime : SessionTime
  accountedBytes : Nat
  retentionSequence : Nat

/-- `SqliteIndex`.  The pages that the database takes on disk are not a function of its rows and are an input wherever
they are read. -/
structure SqliteIndex where
  sessions : Relation (id : SessionId → SessionId)
  targets : Relation (id : SessionId × TargetId → SessionId × TargetId)
  segments : Relation fun row : SegmentRow => row.registration.segmentId
  frames : Relation FrameRow.frameId
  observations : List ObservationRow
  gaps : List GapRow
  pins : Relation PinRow.pinId
  pinSegments : List PinSegmentRow
  artifacts : Relation ArtifactRow.artifactId
  artifactFrames : List ArtifactFrameRow
  usage : Relation fun row : UsageRow => (row.usageClass, row.objectKey)
  nextRetentionSequence : Nat
  deletionBatches : Relation DeletionBatch.batchId
  evictedRanges : List EvictedRangeRow
  events : Relation EventRow.eventId

namespace SqliteIndex

/-- The index that the schema is created with. -/
def empty : SqliteIndex where
  sessions := .empty
  targets := .empty
  segments := .empty
  frames := .empty
  observations := []
  gaps := []
  pins := .empty
  pinSegments := []
  artifacts := .empty
  artifactFrames := []
  usage := .empty
  nextRetentionSequence := 1
  deletionBatches := .empty
  evictedRanges := []
  events := .empty

/-- The rows of `frames` in a segment. -/
def framesOf (segmentId : SegmentId) (index : SqliteIndex) : List FrameRow :=
  index.frames.rows.filter fun row => row.segmentId = segmentId

@[simp] theorem mem_framesOf {segmentId : SegmentId} {index : SqliteIndex} {row : FrameRow} :
    row ∈ index.framesOf segmentId ↔ row ∈ index.frames ∧ row.segmentId = segmentId := by
  simp [framesOf]

/-- `FOREIGN KEY(segment_id) REFERENCES segments(segment_id)` of `frames`. -/
def FramesStored (index : SqliteIndex) : Prop :=
  ∀ row ∈ index.frames, ∃ segment ∈ index.segments, segment.registration.segmentId = row.segmentId

/-- `UNIQUE(segment_id, byte_offset_be)` of `frames`. -/
def OffsetsUnique (index : SqliteIndex) : Prop :=
  ∀ row ∈ index.frames, ∀ row' ∈ index.frames, row.segmentId = row'.segmentId → row.byteOffset = row'.byteOffset →
    row = row'

end SqliteIndex

end Krometrail
