import Krometrail.Artifacts.Cache

/-!
# The tables and files of the artifact store

The rows of the artifacts and their usage, the frames they are made of, and the files under the names of the artifacts,
with what a publication and a removal do to them.
-/

namespace Krometrail.Publications

open Cache (Sha256Digest)

structure ArtifactId where
  uuid : Uuid
  deriving DecidableEq

/-- A `RetainedArtifactKind`. -/
inductive Kind
  | image
  | video
  deriving DecidableEq

inductive ArtifactState
  | staging
  | ready
  deriving DecidableEq

/-- An `ArtifactSourceFingerprint`. -/
structure Source where
  frameId : FrameId
  encodedSha256 : Sha256Digest
  deriving DecidableEq

/-- An `ArtifactPublication` or a `VideoArtifactPublication`. -/
structure Publication where
  kind : Kind
  sessionId : SessionId
  targetId : TargetId
  artifactId : ArtifactId
  cacheKey : Sha256Digest
  sources : List Source
  encodedBytes : List UInt8

/-- A row of `artifacts`, with its rows of `artifact_frames`. -/
structure ArtifactRow where
  artifactId : ArtifactId
  sessionId : SessionId
  targetId : TargetId
  state : ArtifactState
  kind : Kind
  outputHash : Sha256Digest
  byteLen : Nat
  cacheKey : Sha256Digest
  sources : List Source
  deriving DecidableEq

structure Frame where
  frameId : FrameId
  sessionId : SessionId
  targetId : TargetId
  segmentId : SegmentId
  deriving DecidableEq

/-- An `ArtifactReadSnapshot`. -/
structure ArtifactReadSnapshot where
  row : ArtifactRow
  frames : List Frame
  deriving DecidableEq

/-- The files of an artifact are its final one, under its id with the extension of its kind, and its temporary one. -/
structure Store where
  rows : List ArtifactRow
  usage : List (ArtifactId × SessionId)
  frames : List Frame
  finals : ArtifactId → Option (List UInt8)
  temps : ArtifactId → Option (List UInt8)

/-- What the store has of an artifact. -/
structure Remains where
  row : Option ArtifactRow
  usage : Bool
  final : Option (List UInt8)
  temp : Option (List UInt8)
  deriving DecidableEq

def Remains.nothing : Remains := ⟨none, false, none, none⟩

/-- The row that a publication stages: its manifest has been compared with the digest of the bytes. -/
def Publication.row (sha256 : List UInt8 → Sha256Digest) (p : Publication) (state : ArtifactState) : ArtifactRow :=
  ⟨p.artifactId, p.sessionId, p.targetId, state, p.kind, sha256 p.encodedBytes, p.encodedBytes.length, p.cacheKey, p.sources⟩

/-- `validate_stored_artifact`: the row is ready, the bytes are those it was made of, and the sources the expected ones. -/
def validateStoredArtifact (sha256 : List UInt8 → Sha256Digest) (row : ArtifactRow) (bytes : List UInt8)
    (expected : List Source) : Bool :=
  row.state = .ready ∧ bytes.length = row.byteLen ∧ sha256 bytes = row.outputHash ∧ expected = row.sources

namespace Store

variable (sha256 : List UInt8 → Sha256Digest) (store : Store)

def artifactRow (id : ArtifactId) : Option ArtifactRow := store.rows.find? (·.artifactId = id)

def artifactByCache (key : Sha256Digest) (readyOnly : Bool) : Option ArtifactRow :=
  store.rows.find? fun row => row.cacheKey = key ∧ (readyOnly → row.state = .ready)

def frame (id : FrameId) : Option Frame := store.frames.find? (·.frameId = id)

def remains (id : ArtifactId) : Remains :=
  ⟨store.artifactRow id, store.usage.any (·.1 = id), store.finals id, store.temps id⟩

def artifactSnapshot (row : ArtifactRow) : ArtifactReadSnapshot :=
  ⟨row, row.sources.filterMap fun source => store.frame source.frameId⟩

def validateSourceIds (p : Publication) : Bool :=
  p.sources ≠ [] ∧ p.sources.all fun source =>
    (store.frame source.frameId).any fun frame => frame.sessionId = p.sessionId ∧ frame.targetId = p.targetId

/-- A `StageArtifact`: the store with the staged row, or the row that has the cache key already. -/
inductive StageArtifact
  | staged (store : Store)
  | existing (row : ArtifactRow)

/-- `stage_artifact_parts`, in one transaction. -/
def stageArtifact (p : Publication) : Option StageArtifact :=
  match store.artifactByCache p.cacheKey false with
  | some row => some (.existing row)
  | none =>
    if store.validateSourceIds p ∧ store.artifactRow p.artifactId = none ∧ store.usage.all (·.1 ≠ p.artifactId) then
      some (.staged { store with
        rows := store.rows ++ [p.row sha256 .staging]
        usage := store.usage ++ [(p.artifactId, p.sessionId)] })
    else none

/-- `finalize_artifact`, in one transaction.  The row that it has checked is the one that it updates. -/
def finalizeArtifact (p : Publication) : Option Store :=
  (store.artifactRow p.artifactId).bind fun row =>
    if row.state = .staging ∧ row.cacheKey = p.cacheKey ∧ row.sessionId = p.sessionId ∧ row.targetId = p.targetId ∧
        store.validateSourceIds p then
      some { store with
        rows := store.rows.map fun r =>
          if r.artifactId = p.artifactId ∧ r.state = .staging ∧ r.cacheKey = p.cacheKey then { r with state := .ready } else r }
    else none

def setTemp (id : ArtifactId) (temp : Option (List UInt8)) : Store :=
  { store with temps := Function.update store.temps id temp }

def setFinal (id : ArtifactId) (final : Option (List UInt8)) : Store :=
  { store with finals := Function.update store.finals id final }

/-- The objects of a `DeletionBatch`. -/
structure DeletionBatch where
  artifacts : List ArtifactId
  segments : List SegmentId
  session : Option SessionId

/-- How far `remove_objects` gets: nothing was changed, some files were moved to the trash, the rows were removed as well, the
usage too, or the accounts have followed. -/
inductive Reach
  | prepared
  | staging (files : Nat)
  | metadataRemoved
  | finalized
  | done
  deriving DecidableEq

/-- Whether a removal is not broken off once it has changed something. -/
def Reach.isWhole (reach : Reach) : Bool := reach = .prepared ∨ reach = .finalized ∨ reach = .done

/-- `RemovalWorker::stage`. -/
def stageRemoval (artifacts : List ArtifactId) : Store :=
  { store with finals := fun id => if id ∈ artifacts then none else store.finals id }

def removeDeletionMetadata (batch : DeletionBatch) : Store :=
  { store with
    rows := store.rows.filter fun row => row.artifactId ∉ batch.artifacts ∧ batch.session ≠ some row.sessionId
    frames := store.frames.filter fun frame => frame.segmentId ∉ batch.segments }

def finalizeDeletion (batch : DeletionBatch) : Store :=
  { store with usage := store.usage.filter fun u => u.1 ∉ batch.artifacts ∧ batch.session ≠ some u.2 }

def removeObjects (batch : DeletionBatch) : Reach → Store
  | .prepared => store
  | .staging files => store.stageRemoval (batch.artifacts.take files)
  | .metadataRemoved => (store.stageRemoval batch.artifacts).removeDeletionMetadata batch
  | .finalized | .done => ((store.stageRemoval batch.artifacts).removeDeletionMetadata batch).finalizeDeletion batch

/-- What an eviction or the deletion of a session is about. -/
inductive Victim
  | artifact (id : ArtifactId)
  | segment (id : SegmentId)
  | session (id : SessionId)

/-- Whether a reclaim that protects an artifact may pick the victim.  A segment takes the artifacts that are made of it. -/
def Victim.spares (protectedArtifact : ArtifactId) : Victim → Bool
  | .artifact id => id ≠ protectedArtifact
  | .segment _ => true
  | .session _ => false

def artifactsForSegment (segment : SegmentId) : List ArtifactId :=
  (store.rows.filter fun row => row.sources.any fun source =>
    store.frames.any fun frame => frame.frameId = source.frameId ∧ frame.segmentId = segment).map ArtifactRow.artifactId

def deletionBatch : Victim → DeletionBatch
  | .artifact id => ⟨[id], [], none⟩
  | .segment id => ⟨store.artifactsForSegment id, [id], none⟩
  | .session id =>
    let segments := (store.frames.filter (·.sessionId = id)).map Frame.segmentId
    let artifacts := (store.rows.filter (·.sessionId = id)).map ArtifactRow.artifactId
    ⟨artifacts ++ segments.flatMap store.artifactsForSegment, segments, some id⟩

end Store

end Krometrail.Publications
