import Krometrail.Artifacts.Cache
import Krometrail.Core.UuidText
import Krometrail.Lib.Relations
import Krometrail.Segments.Wire

/-!
# The recovery of the artifact store

At startup the rows of the artifacts, the rows of their sources, their usage and the files of the artifact directory are
reconciled.  A staging row with a complete file is finalized, a row without one is removed by the deletion journal, and a
file whose name is the identifier of no row is removed.  The deletion journal and the files never fail here.
-/

namespace Krometrail.ArtifactRecovery

open Cache (Sha256Digest)
open Relations Results Sorting

structure ArtifactId where
  uuid : Uuid
  deriving DecidableEq

/-- A `temporal_vision::ArtifactKind`. -/
inductive ImageKind
  | beforeDuringAfter | storyboard | differenceMap | regionFilmstrip | motionHistory
  deriving DecidableEq

/-- A `RetainedArtifactKind`. -/
inductive Kind
  | image (kind : ImageKind)
  | temporalVideo

def Kind.extension : Kind → List Char
  | .image _ => "png".toList
  | .temporalVideo => "mp4".toList

inductive ArtifactState
  | staging | ready
  deriving DecidableEq

/-- A row of `artifacts` as it is stored, up to what the checks of the schema enforce (the media type is that of the kind). -/
structure RawArtifact where
  artifactId : ArtifactId
  sessionId : SessionId
  targetId : TargetId
  state : ArtifactState
  kind : Kind
  startTime : Nat
  endTime : Nat
  manifestJson : String
  manifestHash : Sha256Digest
  outputHash : Sha256Digest
  relativePath : List Char
  byteLen : Nat
  cacheKey : Sha256Digest
  cacheSchemaVersion : Int
  adapterVersion : String
  generatorName : String
  generatorVersion : String

/-- A row of `artifact_frames`. -/
structure SourceRow where
  artifactId : ArtifactId
  sourcePosition : Nat
  frameId : FrameId
  encodedHash : Sha256Digest

structure FrameRow where
  frameId : FrameId
  sessionId : SessionId
  targetId : TargetId

/-- A row of `usage` of the class of artifacts. -/
structure UsageRow where
  objectKey : List UInt8
  sessionId : Option SessionId
  byteLen : Nat
  deriving DecidableEq

/-- A file of the artifact directory. -/
structure File where
  name : List Char
  bytes : List UInt8

/-- The tables that recovery reads and the files of the directory; the artifacts are listed by their identifiers. -/
structure Store where
  artifacts : Relation RawArtifact.artifactId
  sources : Relation fun row : SourceRow => (row.artifactId, row.sourcePosition)
  frames : Relation FrameRow.frameId
  usage : Relation UsageRow.objectKey
  files : Relation File.name

/-- `file_stem` and `extension` of the name of a file, which are split at its last dot unless nothing stands before it. -/
def splitExtension (name : List Char) : List Char × Option (List Char) :=
  match name.reverse.dropWhile (· ≠ '.') with
  | [] => (name, none)
  | [_] => (name, none)
  | _ :: before => (before.reverse, some (name.reverse.takeWhile (· ≠ '.')).reverse)

/-- `format!("{artifact_id}.{extension}")`. -/
def fileName (id : ArtifactId) (extension : List Char) : List Char := UuidText.hyphenated id.uuid ++ '.' :: extension

def tempPath (id : ArtifactId) : List Char := fileName id "tmp".toList

/-- The identifier that names a file of the kinds that recovery looks at. -/
def namedBy (name : List Char) : Option ArtifactId :=
  match splitExtension name with
  | (_, none) => none
  | (stem, some extension) =>
    if extension ∈ ["png".toList, "mp4".toList, "tmp".toList] then (UuidText.parse stem).map ArtifactId.mk else none

/-- An `ArtifactRow`. -/
structure ArtifactRow where
  artifactId : ArtifactId
  sessionId : SessionId
  targetId : TargetId
  state : ArtifactState
  kind : Kind
  startTime : Nat
  endTime : Nat
  manifestJson : String
  manifestHash : Sha256Digest
  outputHash : Sha256Digest
  relativePath : List Char
  byteLen : Nat
  cacheKey : Sha256Digest
  generatorName : String
  generatorVersion : String

def decodeArtifact (raw : RawArtifact) : Result ArtifactRow :=
  if raw.relativePath = [] ∨ '/' ∈ raw.relativePath ∨ '\\' ∈ raw.relativePath ∨ raw.relativePath = ['.'] ∨
      raw.relativePath = ['.', '.'] then
    .error (persistenceError "stored retention path is invalid")
  else if raw.relativePath ≠ fileName raw.artifactId raw.kind.extension then
    .error (persistenceError "stored artifact kind, media type, and relative path disagree")
  else if raw.cacheSchemaVersion ≤ 0 ∨ 2 ^ 32 ≤ raw.cacheSchemaVersion then
    .error (persistenceError "stored artifact cache version is malformed")
  else if isBlank raw.adapterVersion then .error (persistenceError "stored artifact adapter version is empty")
  else if isBlank raw.generatorName then .error (persistenceError "stored artifact generator name is empty")
  else if isBlank raw.generatorVersion then .error (persistenceError "stored artifact generator version is empty")
  else
    .ok ⟨raw.artifactId, raw.sessionId, raw.targetId, raw.state, raw.kind, raw.startTime, raw.endTime, raw.manifestJson,
      raw.manifestHash, raw.outputHash, raw.relativePath, raw.byteLen, raw.cacheKey, raw.generatorName, raw.generatorVersion⟩

/-- What an `ArtifactManifest` is compared by. -/
structure ImageManifest where
  artifactId : ArtifactId
  artifactKind : ImageKind
  startTime : Nat
  endTime : Nat
  outputHash : Sha256Digest
  algorithmName : String
  algorithmVersion : String
  sourceFrameIds : List FrameId

/-- What a `TemporalVideoManifest` is compared by. -/
structure VideoManifest where
  artifactId : ArtifactId
  startTime : Nat
  endTime : Nat
  outputHash : Sha256Digest
  inputFrameIds : List FrameId

/-- The digest and the two decoders of manifests. -/
structure Codec where
  sha256 : List UInt8 → Sha256Digest
  imageManifest : String → Option ImageManifest
  videoManifest : String → Option VideoManifest

def pngSignature : List UInt8 := [0x89, 0x50, 0x4e, 0x47, 0x0d, 0x0a, 0x1a, 0x0a]

def temporalVideoGeneratorName : String := "temporal_video"

def temporalVideoGeneratorVersion : String := "retained-generation-v1"

/-- `validate_stored_artifact` of a row that is taken to be ready, without expected sources. -/
def validateStoredArtifact (codec : Codec) (row : ArtifactRow) (sources : List SourceRow) (bytes : List UInt8) : Bool :=
  decide (bytes.length = row.byteLen ∧ codec.sha256 row.manifestJson.toByteArray.data.toList = row.manifestHash ∧
    codec.sha256 bytes = row.outputHash ∧ sources.map (·.sourcePosition) = List.range sources.length) &&
    match row.kind with
    | .image kind =>
      pngSignature.isPrefixOf bytes && (codec.imageManifest row.manifestJson).any fun manifest =>
        manifest.artifactId = row.artifactId ∧ manifest.artifactKind = kind ∧ manifest.startTime = row.startTime ∧
          manifest.endTime = row.endTime ∧ manifest.outputHash = row.outputHash ∧
          manifest.algorithmName = row.generatorName ∧ manifest.algorithmVersion = row.generatorVersion ∧
          sources.map (·.frameId) = manifest.sourceFrameIds
    | .temporalVideo =>
      (codec.videoManifest row.manifestJson).any fun manifest =>
        manifest.artifactId = row.artifactId ∧ manifest.startTime = row.startTime ∧ manifest.endTime = row.endTime ∧
          manifest.outputHash = row.outputHash ∧ row.generatorName = temporalVideoGeneratorName ∧
          row.generatorVersion = temporalVideoGeneratorVersion ∧ sources.map (·.frameId) = manifest.inputFrameIds

namespace Store

variable (store : Store)

def artifactRows : Result (List ArtifactRow) := store.artifacts.rows.mapM decodeArtifact

def artifactSources (id : ArtifactId) : List SourceRow :=
  sortByKey (·.sourcePosition) (store.sources.rows.filter (·.artifactId = id))

/-- `fs::read` of a file of the directory. -/
def read (name : List Char) : Option (List UInt8) := (store.files.find? name).map (·.bytes)

def validateSourceIds (sessionId : SessionId) (targetId : TargetId) (sources : List SourceRow) : Result Unit :=
  if sources = [] then .error (persistenceError "artifact source links are empty")
  else
    sources.forM fun source =>
      match store.frames.find? source.frameId with
      | none => .error (.new .notFound "artifact source evidence is no longer retained")
      | some frame =>
        if frame.sessionId ≠ sessionId ∨ frame.targetId ≠ targetId then
          .error (persistenceError "artifact source belongs to another session or target")
        else .ok ()

def finalizeArtifact (row : ArtifactRow) (sources : List SourceRow) : Result (Bool × Store) := do
  let raw ← okOr (store.artifacts.find? row.artifactId) (persistenceError "artifact staging metadata disappeared")
  let current ← decodeArtifact raw
  if current.state ≠ .staging ∨ current.cacheKey ≠ row.cacheKey ∨ current.sessionId ≠ row.sessionId ∨
      current.targetId ≠ row.targetId then
    .error (persistenceError "artifact staging metadata changed before finalization")
  else
    store.validateSourceIds row.sessionId row.targetId sources
    if raw.state = .staging ∧ raw.cacheKey = row.cacheKey then
      pure (true, { store with artifacts := store.artifacts.upsert { raw with state := .ready } })
    else pure (false, store)

/-- What the deletion journal does with an artifact: the file, the row with its sources, and the usage are removed. -/
def removeArtifact (row : ArtifactRow) : Store :=
  { store with
    artifacts := store.artifacts.delete fun raw => raw.artifactId = row.artifactId
    sources := store.sources.delete fun source => source.artifactId = row.artifactId
    usage := store.usage.delete fun usage => usage.objectKey = row.artifactId.uuid.bytes
    files := store.files.delete fun file => file.name = row.relativePath }

end Store

/-- An `ArtifactRecoveryReport`. -/
structure Report where
  stagingFinalized : Nat
  stagingRemoved : Nat
  readyInvalidated : Nat
  orphanFilesRemoved : Nat
  usageRowsReconciled : Nat

def Report.zero : Report := ⟨0, 0, 0, 0, 0⟩

/-- An `ArtifactRecoveryPlan` and the store as it is then. -/
structure Plan where
  store : Store
  invalid : List ArtifactRow
  report : Report

variable (codec : Codec)

/-- Whether the file of a row is there and validates. -/
def Store.valid (store : Store) (row : ArtifactRow) : Bool :=
  (store.read row.relativePath).any fun bytes =>
    validateStoredArtifact codec row (store.artifactSources row.artifactId) bytes

/-- What `plan` does with the row by its state and its file. -/
def Plan.settle (plan : Plan) (row : ArtifactRow) : Result Plan :=
  match row.state, plan.store.valid codec row with
  | .staging, true => do
    let (finalized, store) ← plan.store.finalizeArtifact row (plan.store.artifactSources row.artifactId)
    pure (if finalized then
      { plan with store, report := { plan.report with stagingFinalized := plan.report.stagingFinalized + 1 } }
    else { plan with store })
  | .ready, true => .ok plan
  | .staging, false =>
    .ok { plan with
      invalid := plan.invalid ++ [row]
      report := { plan.report with stagingRemoved := plan.report.stagingRemoved + 1 } }
  | .ready, false =>
    .ok { plan with
      invalid := plan.invalid ++ [row]
      report := { plan.report with readyInvalidated := plan.report.readyInvalidated + 1 } }

/-- What `plan` does with the temporary file of a row. -/
def Plan.removeTemp (plan : Plan) (id : ArtifactId) : Plan :=
  if (plan.store.read (tempPath id)).isSome then
    { plan with
      store := { plan.store with files := plan.store.files.delete fun file => file.name = tempPath id }
      report := { plan.report with orphanFilesRemoved := plan.report.orphanFilesRemoved + 1 } }
  else plan

def Plan.row (plan : Plan) (row : ArtifactRow) : Result Plan := do
  return (← plan.settle codec row).removeTemp row.artifactId

/-- A file under the identifier of no row. -/
def orphan (known : List ArtifactId) (file : File) : Bool := (namedBy file.name).any fun id => id ∉ known

def plan (store : Store) : Result Plan := do
  let rows ← store.artifactRows
  let plan ← rows.foldlM (Plan.row codec) ⟨store, [], .zero⟩
  let orphans := plan.store.files.rows.filter (orphan (rows.map (·.artifactId)))
  return { plan with
    store := { plan.store with files := plan.store.files.delete (orphan (rows.map (·.artifactId))) }
    report := { plan.report with orphanFilesRemoved := plan.report.orphanFilesRemoved + orphans.length } }

def ArtifactRow.usage (row : ArtifactRow) : UsageRow := ⟨row.artifactId.uuid.bytes, some row.sessionId, row.byteLen⟩

/-- The usage and the number of changes, once the usage of a row has been compared with the stored one. -/
def updateUsage (stored : Relation UsageRow.objectKey) (state : Relation UsageRow.objectKey × Nat) (row : ArtifactRow) :
    Relation UsageRow.objectKey × Nat :=
  if stored.find? row.artifactId.uuid.bytes = some row.usage then state
  else (state.1.upsert row.usage, state.2 + 1)

/-- A stored usage that no row calls for. -/
def leftover (rows : List ArtifactRow) (usage : UsageRow) : Bool :=
  usage.objectKey ∉ rows.map (·.artifactId.uuid.bytes)

def reconcileUsage (store : Store) : Result (Store × Nat) := do
  let rows ← store.artifactRows
  let (usage, changed) := rows.foldl (updateUsage store.usage) (store.usage, 0)
  return ({ store with usage := usage.delete (leftover rows) },
    changed + (store.usage.rows.filter (leftover rows)).length)

def recoverArtifacts (store : Store) : Result (Report × Store) := do
  let plan ← plan codec store
  let (store, changed) ← reconcileUsage (plan.invalid.foldl Store.removeArtifact plan.store)
  return ({ plan.report with usageRowsReconciled := changed }, store)

end Krometrail.ArtifactRecovery
