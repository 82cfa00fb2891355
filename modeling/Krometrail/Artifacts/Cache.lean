import Krometrail.Lib.Framing
import Krometrail.Video.Plan

/-!
# Cache keys of artifacts and videos

A cache key is the hash of a transcript, in which `FramedHasher` writes what an artifact depends on field after field,
each behind its length.  The hash is a parameter, from byte strings to digests.
-/

namespace Krometrail.Cache

open Framing (Fits frames)

/-- A `&[u8]`, no longer than `isize::MAX`. -/
@[ext] structure Bytes where
  toList : List UInt8
  length_lt : toList.length < 2 ^ 63

/-- A `&str`. -/
@[ext] structure Str where
  text : String
  size_lt : text.utf8ByteSize < 2 ^ 63

/-- A SHA-256 digest that is itself written to a transcript. -/
@[ext] structure Sha256Digest where
  bytes : List UInt8
  length_bytes : bytes.length = 32

instance : DecidableEq Sha256Digest := fun a b => decidable_of_iff (a.bytes = b.bytes) Sha256Digest.ext_iff.symm

def Sha256Digest.filled (byte : UInt8) : Sha256Digest := ⟨List.replicate 32 byte, List.length_replicate⟩

def Str.asBytes (str : Str) : Bytes := ⟨str.text.toByteArray.data.toList, str.size_lt⟩

def uuidBytes (uuid : Uuid) : Bytes := ⟨uuid.bytes, by simp [uuid.length_bytes]⟩

def Sha256Digest.asBytes (digest : Sha256Digest) : Bytes := ⟨digest.bytes, by simp [digest.length_bytes]⟩

/-- `u32::to_be_bytes`. -/
def u32Bytes (value : UInt32) : Bytes := ⟨BigEndian.toBytes 4 value.toNat, by simp⟩

/-- `u64::to_be_bytes`. -/
def u64Bytes (value : UInt64) : Bytes := ⟨BigEndian.toBytes 8 value.toNat, by simp⟩

/-- `ImageFormat` as `write_source` spells it. -/
def formatBytes : ImageFormat → Bytes
  | .jpeg => Str.asBytes ⟨"jpeg", by decide⟩
  | .png => Str.asBytes ⟨"png", by decide⟩

/-- A `FramedHasher`: what its hash has been fed. -/
@[ext] structure FramedHasher where
  fed : List UInt8

namespace FramedHasher

variable {D : Type}

def bytes (hasher : FramedHasher) (value : Bytes) : FramedHasher :=
  ⟨hasher.fed ++ BigEndian.toBytes 8 value.toList.length ++ value.toList⟩

def u32 (hasher : FramedHasher) (value : UInt32) : FramedHasher := hasher.bytes (u32Bytes value)

def u64 (hasher : FramedHasher) (value : UInt64) : FramedHasher := hasher.bytes (u64Bytes value)

def new (domain : Str) : FramedHasher := bytes ⟨[]⟩ domain.asBytes

def finish (sha256 : List UInt8 → D) (hasher : FramedHasher) : D := sha256 hasher.fed

end FramedHasher

structure SourceFingerprint where
  frameId : FrameId
  captureOrdinal : UInt64
  sessionTimeNanos : UInt64
  format : ImageFormat
  imageWidth : UInt32
  imageHeight : UInt32
  viewportWidth : UInt32
  viewportHeight : UInt32
  deviceScaleBits : UInt64
  encodedSha256 : Sha256Digest

/-- A `&[SourceFingerprint]`. -/
@[ext] structure Sources where
  toList : List SourceFingerprint
  length_lt : toList.length < 2 ^ 63

def Sources.count (sources : Sources) : UInt64 := UInt64.ofNat sources.toList.length

def writeSource (transcript : FramedHasher) (source : SourceFingerprint) : FramedHasher :=
  let transcript := transcript.bytes (uuidBytes source.frameId.uuid)
  let transcript := transcript.u64 source.captureOrdinal
  let transcript := transcript.u64 source.sessionTimeNanos
  let transcript := transcript.bytes (formatBytes source.format)
  let transcript := transcript.u32 source.imageWidth
  let transcript := transcript.u32 source.imageHeight
  let transcript := transcript.u32 source.viewportWidth
  let transcript := transcript.u32 source.viewportHeight
  let transcript := transcript.u64 source.deviceScaleBits
  transcript.bytes source.encodedSha256.asBytes

/-- The count of the sources and each of them. -/
def writeSources (transcript : FramedHasher) (sources : Sources) : FramedHasher :=
  sources.toList.foldl writeSource (transcript.u64 sources.count)

variable {D : Type} (sha256 : List UInt8 → D)

def hashSources (sources : Sources) (domain : Str) : D := (writeSources (.new domain) sources).finish sha256

def hashEpoch (sources : Sources) : D :=
  let transcript := (FramedHasher.new ⟨"krometrail-visual-epoch-v1", by decide⟩).u64 sources.count
  FramedHasher.finish sha256 (sources.toList.foldl (fun transcript source =>
    let transcript := transcript.bytes (uuidBytes source.frameId.uuid)
    let transcript := transcript.u32 source.imageWidth
    let transcript := transcript.u32 source.imageHeight
    let transcript := transcript.u32 source.viewportWidth
    let transcript := transcript.u32 source.viewportHeight
    transcript.u64 source.deviceScaleBits) transcript)

/-- `framed_hash` of one field. -/
def framedHash (domain : Str) (field : Bytes) : D := ((FramedHasher.new domain).bytes field).finish sha256

/-- An `ArtifactCacheMetadata`. -/
structure ArtifactCacheMetadata (D : Type) where
  cacheKey : D
  sourceFingerprint : D
  parameterHash : D
  visualEpochHash : D
  cacheSchemaVersion : UInt32
  adapterVersion : String
  generatorName : String
  generatorVersion : String

def cacheSchemaVersion : UInt32 := 1

inductive ArtifactKind
  | beforeDuringAfter | storyboard | differenceMap | regionFilmstrip | motionHistory

def ArtifactKind.asStr : ArtifactKind → Str
  | beforeDuringAfter => ⟨"before_during_after", by decide⟩
  | storyboard => ⟨"storyboard", by decide⟩
  | differenceMap => ⟨"difference_map", by decide⟩
  | regionFilmstrip => ⟨"region_filmstrip", by decide⟩
  | motionHistory => ⟨"motion_history", by decide⟩

structure GeneratorDescriptor where
  name : Str
  version : Str

structure CacheIdentityInput where
  sessionId : SessionId
  targetId : TargetId
  sources : Sources
  artifactKind : ArtifactKind
  canonicalParameters : Bytes
  descriptor : GeneratorDescriptor
  adapterVersion : Str
  decoderProfile : Str

/-- The transcript of `cache_metadata`. -/
def CacheIdentityInput.transcript (input : CacheIdentityInput) : FramedHasher :=
  let transcript := FramedHasher.new ⟨"krometrail-artifact-cache-key", by decide⟩
  let transcript := transcript.u32 cacheSchemaVersion
  let transcript := transcript.bytes (uuidBytes input.sessionId.uuid)
  let transcript := transcript.bytes (uuidBytes input.targetId.uuid)
  let transcript := transcript.bytes input.artifactKind.asStr.asBytes
  let transcript := transcript.bytes input.descriptor.name.asBytes
  let transcript := transcript.bytes input.descriptor.version.asBytes
  let transcript := transcript.bytes input.adapterVersion.asBytes
  let transcript := transcript.bytes input.decoderProfile.asBytes
  let transcript := transcript.bytes input.canonicalParameters
  writeSources transcript input.sources

def cacheMetadata (input : CacheIdentityInput) : ArtifactCacheMetadata D where
  cacheKey := input.transcript.finish sha256
  sourceFingerprint := hashSources sha256 input.sources ⟨"krometrail-artifact-sources-v1", by decide⟩
  parameterHash := framedHash sha256 ⟨"krometrail-artifact-parameters-v1", by decide⟩ input.canonicalParameters
  visualEpochHash := hashEpoch sha256 input.sources
  cacheSchemaVersion := cacheSchemaVersion
  adapterVersion := input.adapterVersion.text ++ ";" ++ input.decoderProfile.text
  generatorName := input.descriptor.name.text
  generatorVersion := input.descriptor.version.text

/-- What `bounded_label` and `NonEmptyText` ask of a label. -/
def IsLabel (label : String) : Prop :=
  label.utf8ByteSize ≤ 256 ∧
    (∀ c ∈ label.toList, ¬ (c.toNat < 32 ∨ c.toNat = 127) ∧ c ≠ '/' ∧ c ≠ '\\') ∧ isBlank label = false

instance (label : String) : Decidable (IsLabel label) := by unfold IsLabel; infer_instance

structure VideoSelectionIdentity where
  name : String
  version : String
  parametersSha256 : Sha256Digest
  isLabel_name : IsLabel name
  isLabel_version : IsLabel version

def labelStr (label : String) (h : IsLabel label) : Str := ⟨label, h.1.trans_lt (by decide)⟩

structure VideoCacheIdentityInput where
  sessionId : SessionId
  targetId : TargetId
  sources : Sources
  canonicalParameters : Bytes
  selector : Option VideoSelectionIdentity

def temporalVideoGeneratorName : Str := ⟨"temporal_video", by decide⟩

def temporalVideoGeneratorVersion : Str := ⟨"retained-generation-v1", by decide⟩

def retainedVideoAdapterVersion : Str := ⟨"krometrail-retained-video-v1", by decide⟩

/-- The transcript of `video_cache_metadata_for_adapter`. -/
theorem size_noSelection : "no-selection".utf8ByteSize < 2 ^ 63 := by decide

def VideoCacheIdentityInput.transcript (input : VideoCacheIdentityInput) (adapterVersion : Str) : FramedHasher :=
  let transcript := FramedHasher.new ⟨"krometrail-video-cache-key", by decide⟩
  let transcript := transcript.u32 cacheSchemaVersion
  let transcript := transcript.bytes (uuidBytes input.sessionId.uuid)
  let transcript := transcript.bytes (uuidBytes input.targetId.uuid)
  let transcript := transcript.bytes temporalVideoGeneratorName.asBytes
  let transcript := transcript.bytes temporalVideoGeneratorVersion.asBytes
  let transcript := transcript.bytes adapterVersion.asBytes
  let transcript := transcript.bytes input.canonicalParameters
  let transcript := match input.selector with
    | some selector =>
      let transcript := transcript.bytes (labelStr selector.name selector.isLabel_name).asBytes
      let transcript := transcript.bytes (labelStr selector.version selector.isLabel_version).asBytes
      transcript.bytes selector.parametersSha256.asBytes
    | none => transcript.bytes (Str.asBytes ⟨"no-selection", size_noSelection⟩)
  writeSources transcript input.sources

def videoCacheMetadataForAdapter (input : VideoCacheIdentityInput) (adapterVersion : Str) : ArtifactCacheMetadata D where
  cacheKey := (input.transcript adapterVersion).finish sha256
  sourceFingerprint := hashSources sha256 input.sources ⟨"krometrail-video-sources-v1", by decide⟩
  parameterHash := framedHash sha256 ⟨"krometrail-video-parameters-v1", by decide⟩ input.canonicalParameters
  visualEpochHash := hashEpoch sha256 input.sources
  cacheSchemaVersion := cacheSchemaVersion
  adapterVersion := adapterVersion.text
  generatorName := temporalVideoGeneratorName.text
  generatorVersion := temporalVideoGeneratorVersion.text

def videoCacheMetadata (input : VideoCacheIdentityInput) : ArtifactCacheMetadata D :=
  videoCacheMetadataForAdapter sha256 input retainedVideoAdapterVersion

structure VideoOutputGeometry where
  source : PixelDimensions
  scaled : PixelDimensions
  canvas : PixelDimensions
  padRight : UInt8
  padBottom : UInt8
  deriving DecidableEq

/-- A whole `VideoPresentationPlan`: what the planner's model of it leaves out besides. -/
structure PresentationPlan extends Video.VideoPresentationPlan where
  version : String
  epochIndex : UInt32
  epochViewport : PixelDimensions
  epochDeviceScaleFactor : DeviceScaleFactor
  scaled : PixelDimensions
  canvas : PixelDimensions
  padRight : UInt8
  padBottom : UInt8
  durationNanos : Nat

def PresentationPlan.output (plan : PresentationPlan) : VideoOutputGeometry :=
  ⟨plan.outputSource, plan.scaled, plan.canvas, plan.padRight, plan.padBottom⟩

structure VideoEncoderIdentity where
  implementationVersion : String
  buildReportSha256 : Sha256Digest
  encoderName : String
  adapterVersion : String
  argumentPolicyVersion : String

structure VideoEncodingProfile where
  geometry : VideoOutputGeometry
  maxEncodedBytes : UInt64

/-- The `Transcript` of `canonical_video_cache_parameters`, whose other fields are constants. -/
structure VideoTranscript where
  plan : PresentationPlan
  selection : Option VideoSelectionIdentity
  encoder : VideoEncoderIdentity
  profile : VideoEncodingProfile

def validateSelection (selection : Option VideoSelectionIdentity) (plan : PresentationPlan) : Result Unit :=
  match plan.policy, selection, plan.meaningfulFrameIds with
  | .realTime, none, [] => .ok ()
  | .modelOptimized, some _, _ :: _ => .ok ()
  | _, _, _ => .error (invalid ("real-time video forbids selector provenance and model-optimized video requires " ++
      "selector provenance and meaningful frame ids"))

/-- `canonical_video_cache_parameters`, with `serde_json::to_vec` a parameter. -/
def canonicalVideoCacheParameters (toVec : VideoTranscript → Option Bytes) (transcript : VideoTranscript) : Result Bytes := do
  refuse (transcript.profile.geometry ≠ transcript.plan.output)
    (invalid "video cache profile must exactly match the presentation plan")
  validateSelection transcript.selection transcript.plan
  okOr (toVec transcript) (.new .internal "could not serialize canonical video cache parameters")

/-- What `generate_epoch` asks the cache for: a prepared epoch of a request and the encoder that is to present it. -/
structure VideoGeneration extends VideoTranscript where
  sessionId : SessionId
  targetId : TargetId
  cacheSources : Sources

/-- The identity of the clip that `generate_epoch` looks up. -/
def VideoGeneration.identityInput (toVec : VideoTranscript → Option Bytes) (generation : VideoGeneration) :
    Result VideoCacheIdentityInput := do
  let canonical ← canonicalVideoCacheParameters toVec generation.toVideoTranscript
  return {
    sessionId := generation.sessionId
    targetId := generation.targetId
    sources := generation.cacheSources
    canonicalParameters := canonical
    selector := generation.selection }

end Krometrail.Cache
