import Krometrail.Core.Frames
import Krometrail.Lib.Results
import Krometrail.Segments.Header

/-!
# Frame records

A frame record is a prefix of seventeen bytes (kind, the two lengths, the checksum of what follows), the metadata
of the frame and its payload.  `decode_encode` reads a record back, under the session and the target that its
segment header names.
-/

namespace Krometrail

open BigEndian Readers Results

def frameRecordKind : UInt8 := 0x01

def frameRecordPrefixLen : Nat := 17

def formatCode : ImageFormat → UInt8
  | .jpeg => 0
  | .png => 1

def decodeFormat (code : UInt8) : Result ImageFormat :=
  if code = 0 then .ok .jpeg
  else if code = 1 then .ok .png
  else .error (persistenceError s!"invalid stored image format code {code}")

def warningCode : CaptureWarning → UInt8
  | .missingSourceTime => 0
  | .sourceTimestampRounded => 1
  | .viewportMetadataIncomplete => 2

def decodeWarning (code : UInt8) : Result CaptureWarning :=
  if code = 0 then .ok .missingSourceTime
  else if code = 1 then .ok .sourceTimestampRounded
  else if code = 2 then .ok .viewportMetadataIncomplete
  else .error (persistenceError s!"invalid capture-warning code {code}")

@[simp] theorem decodeFormat_formatCode (format : ImageFormat) : decodeFormat (formatCode format) = .ok format := by
  cases format <;> rfl

@[simp] theorem decodeWarning_warningCode (warning : CaptureWarning) :
    decodeWarning (warningCode warning) = .ok warning := by
  cases warning <;> rfl

structure FrameRecord where
  headerBytes : List UInt8
  payloadBytes : List UInt8

def sourceTimeBytes : Option SourceTime → List UInt8
  | some sourceTime => [1] ++ i128Bytes sourceTime.nanos
  | none => [0]

def dimensionsBytes (dimensions : PixelDimensions) : List UInt8 :=
  u32Bytes dimensions.width ++ u32Bytes dimensions.height

/-- The metadata header of `from_frame`. -/
def metadataBytes (metadata : CapturedFrame) : List UInt8 :=
  metadata.id.uuid.bytes ++ (u64Bytes metadata.captureOrdinal.value ++ (sourceTimeBytes metadata.sourceTime ++
    (u64Bytes metadata.observedTime.nanos ++ (u64Bytes metadata.sessionTime.nanos ++ ([formatCode metadata.format] ++
      (dimensionsBytes metadata.image ++ (dimensionsBytes metadata.viewport ++
        (u64Bytes metadata.deviceScaleFactor.bits ++ (u16Bytes (UInt16.ofNat metadata.warnings.length) ++
          metadata.warnings.flatMap fun warning => [warningCode warning])))))))))

namespace FrameRecord

def fromFrame (frame : EncodedFrame) : Result FrameRecord :=
  if frame.metadata.warnings.length < 2 ^ 16 then
    .ok { headerBytes := metadataBytes frame.metadata, payloadBytes := frame.bytes }
  else .error (persistenceError "frame has too many capture warnings")

/-- The first seventeen bytes of a record. -/
def prefixBytes (crc : Crc32) (record : FrameRecord) : List UInt8 :=
  [frameRecordKind] ++ (u32Bytes (UInt32.ofNat record.headerBytes.length) ++
    (u64Bytes (UInt64.ofNat record.payloadBytes.length) ++ u32Bytes (crc (record.headerBytes ++ record.payloadBytes))))

def encode (crc : Crc32) (record : FrameRecord) : Result (List UInt8) :=
  if ¬record.headerBytes.length < 2 ^ 32 then .error (persistenceError "frame metadata header is too large")
  else if ¬record.payloadBytes.length < 2 ^ 64 then .error (persistenceError "frame payload is too large")
  else .ok (record.prefixBytes crc ++ (record.headerBytes ++ record.payloadBytes))

end FrameRecord

def encodeFrameRecord (crc : Crc32) (frame : EncodedFrame) : Result (List UInt8) := do
  (← FrameRecord.fromFrame frame).encode crc

/-- `map_err(|error| persistence_error(format!("invalid stored frame: {}", error.message)))`. -/
def invalidStoredFrame {α : Type} (result : Result α) : Result α :=
  result.mapError fun error => persistenceError s!"invalid stored frame: {error.message}"

def readSourceTime : WireReader (Option SourceTime) := do
  let presence ← readU8
  if presence = 0 then return none
  else if presence = 1 then return some ⟨← readI128⟩
  else throw (persistenceError s!"invalid source-time presence code {presence}")

def readDimensions : WireReader PixelDimensions := do
  let width ← readU32
  let height ← readU32
  invalidStoredFrame (PixelDimensions.new width height)

def readMetadata (segmentHeader : SegmentHeader) : WireReader CapturedFrame := do
  let frameId ← readUuid
  let ordinal ← readU64
  let captureOrdinal ← invalidStoredFrame (CaptureOrdinal.new ordinal)
  let sourceTime ← readSourceTime
  let observedTime ← readU64
  let sessionTime ← readU64
  let code ← readU8
  let format ← decodeFormat code
  let image ← readDimensions
  let viewport ← readDimensions
  let bits ← readU64
  let deviceScaleFactor ← invalidStoredFrame (DeviceScaleFactor.new bits)
  let warningCount ← readU16
  let warnings ← times (do decodeWarning (← readU8)) warningCount.toNat
  let rest ← get
  ensure (persistenceError "frame metadata contains undeclared trailing bytes") (rest.length = 0)
  invalidStoredFrame (CapturedFrame.new ⟨frameId⟩ segmentHeader.sessionId segmentHeader.targetId captureOrdinal
    sourceTime ⟨observedTime⟩ ⟨sessionTime⟩ format image viewport deviceScaleFactor warnings)

def decodeMetadata (segmentHeader : SegmentHeader) (bytes : List UInt8) : Result CapturedFrame :=
  ((readMetadata segmentHeader).run bytes).map (·.1)

structure DecodedFrameRecord where
  frame : EncodedFrame
  encodedLen : Nat

/-- The lengths and the checksum of a record prefix. -/
structure RecordPrefix where
  headerLen : UInt32
  payloadLen : UInt64
  expectedCrc : UInt32

/-- The fields behind the record kind. -/
def readPrefix : WireReader RecordPrefix := do
  return { headerLen := ← readU32, payloadLen := ← readU64, expectedCrc := ← readU32 }

namespace RecordPrefix

/-- `FRAME_RECORD_PREFIX_LEN.checked_add(header_len).and_then(|value| value.checked_add(payload_len))`. -/
def encodedLen (fields : RecordPrefix) : Option Nat :=
  (checkedAdd frameRecordPrefixLen fields.headerLen.toNat).bind (checkedAdd · fields.payloadLen.toNat)

end RecordPrefix

def decodeFrameRecord (crc : Crc32) (segmentHeader : SegmentHeader) (bytes : List UInt8) : Result DecodedFrameRecord := do
  let (kind, rest) ← readU8.run bytes
  if kind ≠ frameRecordKind then .error (persistenceError "segment record kind is not a frame") else do
  let (fields, _) ← readPrefix.run rest
  let encodedLen ← okOr fields.encodedLen (persistenceError "frame record length overflow")
  if bytes.length < encodedLen then .error (persistenceError "frame record ended before its declared length") else do
  let headerEnd := frameRecordPrefixLen + fields.headerLen.toNat
  let headerBytes := (bytes.take headerEnd).drop frameRecordPrefixLen
  let payloadBytes := (bytes.take encodedLen).drop headerEnd
  if crc (headerBytes ++ payloadBytes) ≠ fields.expectedCrc then
    .error (persistenceError "frame record CRC32 mismatch")
  else do
  let metadata ← decodeMetadata segmentHeader headerBytes
  let frame ← invalidStoredFrame (EncodedFrame.new metadata payloadBytes)
  return { frame, encodedLen }

theorem reads_sourceTime (sourceTime : Option SourceTime) :
    Reads readSourceTime (sourceTimeBytes sourceTime) sourceTime := by
  cases sourceTime with
  | none =>
    have h : Reads readSourceTime ([0] ++ []) none := by
      refine Reads.bind (reads_u8 0) ?_
      rw [if_pos rfl]
      exact Reads.pure none
    exact h
  | some sourceTime =>
    refine Reads.bind (reads_u8 1) ?_
    rw [if_neg (by decide), if_pos rfl]
    exact (reads_i128 sourceTime.nanos).map fun nanos => some (SourceTime.mk nanos)

theorem reads_dimensions (dimensions : PixelDimensions) :
    Reads readDimensions (dimensionsBytes dimensions) dimensions := by
  have hnew : invalidStoredFrame (PixelDimensions.new dimensions.width dimensions.height) = .ok dimensions := by
    simp [invalidStoredFrame, Except.mapError]
  have h : Reads readDimensions (u32Bytes dimensions.width ++ (u32Bytes dimensions.height ++ [])) dimensions := by
    refine Reads.bind (reads_u32 dimensions.width) ?_
    refine Reads.bind (reads_u32 dimensions.height) ?_
    exact reads_lift hnew
  rwa [List.append_nil] at h

theorem reads_warnings (warnings : List CaptureWarning) :
    Reads (times (do decodeWarning (← readU8)) warnings.length) (warnings.flatMap fun warning => [warningCode warning])
      warnings :=
  reads_times warnings fun warning _ => Reads.bind (reads_u8 _) (reads_lift (decodeWarning_warningCode warning))

theorem decodeMetadata_metadataBytes {segmentHeader : SegmentHeader} {metadata : CapturedFrame}
    (hsession : metadata.sessionId = segmentHeader.sessionId) (htarget : metadata.targetId = segmentHeader.targetId)
    (hwarnings : metadata.warnings.length < 2 ^ 16) :
    decodeMetadata segmentHeader (metadataBytes metadata) = .ok metadata := by
  have hcount : (UInt16.ofNat metadata.warnings.length).toNat = metadata.warnings.length :=
    UInt16.toNat_ofNat_of_lt hwarnings
  have hordinal : invalidStoredFrame (CaptureOrdinal.new metadata.captureOrdinal.value) = .ok metadata.captureOrdinal := by
    simp [invalidStoredFrame, Except.mapError]
  have hscale : invalidStoredFrame (DeviceScaleFactor.new metadata.deviceScaleFactor.bits) =
      .ok metadata.deviceScaleFactor := by
    simp [invalidStoredFrame, Except.mapError]
  unfold decodeMetadata readMetadata metadataBytes
  rw [(reads_uuid _).run_bind, (reads_u64 _).run_bind, run_lift_bind hordinal, (reads_sourceTime _).run_bind,
    (reads_u64 _).run_bind, (reads_u64 _).run_bind, (reads_u8 _).run_bind, run_lift_bind (decodeFormat_formatCode _),
    (reads_dimensions _).run_bind, (reads_dimensions _).run_bind, (reads_u64 _).run_bind, run_lift_bind hscale,
    (reads_u16 _).run_bind, hcount, ← List.append_nil (List.flatMap _ _), (reads_warnings _).run_bind]
  change Except.map _ (StateT.run (liftM (invalidStoredFrame (CapturedFrame.new _ segmentHeader.sessionId
    segmentHeader.targetId _ _ _ _ _ _ _ _ _)) : WireReader CapturedFrame) []) = _
  rw [← hsession, ← htarget, invalidStoredFrame, CapturedFrame.new_self]
  rfl

namespace FrameRecord

/-- The fields behind the record kind. -/
def fields (crc : Crc32) (record : FrameRecord) : RecordPrefix where
  headerLen := UInt32.ofNat record.headerBytes.length
  payloadLen := UInt64.ofNat record.payloadBytes.length
  expectedCrc := crc (record.headerBytes ++ record.payloadBytes)

/-- The lengths of a record fit their fields. -/
structure Fits (record : FrameRecord) : Prop where
  header : record.headerBytes.length < 2 ^ 32
  payload : record.payloadBytes.length < 2 ^ 64

variable {crc : Crc32} {record : FrameRecord} {bytes : List UInt8}

theorem encode_eq_ok : record.encode crc = .ok bytes ↔
    record.Fits ∧ record.prefixBytes crc ++ (record.headerBytes ++ record.payloadBytes) = bytes := by
  unfold encode
  split
  · exact ⟨nofun, fun h => absurd h.1.header ‹_›⟩
  · split
    · exact ⟨nofun, fun h => absurd h.1.payload ‹_›⟩
    · rename_i hheader hpayload
      exact ⟨fun h => ⟨⟨not_not.1 hheader, not_not.1 hpayload⟩, Except.ok.inj h⟩, fun h => congrArg Except.ok h.2⟩

@[simp] theorem length_prefixBytes : (record.prefixBytes crc).length = frameRecordPrefixLen := by
  simp [prefixBytes, frameRecordPrefixLen]

theorem reads_fields (crc : Crc32) (record : FrameRecord) :
    Reads readPrefix (u32Bytes (record.fields crc).headerLen ++ (u64Bytes (record.fields crc).payloadLen ++
      u32Bytes (record.fields crc).expectedCrc)) (record.fields crc) := by
  refine Reads.bind (reads_u32 _) (Reads.bind (reads_u64 _) ?_)
  exact (reads_u32 _).map fun expectedCrc => { record.fields crc with expectedCrc }

theorem Fits.toNat_headerLen (h : record.Fits) : (record.fields crc).headerLen.toNat = record.headerBytes.length :=
  UInt32.toNat_ofNat_of_lt h.header

theorem Fits.toNat_payloadLen (h : record.Fits) : (record.fields crc).payloadLen.toNat = record.payloadBytes.length :=
  UInt64.toNat_ofNat_of_lt h.payload

theorem Fits.encodedLen (h : record.Fits)
    (hlength : frameRecordPrefixLen + record.headerBytes.length + record.payloadBytes.length ≤ u64Max) :
    (record.fields crc).encodedLen =
      some (frameRecordPrefixLen + record.headerBytes.length + record.payloadBytes.length) := by
  rw [RecordPrefix.encodedLen, h.toNat_headerLen, h.toNat_payloadLen, Option.bind_eq_some_iff]
  exact ⟨_, checkedAdd_eq_some.2 ⟨by omega, rfl⟩, checkedAdd_eq_some.2 ⟨hlength, rfl⟩⟩

theorem slice_headerBytes : ((record.prefixBytes crc ++ (record.headerBytes ++ record.payloadBytes)).take
    (frameRecordPrefixLen + record.headerBytes.length)).drop frameRecordPrefixLen = record.headerBytes := by
  rw [List.take_append, length_prefixBytes, List.take_of_length_le (by simp), Nat.add_sub_cancel_left,
    List.take_left, List.drop_left' length_prefixBytes]

theorem slice_payloadBytes : (record.prefixBytes crc ++ (record.headerBytes ++ record.payloadBytes)).drop
    (frameRecordPrefixLen + record.headerBytes.length) = record.payloadBytes := by
  rw [← List.append_assoc, List.drop_left' (by simp)]

end FrameRecord

theorem encodeFrameRecord_eq_ok {crc : Crc32} {frame : EncodedFrame} {bytes : List UInt8} :
    encodeFrameRecord crc frame = .ok bytes ↔ frame.metadata.warnings.length < 2 ^ 16 ∧
      (FrameRecord.mk (metadataBytes frame.metadata) frame.bytes).encode crc = .ok bytes := by
  unfold encodeFrameRecord FrameRecord.fromFrame
  split
  · rename_i hwarnings
    exact ⟨fun h => ⟨hwarnings, h⟩, fun h => h.2⟩
  · rename_i hwarnings
    exact ⟨nofun, fun h => absurd h.1 hwarnings⟩

/-- The record of a frame is read back under a segment header of its session and target.  No byte string in memory
is longer than the bound on `bytes`. -/
theorem decodeFrameRecord_encode {crc : Crc32} {segmentHeader : SegmentHeader} {frame : EncodedFrame}
    {bytes : List UInt8} (hsession : frame.metadata.sessionId = segmentHeader.sessionId)
    (htarget : frame.metadata.targetId = segmentHeader.targetId) (hencode : encodeFrameRecord crc frame = .ok bytes)
    (hlength : bytes.length ≤ u64Max) :
    decodeFrameRecord crc segmentHeader bytes = .ok { frame, encodedLen := bytes.length } := by
  obtain ⟨hwarnings, hrecord⟩ := encodeFrameRecord_eq_ok.1 hencode
  obtain ⟨hfits, rfl⟩ := FrameRecord.encode_eq_ok.1 hrecord
  set record := FrameRecord.mk (metadataBytes frame.metadata) frame.bytes
  set data := record.headerBytes ++ record.payloadBytes with hdata
  have htotal : frameRecordPrefixLen + record.headerBytes.length + record.payloadBytes.length =
      (record.prefixBytes crc ++ data).length := by
    rw [hdata, List.length_append, List.length_append, FrameRecord.length_prefixBytes, Nat.add_assoc]
  have hkind := reads_u8 frameRecordKind (u32Bytes (record.fields crc).headerLen ++
    (u64Bytes (record.fields crc).payloadLen ++ u32Bytes (record.fields crc).expectedCrc) ++ data)
  change readU8.run (record.prefixBytes crc ++ data) = _ at hkind
  have hencodedLen : (record.fields crc).encodedLen = some _ := hfits.encodedLen (htotal ▸ hlength)
  have hmetadata := decodeMetadata_metadataBytes hsession htarget hwarnings
  have hframe : invalidStoredFrame (EncodedFrame.new frame.metadata record.payloadBytes) = .ok frame := by
    rw [invalidStoredFrame, EncodedFrame.new_self]
    rfl
  unfold decodeFrameRecord
  rw [hkind]
  simp only [ok_bind, FrameRecord.reads_fields crc record data, hencodedLen, htotal, ne_eq, not_true_eq_false,
    if_false, okOr_some, lt_irrefl, List.take_length]
  rw [hfits.toNat_headerLen, hdata, FrameRecord.slice_headerBytes, FrameRecord.slice_payloadBytes]
  rw [if_neg (fun hne => hne rfl), hmetadata, ok_bind, hframe]
  rfl

end Krometrail
