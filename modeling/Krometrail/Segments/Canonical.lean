import Krometrail.Lib.Spellings
import Krometrail.Segments.RoundTrip

/-!
# One spelling for each frame

Every field of a frame record has a single spelling: whatever `decode_frame_record` accepts starts with the encoding
of the frame that it returns.  The decoder reads one record off the front of a buffer and says how long it was, so
that what stands behind the record is neither read nor given back.
-/

namespace Krometrail

open BigEndian Readers Results

variable {crc : Crc32} {segmentHeader : SegmentHeader}

theorem consumes_u8 : Consumes readU8 fun value => [value] := by
  refine consumes_field _ fun bytes hlength => ?_
  obtain ⟨byte, rfl⟩ := List.length_eq_one_iff.1 hlength
  rfl

theorem consumes_u16 : Consumes readU16 u16Bytes := by
  refine consumes_field _ fun bytes hlength => ?_
  rw [u16Bytes, UInt16.toNat_ofNat_of_lt' (ofBytes_lt_of_length hlength), toBytes_ofBytes_of_length hlength]

theorem consumes_u32 : Consumes readU32 u32Bytes := by
  refine consumes_field _ fun bytes hlength => ?_
  rw [u32Bytes, UInt32.toNat_ofNat_of_lt' (ofBytes_lt_of_length hlength), toBytes_ofBytes_of_length hlength]

theorem consumes_u64 : Consumes readU64 u64Bytes := by
  refine consumes_field _ fun bytes hlength => ?_
  rw [u64Bytes, UInt64.toNat_ofNat_of_lt' (ofBytes_lt_of_length hlength), toBytes_ofBytes_of_length hlength]

theorem consumes_i128 : Consumes readI128 i128Bytes := by
  refine consumes_field _ fun bytes hlength => ?_
  have hbound : ofBytes bytes < 2 ^ 128 := by
    have h := ofBytes_lt_of_length hlength
    norm_num at h ⊢
    exact h
  rw [i128Bytes, BitVec.toNat_ofNat, Nat.mod_eq_of_lt hbound, toBytes_ofBytes_of_length hlength]

theorem consumes_uuid : Consumes readUuid Uuid.bytes := by
  refine consumes_checked _ fun bytes hlength uuid huuid => ?_
  rw [uuidOfBytes, dif_pos hlength] at huuid
  cases huuid
  rfl

theorem formatCode_of_decodeFormat {code : UInt8} {format : ImageFormat} (h : decodeFormat code = .ok format) :
    formatCode format = code := by
  unfold decodeFormat at h
  split at h
  · cases h; exact Eq.symm ‹code = 0›
  · split at h
    · cases h; exact Eq.symm ‹code = 1›
    · cases h

theorem warningCode_of_decodeWarning {code : UInt8} {warning : CaptureWarning} (h : decodeWarning code = .ok warning) :
    warningCode warning = code := by
  unfold decodeWarning at h
  split at h
  · cases h; exact Eq.symm ‹code = 0›
  · split at h
    · cases h; exact Eq.symm ‹code = 1›
    · split at h
      · cases h; exact Eq.symm ‹code = 2›
      · cases h

theorem consumes_warning : Consumes (do decodeWarning (← readU8)) fun warning => [warningCode warning] :=
  consumes_u8.checked fun code warning h => by rw [warningCode_of_decodeWarning h]

theorem consumes_sourceTime : Consumes readSourceTime sourceTimeBytes := by
  intro bytes rest sourceTime h
  obtain ⟨presence, unread, hpresence, h⟩ := run_bind_eq_ok.1 h
  have hbytes := consumes_u8 hpresence
  split at h
  · rename_i hzero
    obtain ⟨rfl, rfl⟩ := run_pure_eq_ok.1 h
    rw [hbytes, hzero]
    rfl
  · split at h
    · rename_i hone
      obtain ⟨nanos, unread', hnanos, h⟩ := run_bind_eq_ok.1 h
      obtain ⟨rfl, rfl⟩ := run_pure_eq_ok.1 h
      rw [hbytes, hone, consumes_i128 hnanos, sourceTimeBytes, List.append_assoc]
    · cases h

theorem invalidStoredFrame_eq_ok {α : Type} {result : Result α} {value : α} :
    invalidStoredFrame result = .ok value ↔ result = .ok value := mapError_eq_ok

theorem consumes_dimensions : Consumes readDimensions dimensionsBytes := by
  intro bytes rest dimensions h
  obtain ⟨width, unread, hwidth, h⟩ := run_bind_eq_ok.1 h
  obtain ⟨height, unread', hheight, h⟩ := run_bind_eq_ok.1 h
  obtain ⟨hnew, rfl⟩ := run_lift_eq_ok.1 h
  rw [invalidStoredFrame_eq_ok, PixelDimensions.new] at hnew
  split at hnew
  · cases hnew
    rw [consumes_u32 hwidth, consumes_u32 hheight, ← List.append_assoc]
    rfl
  · cases hnew

theorem CaptureOrdinal.new_eq_ok {value : UInt64} {ordinal : CaptureOrdinal} (h : CaptureOrdinal.new value = .ok ordinal) :
    ordinal.value = value := by
  unfold CaptureOrdinal.new at h
  split at h
  · cases h; rfl
  · cases h

theorem DeviceScaleFactor.new_eq_ok {bits : UInt64} {factor : DeviceScaleFactor}
    (h : DeviceScaleFactor.new bits = .ok factor) : factor.bits = bits := by
  unfold DeviceScaleFactor.new at h
  split at h
  · cases h; rfl
  · cases h

theorem metadataBytes_of_decodeMetadata {bytes : List UInt8} {metadata : CapturedFrame}
    (h : decodeMetadata segmentHeader bytes = .ok metadata) :
    metadataBytes metadata = bytes ∧ metadata.warnings.length < 2 ^ 16 ∧
      metadata.sessionId = segmentHeader.sessionId ∧ metadata.targetId = segmentHeader.targetId := by
  unfold decodeMetadata at h
  obtain ⟨⟨metadata', rest⟩, hrun, rfl⟩ : ∃ out, (readMetadata segmentHeader).run bytes = .ok out ∧ out.1 = metadata := by
    cases hrun : (readMetadata segmentHeader).run bytes with
    | error e => rw [hrun] at h; cases h
    | ok out => rw [hrun] at h; exact ⟨out, rfl, Except.ok.inj h⟩
  unfold readMetadata at hrun
  obtain ⟨frameId, _, hframeId, hrun⟩ := run_bind_eq_ok.1 hrun
  obtain ⟨ordinal, _, hordinal, hrun⟩ := run_bind_eq_ok.1 hrun
  obtain ⟨captureOrdinal, _, hcaptureOrdinal, hrun⟩ := run_bind_eq_ok.1 hrun
  obtain ⟨hnewOrdinal, rfl⟩ := run_lift_eq_ok.1 hcaptureOrdinal
  obtain ⟨sourceTime, _, hsourceTime, hrun⟩ := run_bind_eq_ok.1 hrun
  obtain ⟨observedTime, _, hobservedTime, hrun⟩ := run_bind_eq_ok.1 hrun
  obtain ⟨sessionTime, _, hsessionTime, hrun⟩ := run_bind_eq_ok.1 hrun
  obtain ⟨code, _, hcode, hrun⟩ := run_bind_eq_ok.1 hrun
  obtain ⟨format, _, hformat, hrun⟩ := run_bind_eq_ok.1 hrun
  obtain ⟨hdecodeFormat, rfl⟩ := run_lift_eq_ok.1 hformat
  obtain ⟨image, _, himage, hrun⟩ := run_bind_eq_ok.1 hrun
  obtain ⟨viewport, _, hviewport, hrun⟩ := run_bind_eq_ok.1 hrun
  obtain ⟨bits, _, hbits, hrun⟩ := run_bind_eq_ok.1 hrun
  obtain ⟨deviceScaleFactor, _, hscale, hrun⟩ := run_bind_eq_ok.1 hrun
  obtain ⟨hnewScale, rfl⟩ := run_lift_eq_ok.1 hscale
  obtain ⟨warningCount, _, hcount, hrun⟩ := run_bind_eq_ok.1 hrun
  obtain ⟨warnings, unread, hwarnings, hrun⟩ := run_bind_eq_ok.1 hrun
  obtain ⟨hspelled, hlength⟩ := consumes_warning.times hwarnings
  -- nothing may stand behind the warnings
  obtain ⟨left, _, hleft, hrun⟩ := run_bind_eq_ok.1 hrun
  cases hleft
  obtain ⟨_, _, hempty, hrun⟩ := run_bind_eq_ok.1 hrun
  obtain ⟨hzero, rfl⟩ := run_ensure_eq_ok.1 hempty
  obtain ⟨hnew, rfl⟩ := run_lift_eq_ok.1 hrun
  rw [invalidStoredFrame_eq_ok] at hnewOrdinal hnewScale hnew
  unfold CapturedFrame.new at hnew
  split at hnew
  · cases hnew
    refine ⟨?_, ?_, rfl, rfl⟩
    · rw [consumes_uuid hframeId, consumes_u64 hordinal, consumes_sourceTime hsourceTime, consumes_u64 hobservedTime,
        consumes_u64 hsessionTime, consumes_u8 hcode, consumes_dimensions himage, consumes_dimensions hviewport,
        consumes_u64 hbits, consumes_u16 hcount, hspelled, List.length_eq_zero_iff.1 hzero, List.append_nil]
      rw [metadataBytes, CaptureOrdinal.new_eq_ok hnewOrdinal, formatCode_of_decodeFormat hdecodeFormat,
        DeviceScaleFactor.new_eq_ok hnewScale, hlength, UInt16.ofNat_toNat]
    · rw [hlength]
      exact warningCount.toNat_lt
  · cases hnew

namespace RecordPrefix

variable {fields : RecordPrefix}

/-- The seventeen bytes of a prefix. -/
def bytes (fields : RecordPrefix) : List UInt8 :=
  [frameRecordKind] ++ (u32Bytes fields.headerLen ++ (u64Bytes fields.payloadLen ++ u32Bytes fields.expectedCrc))

@[simp] theorem length_bytes : fields.bytes.length = frameRecordPrefixLen := by
  simp [bytes, frameRecordPrefixLen]

theorem reads_prefix (fields : RecordPrefix) :
    Reads readPrefix (u32Bytes fields.headerLen ++ (u64Bytes fields.payloadLen ++ u32Bytes fields.expectedCrc)) fields := by
  refine Reads.bind (reads_u32 _) (Reads.bind (reads_u64 _) ?_)
  exact (reads_u32 _).map fun expectedCrc => { fields with expectedCrc }

theorem consumes_prefix : Consumes readPrefix fun fields =>
    u32Bytes fields.headerLen ++ (u64Bytes fields.payloadLen ++ u32Bytes fields.expectedCrc) := by
  intro bytes rest fields h
  obtain ⟨headerLen, _, hheaderLen, h⟩ := run_bind_eq_ok.1 h
  obtain ⟨payloadLen, _, hpayloadLen, h⟩ := run_bind_eq_ok.1 h
  obtain ⟨expectedCrc, _, hexpectedCrc, h⟩ := run_bind_eq_ok.1 h
  obtain ⟨rfl, rfl⟩ := run_pure_eq_ok.1 h
  rw [consumes_u32 hheaderLen, consumes_u64 hpayloadLen, consumes_u32 hexpectedCrc, List.append_assoc, List.append_assoc]

theorem encodedLen_eq_some {encodedLen : Nat} : fields.encodedLen = some encodedLen ↔
    frameRecordPrefixLen + fields.headerLen.toNat + fields.payloadLen.toNat = encodedLen ∧ encodedLen ≤ u64Max := by
  rw [RecordPrefix.encodedLen, Option.bind_eq_some_iff]
  constructor
  · rintro ⟨headerEnd, hheader, hpayload⟩
    obtain ⟨-, rfl⟩ := checkedAdd_eq_some.1 hheader
    obtain ⟨hmax, rfl⟩ := checkedAdd_eq_some.1 hpayload
    exact ⟨rfl, hmax⟩
  · rintro ⟨rfl, hmax⟩
    exact ⟨_, checkedAdd_eq_some.2 ⟨by omega, rfl⟩, checkedAdd_eq_some.2 ⟨hmax, rfl⟩⟩

end RecordPrefix

/-- What `decode_frame_record` makes of a buffer, by the parts of the record in front of it. -/
structure DecodesTo (crc : Crc32) (segmentHeader : SegmentHeader) (bytes : List UInt8) (fields : RecordPrefix)
    (decoded : DecodedFrameRecord) : Prop where
  spelled : bytes.take frameRecordPrefixLen = fields.bytes
  encodedLen : fields.encodedLen = some decoded.encodedLen
  complete : decoded.encodedLen ≤ bytes.length
  checksum : crc ((bytes.take (frameRecordPrefixLen + fields.headerLen.toNat)).drop frameRecordPrefixLen ++
    (bytes.take decoded.encodedLen).drop (frameRecordPrefixLen + fields.headerLen.toNat)) = fields.expectedCrc
  metadata : decodeMetadata segmentHeader
    ((bytes.take (frameRecordPrefixLen + fields.headerLen.toNat)).drop frameRecordPrefixLen) = .ok decoded.frame.metadata
  payload : (bytes.take decoded.encodedLen).drop (frameRecordPrefixLen + fields.headerLen.toNat) = decoded.frame.bytes

section

variable {bytes : List UInt8} {fields : RecordPrefix} {decoded : DecodedFrameRecord}

theorem EncodedFrame.new_eq_ok {metadata : CapturedFrame} {payload : List UInt8} {frame : EncodedFrame} :
    EncodedFrame.new metadata payload = .ok frame ↔ metadata = frame.metadata ∧ payload = frame.bytes := by
  constructor
  · intro h
    unfold EncodedFrame.new at h
    split at h
    · cases h; exact ⟨rfl, rfl⟩
    · cases h
  · rintro ⟨rfl, rfl⟩
    exact EncodedFrame.new_self frame

theorem decodeFrameRecord_eq_ok : decodeFrameRecord crc segmentHeader bytes = .ok decoded ↔
    ∃ fields, DecodesTo crc segmentHeader bytes fields decoded := by
  constructor
  · intro h
    unfold decodeFrameRecord at h
    obtain ⟨⟨kind, rest⟩, hkind, h⟩ := bind_eq_ok.1 h
    dsimp only at h
    split at h
    · cases h
    rename_i hframe
    obtain ⟨⟨fields, tail⟩, hfields, h⟩ := bind_eq_ok.1 h
    obtain ⟨encodedLen, hencodedLen, h⟩ := bind_eq_ok.1 h
    split at h
    · cases h
    rename_i hwhole
    dsimp only at h
    split at h
    · cases h
    rename_i hcrc
    obtain ⟨metadata, hmetadata, h⟩ := bind_eq_ok.1 h
    obtain ⟨frame, hnew, h⟩ := bind_eq_ok.1 h
    cases pure_eq_ok.1 h
    obtain ⟨rfl, hpayload⟩ := EncodedFrame.new_eq_ok.1 (invalidStoredFrame_eq_ok.1 hnew)
    have hbytes : bytes = fields.bytes ++ tail := by
      rw [consumes_u8 hkind, RecordPrefix.consumes_prefix hfields, not_not.1 hframe, RecordPrefix.bytes]
      simp only [List.append_assoc]
    refine ⟨fields, ?_, okOr_eq_ok.1 hencodedLen, not_lt.1 hwhole, not_not.1 hcrc, hmetadata, hpayload⟩
    rw [hbytes, List.take_left' RecordPrefix.length_bytes]
  · rintro ⟨fields, h⟩
    have hkind := reads_u8 frameRecordKind (u32Bytes fields.headerLen ++ (u64Bytes fields.payloadLen ++
      u32Bytes fields.expectedCrc) ++ bytes.drop frameRecordPrefixLen)
    have hbytes : fields.bytes ++ bytes.drop frameRecordPrefixLen = bytes := by
      rw [← h.spelled, List.take_append_drop]
    change readU8.run (fields.bytes ++ bytes.drop frameRecordPrefixLen) = _ at hkind
    rw [hbytes] at hkind
    have hframe : invalidStoredFrame (EncodedFrame.new decoded.frame.metadata decoded.frame.bytes) = .ok decoded.frame :=
      invalidStoredFrame_eq_ok.2 (EncodedFrame.new_self _)
    unfold decodeFrameRecord
    rw [hkind]
    simp only [ok_bind, RecordPrefix.reads_prefix fields (bytes.drop frameRecordPrefixLen), h.encodedLen, okOr_some, ne_eq, not_true_eq_false,
      if_false, if_neg (not_lt.2 h.complete), h.checksum, h.metadata]
    rw [h.payload, hframe]
    rfl

theorem take_cut {α : Type} {i j n : Nat} (hij : i ≤ j) (hjn : j ≤ n) (l : List α) :
    l.take i ++ ((l.take j).drop i ++ (l.take n).drop j) = l.take n := by
  have hfront : l.take i ++ (l.take j).drop i = l.take j := by
    rw [show l.take i = (l.take j).take i by rw [List.take_take, min_eq_left hij], List.take_append_drop]
  rw [← List.append_assoc, hfront, show l.take j = (l.take n).take j by rw [List.take_take, min_eq_left hjn],
    List.take_append_drop]

/-- What `decode_frame_record` accepts begins with the encoding of the frame that it returns. -/
theorem encodeFrameRecord_of_decode (h : decodeFrameRecord crc segmentHeader bytes = .ok decoded) :
    encodeFrameRecord crc decoded.frame = .ok (bytes.take decoded.encodedLen) := by
  obtain ⟨fields, h⟩ := decodeFrameRecord_eq_ok.1 h
  obtain ⟨hmetadata, hwarnings, -⟩ := metadataBytes_of_decodeMetadata h.metadata
  obtain ⟨hlength, -⟩ := RecordPrefix.encodedLen_eq_some.1 h.encodedLen
  have hcomplete := h.complete
  set headerEnd := frameRecordPrefixLen + fields.headerLen.toNat with hheaderEnd
  have hheader : (metadataBytes decoded.frame.metadata).length = fields.headerLen.toNat := by
    rw [hmetadata, List.length_drop, List.length_take]
    omega
  have hpayload : decoded.frame.bytes.length = fields.payloadLen.toNat := by
    rw [← h.payload, List.length_drop, List.length_take]
    omega
  -- the record is cut at the end of its prefix and at the end of its metadata
  have hcut : fields.bytes ++ (metadataBytes decoded.frame.metadata ++ decoded.frame.bytes) =
      bytes.take decoded.encodedLen := by
    rw [← h.payload, hmetadata, ← h.spelled]
    exact take_cut (by omega) (by omega) bytes
  refine encodeFrameRecord_eq_ok.2 ⟨hwarnings, FrameRecord.encode_eq_ok.2 ⟨⟨?_, ?_⟩, ?_⟩⟩
  · exact hheader ▸ fields.headerLen.toNat_lt
  · exact hpayload ▸ fields.payloadLen.toNat_lt
  · rw [← hcut, FrameRecord.prefixBytes, RecordPrefix.bytes, ← h.checksum, h.payload, ← hmetadata, hheader, hpayload,
      UInt32.ofNat_toNat, UInt64.ofNat_toNat]

end

/-- The record of a frame is read back under a segment header of its session and target.  Whatever is accepted begins
with the encoding of the frame that is returned, and no other bytes are accepted for it: the decoder says how long the
record is, and what stands behind the record in the buffer is not part of it. -/
theorem frame_record_bijection (crc : Crc32) (segmentHeader : SegmentHeader) :
    (∀ (frame : EncodedFrame) (bytes : List UInt8), frame.metadata.sessionId = segmentHeader.sessionId →
      frame.metadata.targetId = segmentHeader.targetId → encodeFrameRecord crc frame = .ok bytes →
        bytes.length ≤ u64Max → decodeFrameRecord crc segmentHeader bytes = .ok { frame, encodedLen := bytes.length }) ∧
    (∀ (bytes : List UInt8) (decoded : DecodedFrameRecord), decodeFrameRecord crc segmentHeader bytes = .ok decoded →
      encodeFrameRecord crc decoded.frame = .ok (bytes.take decoded.encodedLen) ∧ decoded.encodedLen ≤ bytes.length ∧
        decoded.frame.metadata.sessionId = segmentHeader.sessionId ∧
          decoded.frame.metadata.targetId = segmentHeader.targetId) ∧
    ∀ (bytes bytes' : List UInt8) (decoded decoded' : DecodedFrameRecord),
      decodeFrameRecord crc segmentHeader bytes = .ok decoded → decodeFrameRecord crc segmentHeader bytes' = .ok decoded' →
        decoded.frame = decoded'.frame → bytes.take decoded.encodedLen = bytes'.take decoded'.encodedLen := by
  refine ⟨fun frame bytes hsession htarget hencode hlength => decodeFrameRecord_encode hsession htarget hencode hlength,
    fun bytes decoded h => ?_, fun bytes bytes' decoded decoded' h h' hframe => ?_⟩
  · obtain ⟨fields, hdecodes⟩ := decodeFrameRecord_eq_ok.1 h
    obtain ⟨-, -, hcontext⟩ := metadataBytes_of_decodeMetadata hdecodes.metadata
    exact ⟨encodeFrameRecord_of_decode h, hdecodes.complete, hcontext⟩
  · have hencode := encodeFrameRecord_of_decode h
    rw [hframe, encodeFrameRecord_of_decode h'] at hencode
    exact (Except.ok.inj hencode).symm

deriving instance DecidableEq for DecodedFrameRecord

/-- The record of a frame with one more byte behind it. -/
def overlongRecord : List UInt8 := (frameAt 1).record.bytes (fun _ => 0) ++ [0]

theorem frame_record_bijection_single :
    decodeFrameRecord (fun _ => 0) zeroHeader ((frameAt 1).record.bytes fun _ => 0) =
        .ok { frame := frameAt 1, encodedLen := ((frameAt 1).record.bytes fun _ => 0).length } ∧
      encodeFrameRecord (fun _ => 0) (frameAt 1) = .ok (overlongRecord.take 86) :=
  ⟨(frame_record_bijection (fun _ => 0) zeroHeader).1 (frameAt 1) _ rfl rfl (encode_frameAt _ _) (by decide +kernel),
    ((frame_record_bijection (fun _ => 0) zeroHeader).2.1 overlongRecord ⟨frameAt 1, 86⟩ (by decide +kernel)).1⟩

/-- A longer buffer is accepted, and the frame that it is decoded to is encoded without the byte behind the record. -/
theorem overlong_record_accepted : ¬∀ (crc : Crc32) (segmentHeader : SegmentHeader) (bytes : List UInt8)
    (decoded : DecodedFrameRecord), decodeFrameRecord crc segmentHeader bytes = .ok decoded →
      encodeFrameRecord crc decoded.frame = .ok bytes := by
  intro h
  have hdecode : decodeFrameRecord (fun _ => 0) zeroHeader overlongRecord = .ok ⟨frameAt 1, 86⟩ := by decide +kernel
  have hlonger := h (fun _ => 0) zeroHeader overlongRecord _ hdecode
  exact absurd hlonger (by decide +kernel)

end Krometrail
