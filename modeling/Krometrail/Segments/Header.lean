import Krometrail.Segments.Wire

/-!
# Segment headers and sealed footers

The two fixed-width frames of a segment file.  Each is a magic number and big-endian fields under a trailing CRC32
of the bytes before it.  The checksum function is a parameter `crc` throughout; nothing here depends on what it
computes.
-/

namespace Krometrail

open BigEndian Readers

/-- `crc32fast::hash` and `Hasher`: a checksum of a byte string. -/
abbrev Crc32 : Type := List UInt8 → UInt32

/-- Bytes followed by their checksum. -/
def withChecksum (crc : Crc32) (covered : List UInt8) : List UInt8 := covered ++ u32Bytes (crc covered)

@[simp] theorem length_withChecksum (crc : Crc32) (covered : List UInt8) :
    (withChecksum crc covered).length = covered.length + 4 := by
  simp [withChecksum]

@[simp] theorem take_withChecksum {crc : Crc32} {covered : List UInt8} {n : Nat} (h : covered.length = n) :
    (withChecksum crc covered).take n = covered := by
  simp [withChecksum, ← h]

@[simp] theorem drop_withChecksum {crc : Crc32} {covered : List UInt8} {n : Nat} (h : covered.length = n) :
    (withChecksum crc covered).drop n = u32Bytes (crc covered) := by
  simp [withChecksum, ← h]

/-- `b"KTSF"`. -/
def segmentMagic : List UInt8 := [0x4b, 0x54, 0x53, 0x46]

def formatVersion : UInt16 := 1

def segmentHeaderLen : Nat := 90

structure SegmentHeader where
  segmentId : SegmentId
  sessionId : SessionId
  targetId : TargetId
  startSessionTime : SessionTime
  createdObserved : ObservedTime
  rotationMaxDurationNanos : UInt64
  rotationMaxSize : UInt64
  deriving DecidableEq

namespace SegmentHeader

/-- The header bytes that the checksum covers. -/
def covered (header : SegmentHeader) : List UInt8 :=
  segmentMagic ++ (u16Bytes formatVersion ++ (header.segmentId.uuid.bytes ++ (header.sessionId.uuid.bytes ++
    (header.targetId.uuid.bytes ++ (u64Bytes header.startSessionTime.nanos ++
      (u64Bytes header.createdObserved.nanos ++ (u64Bytes header.rotationMaxDurationNanos ++
        u64Bytes header.rotationMaxSize)))))))

def encode (crc : Crc32) (header : SegmentHeader) : List UInt8 := withChecksum crc header.covered

/-- The fields of `decode`, behind the checksum. -/
def readFields : WireReader SegmentHeader := do
  let magic ← readBytes 4
  ensure (persistenceError "segment header magic is invalid") (magic = segmentMagic)
  let version ← readU16
  ensure (persistenceError s!"unsupported segment format version: expected {formatVersion}, observed {version}")
    (version = formatVersion)
  return {
    segmentId := ⟨← readUuid⟩
    sessionId := ⟨← readUuid⟩
    targetId := ⟨← readUuid⟩
    startSessionTime := ⟨← readU64⟩
    createdObserved := ⟨← readU64⟩
    rotationMaxDurationNanos := ← readU64
    rotationMaxSize := ← readU64 }

def decode (crc : Crc32) (bytes : List UInt8) : Result SegmentHeader :=
  if bytes.length ≠ segmentHeaderLen then
    .error (persistenceError s!"segment header must be {segmentHeaderLen} bytes, observed {bytes.length}")
  else if UInt32.ofNat (ofBytes (bytes.drop (segmentHeaderLen - 4))) ≠ crc (bytes.take (segmentHeaderLen - 4)) then
    .error (persistenceError "segment header CRC32 mismatch")
  else (readFields.run (bytes.take (segmentHeaderLen - 4))).map (·.1)

@[simp] theorem length_covered (header : SegmentHeader) : header.covered.length = 86 := by
  simp [covered, segmentMagic]

@[simp] theorem length_encode (crc : Crc32) (header : SegmentHeader) :
    (header.encode crc).length = segmentHeaderLen := by
  simp [encode, segmentHeaderLen]

theorem reads_covered (header : SegmentHeader) : Reads readFields header.covered header := by
  refine Reads.bind (reads_bytes rfl) (Reads.bind_pure (reads_ensure _ rfl) ?_)
  refine Reads.bind (reads_u16 formatVersion) (Reads.bind_pure (reads_ensure _ rfl) ?_)
  refine Reads.bind (reads_uuid _) (Reads.bind (reads_uuid _) (Reads.bind (reads_uuid _) ?_))
  refine Reads.bind (reads_u64 _) (Reads.bind (reads_u64 _) (Reads.bind (reads_u64 _) ?_))
  exact (reads_u64 _).map fun rotationMaxSize => { header with rotationMaxSize }

@[simp] theorem decode_encode (crc : Crc32) (header : SegmentHeader) : decode crc (header.encode crc) = .ok header := by
  have htake : (header.encode crc).take (segmentHeaderLen - 4) = header.covered :=
    take_withChecksum (length_covered header)
  have hdrop : (header.encode crc).drop (segmentHeaderLen - 4) = u32Bytes (crc header.covered) :=
    drop_withChecksum (length_covered header)
  rw [decode, if_neg (by simp), htake, hdrop, if_neg (by simp), (reads_covered header).run_eq]
  rfl

end SegmentHeader

/-- `b"KTSE"`. -/
def sealedFooterMagic : List UInt8 := [0x4b, 0x54, 0x53, 0x45]

def sealedFooterLen : Nat := 64

structure SealedFooter where
  segmentId : SegmentId
  recordCount : UInt64
  totalPayload : UInt64
  firstSessionTime : SessionTime
  lastSessionTime : SessionTime
  sealedObserved : ObservedTime
  deriving DecidableEq

namespace SealedFooter

/-- The session times of the footer are in order. -/
def Ordered (footer : SealedFooter) : Prop := footer.firstSessionTime.nanos ≤ footer.lastSessionTime.nanos

instance (footer : SealedFooter) : Decidable footer.Ordered := inferInstanceAs (Decidable (_ ≤ _))

/-- The footer bytes that the checksum covers. -/
def covered (footer : SealedFooter) : List UInt8 :=
  sealedFooterMagic ++ (footer.segmentId.uuid.bytes ++ (u64Bytes footer.recordCount ++
    (u64Bytes footer.totalPayload ++ (u64Bytes footer.firstSessionTime.nanos ++
      (u64Bytes footer.lastSessionTime.nanos ++ u64Bytes footer.sealedObserved.nanos)))))

def encode (crc : Crc32) (footer : SealedFooter) : List UInt8 := withChecksum crc footer.covered

/-- The magic number and the fields of `decode`. -/
def readFields : WireReader SealedFooter := do
  let magic ← readBytes 4
  ensure (persistenceError "sealed footer magic is invalid") (magic = sealedFooterMagic)
  return {
    segmentId := ⟨← readUuid⟩
    recordCount := ← readU64
    totalPayload := ← readU64
    firstSessionTime := ⟨← readU64⟩
    lastSessionTime := ⟨← readU64⟩
    sealedObserved := ⟨← readU64⟩ }

/-- The check of `decode` on the session times. -/
def checkTimes (footer : SealedFooter) : Result SealedFooter :=
  if footer.firstSessionTime.nanos > footer.lastSessionTime.nanos then
    .error (persistenceError "sealed footer first session time exceeds last session time")
  else .ok footer

def decode (crc : Crc32) (bytes : List UInt8) : Result SealedFooter :=
  if bytes.length ≠ sealedFooterLen then
    .error (persistenceError s!"sealed footer must be {sealedFooterLen} bytes, observed {bytes.length}")
  else if UInt32.ofNat (ofBytes (bytes.drop (sealedFooterLen - 4))) ≠ crc (bytes.take (sealedFooterLen - 4)) then
    .error (persistenceError "sealed footer CRC32 mismatch")
  else (readFields.run (bytes.take (sealedFooterLen - 4))).bind fun read => read.1.checkTimes

@[simp] theorem length_covered (footer : SealedFooter) : footer.covered.length = 60 := by
  simp [covered, sealedFooterMagic]

@[simp] theorem length_encode (crc : Crc32) (footer : SealedFooter) : (footer.encode crc).length = sealedFooterLen := by
  simp [encode, sealedFooterLen]

theorem checkTimes_eq_ok {footer footer' : SealedFooter} :
    footer.checkTimes = .ok footer' ↔ footer = footer' ∧ footer.Ordered := by
  unfold checkTimes
  split
  · rename_i hlt
    exact ⟨nofun, fun ⟨_, hordered⟩ => absurd hordered (UInt64.not_le.2 hlt)⟩
  · rename_i hle
    exact ⟨fun h => ⟨Except.ok.inj h, UInt64.not_lt.1 hle⟩, fun h => congrArg Except.ok h.1⟩

theorem reads_covered (footer : SealedFooter) : Reads readFields footer.covered footer := by
  refine Reads.bind (reads_bytes rfl) (Reads.bind_pure (reads_ensure _ rfl) ?_)
  refine Reads.bind (reads_uuid _) (Reads.bind (reads_u64 _) (Reads.bind (reads_u64 _) ?_))
  refine Reads.bind (reads_u64 _) (Reads.bind (reads_u64 _) ?_)
  exact (reads_u64 _).map fun sealedObserved => { footer with sealedObserved := ⟨sealedObserved⟩ }

@[simp] theorem decode_encode (crc : Crc32) (footer : SealedFooter) : decode crc (footer.encode crc) = footer.checkTimes := by
  have htake : (footer.encode crc).take (sealedFooterLen - 4) = footer.covered :=
    take_withChecksum (length_covered footer)
  have hdrop : (footer.encode crc).drop (sealedFooterLen - 4) = u32Bytes (crc footer.covered) :=
    drop_withChecksum (length_covered footer)
  rw [decode, if_neg (by simp), htake, hdrop, if_neg (by simp), (reads_covered footer).run_eq]
  rfl

theorem encode_eq_magic_append (crc : Crc32) (footer : SealedFooter) :
    ∃ rest, footer.encode crc = sealedFooterMagic ++ rest :=
  ⟨_, by rw [encode, withChecksum, covered, List.append_assoc]⟩

end SealedFooter

end Krometrail
