import Krometrail.Segments.Record

/-!
# The segment scanner

`scanRecordRegion` goes through the record region of a segment file.  What stands at the front of the unread bytes
is decided by `scanRecord`: a whole record, or the reason to stop.  The lemmas say what it makes of a whole record,
of a whole footer, and of a part of either that a torn write leaves behind.
-/

namespace Krometrail

open BigEndian Readers

structure RecordSpan where
  byteOffset : Nat
  encodedLen : Nat
  headerLen : Nat
  payloadLen : Nat
  deriving DecidableEq

inductive Trailing where
  | clean
  | incomplete (offset : Nat)
  | corrupt (offset : Nat)
  deriving DecidableEq

structure ScanResult where
  records : List RecordSpan
  trailing : Trailing
  deriving DecidableEq

def looksLikeFooter (bytes : List UInt8) : Bool :=
  let compared := min bytes.length sealedFooterMagic.length
  compared > 0 && bytes.take compared == sealedFooterMagic.take compared

/-- The footer branch of the scan loop. -/
def scanFooter (crc : Crc32) (header : SegmentHeader) (offset : Nat) (remaining : List UInt8) : Trailing :=
  if remaining.length ≠ sealedFooterLen then
    if remaining.length < sealedFooterLen then .incomplete offset else .corrupt offset
  else
    match SealedFooter.decode crc remaining with
    | .ok footer => if footer.segmentId = header.segmentId then .clean else .corrupt offset
    | .error _ => .corrupt offset

/-- The fields of a frame record prefix in front of the unread bytes, or `none` for a record of another kind. -/
def readRecordPrefix (remaining : List UInt8) : Option RecordPrefix :=
  match readU8.run (remaining.take frameRecordPrefixLen) with
  | .error _ => none
  | .ok (kind, rest) =>
    if kind ≠ frameRecordKind then none
    else
      match readPrefix.run rest with
      | .error _ => none
      | .ok (fields, _) => some fields

/-- One turn of the scan loop: the record in front of the unread bytes, or why there is none. -/
def scanRecord (crc : Crc32) (header : SegmentHeader) (offset : Nat) (remaining : List UInt8) :
    Except Trailing RecordSpan :=
  if looksLikeFooter remaining then .error (scanFooter crc header offset remaining)
  else if remaining.length < frameRecordPrefixLen then .error (.incomplete offset)
  else
    match readRecordPrefix remaining with
    | none => .error (.corrupt offset)
    | some fields =>
      match fields.encodedLen with
      | none => .error (.corrupt offset)
      | some encodedLen =>
        if (checkedAdd offset encodedLen).isNone then .error (.corrupt offset)
        else if remaining.length < encodedLen then .error (.incomplete offset)
        else if crc ((remaining.take encodedLen).drop frameRecordPrefixLen) ≠ fields.expectedCrc then
          .error (.corrupt offset)
        else
          .ok { byteOffset := offset, encodedLen, headerLen := fields.headerLen.toNat,
                payloadLen := fields.payloadLen.toNat }

/-- The unread bytes begin with a whole record that the scanner takes. -/
structure Whole (crc : Crc32) (offset : Nat) (remaining : List UInt8) (span : RecordSpan) (fields : RecordPrefix) :
    Prop where
  notFooter : looksLikeFooter remaining = false
  prefix_le : frameRecordPrefixLen ≤ remaining.length
  readPrefix : readRecordPrefix remaining = some fields
  encodedLen : fields.encodedLen = some span.encodedLen
  addressable : offset + span.encodedLen ≤ u64Max
  complete : span.encodedLen ≤ remaining.length
  checksum : crc ((remaining.take span.encodedLen).drop frameRecordPrefixLen) = fields.expectedCrc
  byteOffset : span.byteOffset = offset
  headerLen : span.headerLen = fields.headerLen.toNat
  payloadLen : span.payloadLen = fields.payloadLen.toNat

section

variable {crc : Crc32} {header : SegmentHeader} {offset : Nat} {remaining : List UInt8} {span : RecordSpan}

theorem isNone_checkedAdd {a b : Nat} : (checkedAdd a b).isNone = true ↔ ¬a + b ≤ u64Max := by
  unfold checkedAdd
  split <;> simp_all

theorem scanRecord_eq_ok :
    scanRecord crc header offset remaining = .ok span ↔ ∃ fields, Whole crc offset remaining span fields := by
  constructor
  · intro h
    unfold scanRecord at h
    split at h
    · cases h
    split at h
    · cases h
    rename_i hfooter hprefix
    cases hfields : readRecordPrefix remaining with
    | none => simp [hfields] at h
    | some fields =>
      cases hlen : fields.encodedLen with
      | none => simp [hfields, hlen] at h
      | some encodedLen =>
        simp only [hfields, hlen, isNone_checkedAdd] at h
        split at h
        · cases h
        split at h
        · cases h
        split at h
        · cases h
        rename_i haddr hcomplete hcrc
        cases h
        exact ⟨fields, by simpa using hfooter, not_lt.1 hprefix, hfields, hlen, not_not.1 haddr, not_lt.1 hcomplete,
          not_not.1 hcrc, rfl, rfl, rfl⟩
  · rintro ⟨fields, h⟩
    obtain ⟨byteOffset, encodedLen, headerLen, payloadLen⟩ := span
    obtain ⟨hfooter, hprefix, hfields, hlen, haddr, hcomplete, hcrc, hoffset, hheader, hpayload⟩ := h
    simp only at hlen haddr hcomplete hcrc hoffset hheader hpayload
    rw [scanRecord, if_neg (by simp [hfooter]), if_neg (by omega)]
    simp only [hfields, hlen]
    rw [if_neg (by rw [isNone_checkedAdd]; exact not_not.2 haddr), if_neg (by omega), if_neg (not_not.2 hcrc)]
    simp [hoffset, hheader, hpayload]

variable {fields : RecordPrefix}

theorem RecordPrefix.le_encodedLen {encodedLen : Nat} (h : fields.encodedLen = some encodedLen) :
    frameRecordPrefixLen ≤ encodedLen := by
  simp only [RecordPrefix.encodedLen, Option.bind_eq_some_iff, checkedAdd_eq_some] at h
  omega

theorem Whole.prefix_le_encodedLen (h : Whole crc offset remaining span fields) :
    frameRecordPrefixLen ≤ span.encodedLen := RecordPrefix.le_encodedLen h.encodedLen

theorem Whole.congr {remaining' : List UInt8} (h : Whole crc offset remaining span fields)
    (hcomplete : span.encodedLen ≤ remaining'.length) (heq : remaining'.take span.encodedLen = remaining.take span.encodedLen) :
    Whole crc offset remaining' span fields := by
  have hle := h.prefix_le_encodedLen
  have hprefix : remaining'.take frameRecordPrefixLen = remaining.take frameRecordPrefixLen := by
    have := congrArg (List.take frameRecordPrefixLen) heq
    rwa [List.take_take, List.take_take, min_eq_left hle] at this
  have hmagic : remaining'.take sealedFooterMagic.length = remaining.take sealedFooterMagic.length := by
    have := congrArg (List.take sealedFooterMagic.length) hprefix
    rwa [List.take_take, List.take_take] at this
  have hlong : ∀ bytes : List UInt8, frameRecordPrefixLen ≤ bytes.length →
      min bytes.length sealedFooterMagic.length = sealedFooterMagic.length := by
    intro bytes hbytes
    exact min_eq_right (le_trans (by decide) hbytes)
  refine { h with notFooter := ?_, prefix_le := hle.trans hcomplete, readPrefix := ?_, complete := hcomplete,
                  checksum := ?_ }
  · rw [← h.notFooter, looksLikeFooter, looksLikeFooter, hlong _ (hle.trans hcomplete), hlong _ h.prefix_le, hmagic]
  · rw [← h.readPrefix, readRecordPrefix, readRecordPrefix, hprefix]
  · rw [heq, h.checksum]

end

def scanRecordRegion (crc : Crc32) (header : SegmentHeader) (offset : Nat) (remaining : List UInt8) : ScanResult :=
  if remaining = [] then { records := [], trailing := .clean }
  else
    match h : scanRecord crc header offset remaining with
    | .error trailing => { records := [], trailing }
    | .ok span =>
      let rest := scanRecordRegion crc header (offset + span.encodedLen) (remaining.drop span.encodedLen)
      { rest with records := span :: rest.records }
termination_by remaining.length
decreasing_by
  obtain ⟨fields, hwhole⟩ := scanRecord_eq_ok.1 h
  have hprefix := hwhole.prefix_le_encodedLen
  have hcomplete := hwhole.complete
  simp only [frameRecordPrefixLen] at hprefix
  rw [List.length_drop]
  omega

section

variable {crc : Crc32} {header : SegmentHeader} {offset : Nat} {remaining : List UInt8} {span : RecordSpan}
  {trailing : Trailing}

@[simp] theorem scanRecordRegion_nil : scanRecordRegion crc header offset [] = { records := [], trailing := .clean } := by
  rw [scanRecordRegion, if_pos rfl]

theorem scanRecordRegion_stop (hne : remaining ≠ []) (h : scanRecord crc header offset remaining = .error trailing) :
    scanRecordRegion crc header offset remaining = { records := [], trailing } := by
  rw [scanRecordRegion, if_neg hne]
  split
  · rename_i h'
    rw [Except.error.inj (h'.symm.trans h)]
  · rename_i h'
    cases h'.symm.trans h

theorem scanRecordRegion_record (h : scanRecord crc header offset remaining = .ok span) :
    scanRecordRegion crc header offset remaining =
      let rest := scanRecordRegion crc header (offset + span.encodedLen) (remaining.drop span.encodedLen)
      { rest with records := span :: rest.records } := by
  obtain ⟨fields, hwhole⟩ := scanRecord_eq_ok.1 h
  have hne : remaining ≠ [] := by
    rintro rfl
    exact absurd hwhole.prefix_le (by decide)
  rw [scanRecordRegion, if_neg hne]
  split
  · rename_i h'
    cases h'.symm.trans h
  · rename_i span' h'
    obtain rfl := Except.ok.inj (h'.symm.trans h)
    rfl

end

def scanCompleteRecordsFrom (crc : Crc32) (segmentBytes : List UInt8) (base : Nat) : Result ScanResult := do
  if segmentBytes.length < segmentHeaderLen then .error (persistenceError "segment is shorter than its header") else do
  let header ← SegmentHeader.decode crc (segmentBytes.take segmentHeaderLen)
  if base < segmentHeaderLen then
    .error (persistenceError "segment scan base points inside the segment header")
  else if base > segmentBytes.length then
    .error (persistenceError "segment scan base exceeds the segment length")
  else return scanRecordRegion crc header base (segmentBytes.drop base)

def scanCompleteRecords (crc : Crc32) (segmentBytes : List UInt8) : Result ScanResult :=
  scanCompleteRecordsFrom crc segmentBytes segmentHeaderLen

/-- `read_frame_from` over a cursor on `segmentBytes`. -/
def readFrameAt (crc : Crc32) (segmentBytes : List UInt8) (address : FrameAddress) : Result EncodedFrame := do
  if address.byteOffset < segmentHeaderLen then
    .error (persistenceError "frame address points inside the segment header")
  else if segmentBytes.length < segmentHeaderLen then .error (persistenceError "could not read the segment header")
  else do
  let header ← SegmentHeader.decode crc (segmentBytes.take segmentHeaderLen)
  if header.segmentId ≠ address.segmentId then
    .error (persistenceError "frame address segment identifier does not match the segment header")
  else do
  let remaining := segmentBytes.drop address.byteOffset
  if remaining.length < frameRecordPrefixLen then .error (persistenceError "could not read the frame record prefix")
  else do
  let fields ← okOr (readRecordPrefix remaining) (persistenceError "segment record kind is not a frame")
  let tailLen ← okOr (checkedAdd fields.headerLen.toNat fields.payloadLen.toNat)
    (persistenceError "frame record length overflow")
  if remaining.length < frameRecordPrefixLen + tailLen then
    .error (persistenceError "could not read the complete frame record")
  else do
  let decoded ← decodeFrameRecord crc header (remaining.take (frameRecordPrefixLen + tailLen))
  return decoded.frame

theorem looksLikeFooter_cons {byte : UInt8} (hbyte : byte ≠ 0x4b) (rest : List UInt8) :
    looksLikeFooter (byte :: rest) = false := by
  unfold looksLikeFooter
  obtain ⟨n, hn⟩ : ∃ n, min (byte :: rest).length sealedFooterMagic.length = n + 1 :=
    ⟨min rest.length 3, by simp [sealedFooterMagic]; omega⟩
  simp only [hn]
  simp [sealedFooterMagic, hbyte]

namespace FrameRecord

variable {crc : Crc32} {header : SegmentHeader} {offset : Nat} {record : FrameRecord}

def bytes (crc : Crc32) (record : FrameRecord) : List UInt8 :=
  record.prefixBytes crc ++ (record.headerBytes ++ record.payloadBytes)

def encodedLen (record : FrameRecord) : Nat :=
  frameRecordPrefixLen + record.headerBytes.length + record.payloadBytes.length

/-- The span of a record at `offset`. -/
def span (offset : Nat) (record : FrameRecord) : RecordSpan where
  byteOffset := offset
  encodedLen := record.encodedLen
  headerLen := record.headerBytes.length
  payloadLen := record.payloadBytes.length

@[simp] theorem length_bytes : (record.bytes crc).length = record.encodedLen := by
  simp [bytes, encodedLen, Nat.add_assoc]

theorem encodedLen_fields (hfits : record.Fits) (hlength : record.encodedLen ≤ u64Max) :
    (record.fields crc).encodedLen = some record.encodedLen := hfits.encodedLen hlength

theorem readRecordPrefix_of_take {remaining : List UInt8}
    (h : remaining.take frameRecordPrefixLen = record.prefixBytes crc) :
    readRecordPrefix remaining = some (record.fields crc) := by
  have hkind := reads_u8 frameRecordKind (u32Bytes (record.fields crc).headerLen ++
    (u64Bytes (record.fields crc).payloadLen ++ u32Bytes (record.fields crc).expectedCrc))
  change readU8.run (record.prefixBytes crc) = _ at hkind
  rw [readRecordPrefix, h, hkind]
  simp only [ne_eq, not_true_eq_false, if_false, (reads_fields crc record).run_eq]

theorem whole (hfits : record.Fits) (haddressable : offset + record.encodedLen ≤ u64Max)
    (rest : List UInt8) : Whole crc offset (record.bytes crc ++ rest) (record.span offset) (record.fields crc) where
  notFooter := looksLikeFooter_cons (by decide) _
  prefix_le := by simp [bytes]
  readPrefix := readRecordPrefix_of_take (by rw [bytes, List.append_assoc, List.take_left' length_prefixBytes])
  encodedLen := encodedLen_fields hfits (by omega)
  addressable := haddressable
  complete := by simp [span]
  checksum := by
    rw [span, List.take_left' length_bytes, bytes, List.drop_left' length_prefixBytes]
    rfl
  byteOffset := rfl
  headerLen := hfits.toNat_headerLen.symm
  payloadLen := hfits.toNat_payloadLen.symm

theorem scanRecord_torn (hfits : record.Fits) (haddressable : offset + record.encodedLen ≤ u64Max)
    {n : Nat} (hpos : 0 < n) (hlt : n < record.encodedLen) :
    scanRecord crc header offset ((record.bytes crc).take n) = .error (.incomplete offset) := by
  have hlength : ((record.bytes crc).take n).length = n := by
    rw [List.length_take, length_bytes, min_eq_left hlt.le]
  have hfooter : looksLikeFooter ((record.bytes crc).take n) = false := by
    obtain ⟨m, rfl⟩ := Nat.exists_eq_succ_of_ne_zero hpos.ne'
    exact looksLikeFooter_cons (by decide) _
  rw [scanRecord, if_neg (by simp [hfooter]), hlength]
  split
  · rfl
  · rename_i hprefix
    have htake : ((record.bytes crc).take n).take frameRecordPrefixLen = record.prefixBytes crc := by
      rw [List.take_take, min_eq_left (not_lt.1 hprefix), bytes, List.take_left' length_prefixBytes]
    simp only [readRecordPrefix_of_take htake, encodedLen_fields hfits (show record.encodedLen ≤ u64Max by omega)]
    rw [if_neg (by rw [isNone_checkedAdd]; exact not_not.2 haddressable), if_pos hlt]

end FrameRecord

namespace SealedFooter

variable {crc : Crc32} {header : SegmentHeader} {offset : Nat} {footer : SealedFooter}

theorem looksLikeFooter_take {n : Nat} (hpos : 0 < n) : looksLikeFooter ((footer.encode crc).take n) = true := by
  obtain ⟨rest, hrest⟩ := encode_eq_magic_append crc footer
  have hlen : ((footer.encode crc).take n).length = min n sealedFooterLen := by rw [List.length_take, length_encode]
  have hmagic : ∀ m ≤ sealedFooterMagic.length, m ≤ n →
      ((footer.encode crc).take n).take m = sealedFooterMagic.take m := by
    intro m hm hmn
    rw [List.take_take, min_eq_left hmn, hrest, List.take_append_of_le_length hm]
  have hcompared : 0 < min (min n sealedFooterLen) sealedFooterMagic.length := by
    simp only [sealedFooterLen, sealedFooterMagic, List.length_cons, List.length_nil]
    omega
  have htake := hmagic (min (min n sealedFooterLen) sealedFooterMagic.length) (min_le_right _ _) (by omega)
  simp only [looksLikeFooter, hlen, htake, beq_self_eq_true, Bool.and_true, decide_eq_true_eq]
  exact hcompared

/-- The scanner stops at a footer of its segment: at a clean end when the session times are in order, and at a corrupt
one otherwise. -/
theorem scanRecord_footer (hsegment : footer.segmentId = header.segmentId) :
    scanRecord crc header offset (footer.encode crc) =
      .error (if footer.Ordered then .clean else .corrupt offset) := by
  have hfooter : looksLikeFooter (footer.encode crc) = true := by
    have htake : (footer.encode crc).take sealedFooterLen = footer.encode crc := List.take_of_length_le (by simp)
    exact htake ▸ looksLikeFooter_take (by decide)
  rw [scanRecord, if_pos hfooter, scanFooter, if_neg (by simp), decode_encode, checkTimes]
  by_cases hordered : footer.Ordered
  · rw [if_neg (UInt64.not_lt.2 hordered), if_pos hordered]
    simp [hsegment]
  · rw [if_pos (UInt64.not_le.1 hordered), if_neg hordered]

theorem scanRecord_torn {n : Nat} (hpos : 0 < n) (hlt : n < sealedFooterLen) :
    scanRecord crc header offset ((footer.encode crc).take n) = .error (.incomplete offset) := by
  have hlen : ((footer.encode crc).take n).length = n := by
    rw [List.length_take, length_encode, min_eq_left hlt.le]
  rw [scanRecord, if_pos (looksLikeFooter_take hpos), scanFooter, hlen, if_pos hlt.ne, if_pos hlt]

end SealedFooter

end Krometrail
