import Krometrail.Segments.Canonical

/-!
# Random access to a record

`read_frame_from` reads the prefix of the addressed record, makes a buffer as long as the prefix says and only then
asks the file for the rest.  `readFrameFrom` keeps what the two lengths can do to the process: the sum that is not
checked, the allocation and the slice behind the prefix.  Wherever it returns, it agrees with `readFrameAt` and so with
`decode_frame_record` on the bytes from the address on.
-/

namespace Krometrail

open BigEndian Readers Results

/-- How a call ends: with a value, or with the process. -/
inductive CallEnd (α : Type) where
  | returned (value : α)
  | aborted

/-- What the build and the machine decide: whether sums are checked, and how large an allocation can be. -/
structure Platform where
  overflowChecks : Bool
  memory : Nat
  memory_le : memory ≤ isizeMax

/-- `a + b` in `usize`, or `none` for the panic of a build that checks sums. -/
def Platform.add (platform : Platform) (a b : Nat) : Option Nat :=
  if a + b ≤ u64Max then some (a + b)
  else if platform.overflowChecks then none
  else some ((a + b) % 2 ^ 64)

theorem Platform.add_of_le (platform : Platform) {a b : Nat} (h : a + b ≤ u64Max) : platform.add a b = some (a + b) :=
  if_pos h

/-- `read_frame_from` up to the length of what stands behind the prefix. -/
def openRecord (crc : Crc32) (segmentBytes : List UInt8) (address : FrameAddress) : Result (SegmentHeader × Nat) := do
  if address.byteOffset < segmentHeaderLen then
    .error (persistenceError "frame address points inside the segment header")
  else if segmentBytes.length < segmentHeaderLen then .error (persistenceError "could not read the segment header")
  else do
  let header ← SegmentHeader.decode crc (segmentBytes.take segmentHeaderLen)
  if header.segmentId ≠ address.segmentId then
    .error (persistenceError "frame address segment identifier does not match the segment header")
  else do
  let remaining := segmentBytes.drop address.byteOffset
  if remaining.length < frameRecordPrefixLen then .error (persistenceError "could not read the frame record prefix")
  else do
  let fields ← okOr (readRecordPrefix remaining) (persistenceError "segment record kind is not a frame")
  let tailLen ← okOr (checkedAdd fields.headerLen.toNat fields.payloadLen.toNat)
    (persistenceError "frame record length overflow")
  return (header, tailLen)

/-- `read_frame_from` over a cursor on `segmentBytes`. -/
def readFrameFrom (platform : Platform) (crc : Crc32) (segmentBytes : List UInt8) (address : FrameAddress) :
    CallEnd (Result EncodedFrame) :=
  match openRecord crc segmentBytes address with
  | .error error => .returned (.error error)
  | .ok (header, tailLen) =>
    match platform.add frameRecordPrefixLen tailLen with
    | none => .aborted
    | some encodedLen =>
      -- `Vec::with_capacity`, and `resize` to the same length
      if platform.memory < encodedLen then .aborted
      -- `&mut encoded[FRAME_RECORD_PREFIX_LEN..]`
      else if encodedLen < frameRecordPrefixLen then .aborted
      else if (segmentBytes.drop address.byteOffset).length < encodedLen then
        .returned (.error (persistenceError "could not read the complete frame record"))
      else .returned ((decodeFrameRecord crc header ((segmentBytes.drop address.byteOffset).take encodedLen)).map
        (·.frame))

/-- The address stands behind the header of its segment. -/
structure Addressed (crc : Crc32) (segmentBytes : List UInt8) (address : FrameAddress) (header : SegmentHeader) : Prop where
  behindHeader : segmentHeaderLen ≤ address.byteOffset
  decoded : SegmentHeader.decode crc (segmentBytes.take segmentHeaderLen) = .ok header
  segment : header.segmentId = address.segmentId

/-- The prefix at the address declares a record that is longer than an allocation can be, with lengths whose sum still
fits `usize`. -/
def Oversized (platform : Platform) (crc : Crc32) (segmentBytes : List UInt8) (address : FrameAddress) : Prop :=
  ∃ header fields, Addressed crc segmentBytes address header ∧
    (segmentBytes.drop address.byteOffset).take frameRecordPrefixLen = RecordPrefix.bytes fields ∧
      fields.headerLen.toNat + fields.payloadLen.toNat ≤ u64Max ∧
        platform.memory < frameRecordPrefixLen + fields.headerLen.toNat + fields.payloadLen.toNat

variable {platform : Platform} {crc : Crc32} {segmentBytes : List UInt8} {address : FrameAddress} {header : SegmentHeader}

theorem readRecordPrefix_eq_some {remaining : List UInt8} {fields : RecordPrefix} :
    readRecordPrefix remaining = some fields ↔ remaining.take frameRecordPrefixLen = fields.bytes := by
  unfold readRecordPrefix
  constructor
  · intro h
    split at h
    · cases h
    rename_i kind rest hkind
    split at h
    · cases h
    rename_i hframe
    split at h
    · cases h
    rename_i fields' tail hfields
    cases h
    have hbytes : remaining.take frameRecordPrefixLen = fields.bytes ++ tail := by
      rw [consumes_u8 hkind, RecordPrefix.consumes_prefix hfields, not_not.1 hframe, RecordPrefix.bytes]
      simp only [List.append_assoc]
    -- the prefix is as long as what was taken
    have htail : tail.length = 0 := by
      have hlength := congrArg List.length hbytes
      rw [List.length_append, RecordPrefix.length_bytes, List.length_take] at hlength
      omega
    rw [hbytes, List.length_eq_zero_iff.1 htail, List.append_nil]
  · intro h
    have hkind := reads_u8 frameRecordKind (u32Bytes fields.headerLen ++ (u64Bytes fields.payloadLen ++
      u32Bytes fields.expectedCrc))
    change readU8.run fields.bytes = _ at hkind
    rw [h, hkind]
    simp only [ne_eq, not_true_eq_false, if_false, (RecordPrefix.reads_prefix fields).run_eq]

theorem Addressed.header_le (h : Addressed crc segmentBytes address header) : segmentHeaderLen ≤ segmentBytes.length := by
  by_contra hshort
  have hlength : (segmentBytes.take segmentHeaderLen).length ≠ segmentHeaderLen := by
    rw [List.length_take]
    omega
  have hdecoded := h.decoded
  rw [SegmentHeader.decode, if_pos hlength] at hdecoded
  cases hdecoded

variable {tailLen : Nat}

theorem openRecord_eq_ok : openRecord crc segmentBytes address = .ok (header, tailLen) ↔
    Addressed crc segmentBytes address header ∧
      ∃ fields : RecordPrefix, (segmentBytes.drop address.byteOffset).take frameRecordPrefixLen = fields.bytes ∧
        fields.headerLen.toNat + fields.payloadLen.toNat = tailLen ∧ tailLen ≤ u64Max := by
  unfold openRecord
  constructor
  · intro h
    split at h
    · cases h
    rename_i hbehind
    split at h
    · cases h
    obtain ⟨header', hdecoded, h⟩ := bind_eq_ok.1 h
    split at h
    · cases h
    rename_i hsegment
    dsimp only at h
    split at h
    · cases h
    obtain ⟨fields, hfields, h⟩ := bind_eq_ok.1 h
    obtain ⟨tailLen', htail, h⟩ := bind_eq_ok.1 h
    cases pure_eq_ok.1 h
    obtain ⟨hmax, hsum⟩ := checkedAdd_eq_some.1 (okOr_eq_ok.1 htail)
    refine ⟨⟨not_lt.1 hbehind, hdecoded, not_not.1 hsegment⟩, fields, ?_, hsum, hsum ▸ hmax⟩
    exact readRecordPrefix_eq_some.1 (okOr_eq_ok.1 hfields)
  · rintro ⟨haddressed, fields, hfields, rfl, hmax⟩
    have hfront : frameRecordPrefixLen ≤ (segmentBytes.drop address.byteOffset).length := by
      have hlength := congrArg List.length hfields
      rw [RecordPrefix.length_bytes, List.length_take] at hlength
      omega
    rw [if_neg (not_lt.2 haddressed.behindHeader), if_neg (not_lt.2 haddressed.header_le), haddressed.decoded,
      ok_bind, if_neg (not_not.2 haddressed.segment)]
    dsimp only
    rw [if_neg (not_lt.2 hfront), readRecordPrefix_eq_some.2 hfields, okOr_some, ok_bind,
      checkedAdd_eq_some.2 ⟨hmax, rfl⟩]
    rfl

theorem DecodesTo.take_iff {bytes : List UInt8} {fields : RecordPrefix} {decoded : DecodedFrameRecord} {n : Nat}
    (hn : decoded.encodedLen ≤ n) :
    DecodesTo crc header (bytes.take n) fields decoded ↔ DecodesTo crc header bytes fields decoded := by
  have hcut : ∀ {fields : RecordPrefix}, fields.encodedLen = some decoded.encodedLen →
      frameRecordPrefixLen ≤ n ∧ frameRecordPrefixLen + fields.headerLen.toNat ≤ n := by
    intro fields hlen
    have hsum := (RecordPrefix.encodedLen_eq_some.1 hlen).1
    omega
  constructor
  · intro h
    obtain ⟨hfront, hheader⟩ := hcut h.encodedLen
    have hcomplete := h.complete
    rw [List.length_take] at hcomplete
    refine ⟨?_, h.encodedLen, by omega, ?_, ?_, ?_⟩
    · rw [← h.spelled, List.take_take, min_eq_left hfront]
    · rw [← h.checksum, List.take_take, List.take_take, min_eq_left hheader, min_eq_left hn]
    · rw [← h.metadata, List.take_take, min_eq_left hheader]
    · rw [← h.payload, List.take_take, min_eq_left hn]
  · intro h
    obtain ⟨hfront, hheader⟩ := hcut h.encodedLen
    have hcomplete := h.complete
    refine ⟨?_, h.encodedLen, ?_, ?_, ?_, ?_⟩
    · rw [List.take_take, min_eq_left hfront, h.spelled]
    · rw [List.length_take]
      omega
    · rw [List.take_take, List.take_take, min_eq_left hheader, min_eq_left hn, h.checksum]
    · rw [List.take_take, min_eq_left hheader, h.metadata]
    · rw [List.take_take, min_eq_left hn, h.payload]

theorem Addressed.opens (haddressed : Addressed crc segmentBytes address header) {decoded : DecodedFrameRecord}
    (h : decodeFrameRecord crc header (segmentBytes.drop address.byteOffset) = .ok decoded) :
    ∃ tailLen, openRecord crc segmentBytes address = .ok (header, tailLen) ∧
      frameRecordPrefixLen + tailLen = decoded.encodedLen := by
  obtain ⟨fields, hdecodes⟩ := decodeFrameRecord_eq_ok.1 h
  obtain ⟨hsum, hmax⟩ := RecordPrefix.encodedLen_eq_some.1 hdecodes.encodedLen
  refine ⟨fields.headerLen.toNat + fields.payloadLen.toNat, openRecord_eq_ok.2 ?_, by omega⟩
  exact ⟨haddressed, fields, hdecodes.spelled, rfl, by omega⟩

theorem oversized_iff : Oversized platform crc segmentBytes address ↔
    ∃ header tailLen, openRecord crc segmentBytes address = .ok (header, tailLen) ∧
      platform.memory < frameRecordPrefixLen + tailLen := by
  constructor
  · rintro ⟨header, fields, haddressed, hfields, hmax, hmemory⟩
    exact ⟨header, _, openRecord_eq_ok.2 ⟨haddressed, fields, hfields, rfl, hmax⟩, by omega⟩
  · rintro ⟨header, tailLen, hopen, hmemory⟩
    obtain ⟨haddressed, fields, hfields, rfl, hmax⟩ := openRecord_eq_ok.1 hopen
    exact ⟨header, fields, haddressed, hfields, hmax, by omega⟩

theorem readFrameFrom_of_openRecord (hopen : openRecord crc segmentBytes address = .ok (header, tailLen))
    (hmemory : frameRecordPrefixLen + tailLen ≤ platform.memory) :
    readFrameFrom platform crc segmentBytes address =
      .returned (if (segmentBytes.drop address.byteOffset).length < frameRecordPrefixLen + tailLen then
        .error (persistenceError "could not read the complete frame record")
      else (decodeFrameRecord crc header
        ((segmentBytes.drop address.byteOffset).take (frameRecordPrefixLen + tailLen))).map (·.frame)) := by
  have hfits : frameRecordPrefixLen + tailLen ≤ u64Max := by
    have hle := hmemory.trans platform.memory_le
    have hmax : isizeMax ≤ u64Max := by decide
    omega
  rw [readFrameFrom, hopen]
  dsimp only
  rw [platform.add_of_le hfits]
  dsimp only
  rw [if_neg (not_lt.2 hmemory), if_neg (by omega)]
  split <;> rfl

theorem readFrameFrom_aborted (hopen : openRecord crc segmentBytes address = .ok (header, tailLen))
    (hmemory : platform.memory < frameRecordPrefixLen + tailLen) :
    readFrameFrom platform crc segmentBytes address = .aborted := by
  obtain ⟨-, fields, -, -, htail⟩ := openRecord_eq_ok.1 hopen
  rw [readFrameFrom, hopen]
  dsimp only
  by_cases hfits : frameRecordPrefixLen + tailLen ≤ u64Max
  · rw [platform.add_of_le hfits]
    dsimp only
    rw [if_pos hmemory]
  · rw [Platform.add, if_neg hfits]
    by_cases hchecks : platform.overflowChecks = true
    · rw [if_pos hchecks]
    · -- the sum wraps to a buffer that is shorter than the prefix
      have hwrap : (frameRecordPrefixLen + tailLen) % 2 ^ 64 < frameRecordPrefixLen := by
        unfold u64Max frameRecordPrefixLen at *
        omega
      rw [if_neg hchecks]
      dsimp only
      rw [if_pos hwrap, ite_self]

theorem readFrameFrom_eq_ok {frame : EncodedFrame} (hopen : openRecord crc segmentBytes address = .ok (header, tailLen))
    (hmemory : frameRecordPrefixLen + tailLen ≤ platform.memory) :
    readFrameFrom platform crc segmentBytes address = .returned (.ok frame) ↔
      ∃ encodedLen, decodeFrameRecord crc header (segmentBytes.drop address.byteOffset) = .ok { frame, encodedLen } := by
  obtain ⟨haddressed, fields, hfields, rfl, htail⟩ := openRecord_eq_ok.1 hopen
  set remaining := segmentBytes.drop address.byteOffset with hremaining
  set n := frameRecordPrefixLen + (fields.headerLen.toNat + fields.payloadLen.toNat) with hn
  rw [readFrameFrom_of_openRecord hopen hmemory]
  constructor
  · intro h
    have hread := CallEnd.returned.inj h
    split at hread
    · cases hread
    cases hdecode : decodeFrameRecord crc header (remaining.take n) with
    | error error => rw [hdecode] at hread; cases hread
    | ok decoded =>
      rw [hdecode] at hread
      cases hread
      obtain ⟨fields', hdecodes⟩ := decodeFrameRecord_eq_ok.1 hdecode
      have hle : decoded.encodedLen ≤ n := hdecodes.complete.trans (List.length_take_le _ _)
      exact ⟨decoded.encodedLen, decodeFrameRecord_eq_ok.2 ⟨fields', (DecodesTo.take_iff hle).1 hdecodes⟩⟩
  · rintro ⟨encodedLen, hdecode⟩
    obtain ⟨tailLen, hopen', hlength⟩ := haddressed.opens hdecode
    rw [hopen] at hopen'
    cases hopen'
    obtain ⟨fields', hdecodes⟩ := decodeFrameRecord_eq_ok.1 hdecode
    rw [if_neg (not_lt.2 (hlength.trans_le hdecodes.complete)),
      decodeFrameRecord_eq_ok.2 ⟨fields', (DecodesTo.take_iff hlength.ge).2 hdecodes⟩]
    rfl

/-- A read at an address ends with a result, and with the frame that the sequential decoder finds there under the
header of the segment, exactly when the prefix at the address does not declare a record that no allocation can hold. -/
theorem random_access_agrees_iff (platform : Platform) (crc : Crc32) (segmentBytes : List UInt8) (address : FrameAddress) :
    ((∃ result, readFrameFrom platform crc segmentBytes address = .returned result) ∧
      ∀ frame, readFrameFrom platform crc segmentBytes address = .returned (.ok frame) ↔
        ∃ header encodedLen, Addressed crc segmentBytes address header ∧
          decodeFrameRecord crc header (segmentBytes.drop address.byteOffset) = .ok { frame, encodedLen }) ↔
    ¬Oversized platform crc segmentBytes address := by
  rw [oversized_iff]
  constructor
  · rintro ⟨⟨result, hreturned⟩, -⟩ ⟨header, tailLen, hopen, hmemory⟩
    rw [readFrameFrom_aborted hopen hmemory] at hreturned
    cases hreturned
  · intro hsmall
    cases hopen : openRecord crc segmentBytes address with
    | error error =>
      have hread : readFrameFrom platform crc segmentBytes address = .returned (.error error) := by
        rw [readFrameFrom, hopen]
      refine ⟨⟨_, hread⟩, fun frame => ⟨fun h => ?_, ?_⟩⟩
      · rw [hread] at h
        cases h
      · rintro ⟨header, encodedLen, haddressed, hdecode⟩
        obtain ⟨tailLen, hopen', -⟩ := haddressed.opens hdecode
        rw [hopen] at hopen'
        cases hopen'
    | ok opened =>
      obtain ⟨header, tailLen⟩ := opened
      have hmemory : frameRecordPrefixLen + tailLen ≤ platform.memory :=
        not_lt.1 fun hlt => hsmall ⟨header, tailLen, hopen, hlt⟩
      refine ⟨⟨_, readFrameFrom_of_openRecord hopen hmemory⟩, fun frame => ?_⟩
      rw [readFrameFrom_eq_ok hopen hmemory]
      constructor
      · rintro ⟨encodedLen, hdecode⟩
        exact ⟨header, encodedLen, (openRecord_eq_ok.1 hopen).1, hdecode⟩
      · rintro ⟨header', encodedLen, haddressed, hdecode⟩
        obtain ⟨_, hopen', -⟩ := haddressed.opens hdecode
        rw [hopen] at hopen'
        cases hopen'
        exact ⟨encodedLen, hdecode⟩

/-- `readFrameAt` opens the record, and reads the rest of it when the file has it. -/
theorem readFrameAt_eq : readFrameAt crc segmentBytes address = (do
    let (header, tailLen) ← openRecord crc segmentBytes address
    if (segmentBytes.drop address.byteOffset).length < frameRecordPrefixLen + tailLen then
      .error (persistenceError "could not read the complete frame record")
    else (decodeFrameRecord crc header
      ((segmentBytes.drop address.byteOffset).take (frameRecordPrefixLen + tailLen))).map (·.frame)) := by
  unfold readFrameAt openRecord
  split
  · rfl
  split
  · rfl
  cases hdecoded : SegmentHeader.decode crc (segmentBytes.take segmentHeaderLen) with
  | error error => rfl
  | ok header =>
    rw [ok_bind, ok_bind]
    split
    · rfl
    dsimp only
    split
    · rfl
    cases readRecordPrefix (segmentBytes.drop address.byteOffset) with
    | none => rfl
    | some fields =>
      rw [okOr_some, ok_bind, ok_bind]
      cases checkedAdd fields.headerLen.toNat fields.payloadLen.toNat with
      | none => rfl
      | some tailLen => rfl

theorem readFrameFrom_eq_readFrameAt (h : ¬Oversized platform crc segmentBytes address) :
    readFrameFrom platform crc segmentBytes address = .returned (readFrameAt crc segmentBytes address) := by
  rw [readFrameAt_eq]
  cases hopen : openRecord crc segmentBytes address with
  | error error => rw [readFrameFrom, hopen]; rfl
  | ok opened =>
    obtain ⟨header, tailLen⟩ := opened
    rw [readFrameFrom_of_openRecord hopen (not_lt.1 fun hlt => h (oversized_iff.2 ⟨header, tailLen, hopen, hlt⟩))]
    rfl

/-- A segment file that ends behind the prefix of a record of `2 ^ 63` payload bytes. -/
def hugeRecord : List UInt8 :=
  zeroHeader.encode (fun _ => 0) ++ RecordPrefix.bytes { headerLen := 0, payloadLen := 2 ^ 63, expectedCrc := 0 }

/-- A damaged length ends the process on every platform, where the sequential decoder returns an error. -/
theorem huge_record_aborts : ¬∀ (platform : Platform) (crc : Crc32) (segmentBytes : List UInt8) (address : FrameAddress)
    (header : SegmentHeader), Addressed crc segmentBytes address header →
      (∃ result, readFrameFrom platform crc segmentBytes address = .returned result) ∧
        ∀ frame, readFrameFrom platform crc segmentBytes address = .returned (.ok frame) ↔
          ∃ encodedLen, decodeFrameRecord crc header (segmentBytes.drop address.byteOffset) = .ok { frame, encodedLen } := by
  intro h
  have haddressed : Addressed (fun _ => 0) hugeRecord ⟨zeroHeader.segmentId, 90⟩ zeroHeader :=
    ⟨by decide, by decide +kernel, rfl⟩
  have hopen : openRecord (fun _ => 0) hugeRecord ⟨zeroHeader.segmentId, 90⟩ = .ok (zeroHeader, 2 ^ 63) := by decide +kernel
  obtain ⟨⟨result, hreturned⟩, -⟩ := h ⟨false, isizeMax, le_rfl⟩ _ _ _ _ haddressed
  rw [readFrameFrom_aborted hopen (by decide)] at hreturned
  cases hreturned

end Krometrail
