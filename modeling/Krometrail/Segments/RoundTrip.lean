import Krometrail.Segments.Scanner

/-!
# Scanning what was written

A segment file is an encoded header, the records of frames of its session and target, and the sealed footer once it
has one.  Scanning it finds exactly these records, and scanning a part of it that a torn write leaves behind finds
exactly the records that are whole.
-/

namespace Krometrail

open Results

/-- `FrameRecord::from_frame`, without the check on the number of warnings. -/
def EncodedFrame.record (frame : EncodedFrame) : FrameRecord where
  headerBytes := metadataBytes frame.metadata
  payloadBytes := frame.bytes

/-- A frame that `encode_frame_record` takes. -/
structure EncodedFrame.Encodable (frame : EncodedFrame) : Prop where
  warnings : frame.metadata.warnings.length < 2 ^ 16
  fits : frame.record.Fits

/-- The spans of the records of `frames` from `offset` on. -/
def spansFrom (offset : Nat) : List EncodedFrame → List RecordSpan
  | [] => []
  | frame :: frames => frame.record.span offset :: spansFrom (offset + frame.record.encodedLen) frames

/-- Where the records of `frames` from `offset` on end. -/
def regionEnd (offset : Nat) : List EncodedFrame → Nat
  | [] => offset
  | frame :: frames => regionEnd (offset + frame.record.encodedLen) frames

def RecordSpan.endOffset (span : RecordSpan) : Nat := span.byteOffset + span.encodedLen

def footerBytes (crc : Crc32) (footer : Option SealedFooter) : List UInt8 := footer.elim [] (·.encode crc)

def segmentBytes (crc : Crc32) (header : SegmentHeader) (records : List (List UInt8)) (footer : Option SealedFooter) :
    List UInt8 := header.encode crc ++ (records.flatten ++ footerBytes crc footer)

/-- `isize::MAX`, which no byte string in memory is longer than. -/
def isizeMax : Nat := 2 ^ 63 - 1

section

variable {crc : Crc32} {header : SegmentHeader} {offset : Nat} {frame : EncodedFrame} {frames : List EncodedFrame}
  {records : List (List UInt8)} {footer : Option SealedFooter}

/-- The records that `frames` are encoded to. -/
def recordBytes (crc : Crc32) (frames : List EncodedFrame) : List UInt8 := frames.flatMap fun frame => frame.record.bytes crc

@[simp] theorem recordBytes_cons :
    recordBytes crc (frame :: frames) = frame.record.bytes crc ++ recordBytes crc frames := rfl

theorem encodeFrameRecord_eq_bytes {bytes : List UInt8} :
    encodeFrameRecord crc frame = .ok bytes ↔ frame.Encodable ∧ frame.record.bytes crc = bytes := by
  rw [encodeFrameRecord_eq_ok, FrameRecord.encode_eq_ok]
  exact ⟨fun ⟨hwarnings, hfits, hbytes⟩ => ⟨⟨hwarnings, hfits⟩, hbytes⟩,
    fun ⟨⟨hwarnings, hfits⟩, hbytes⟩ => ⟨hwarnings, hfits, hbytes⟩⟩

theorem mapM_encodeFrameRecord_eq_ok (h : frames.mapM (encodeFrameRecord crc) = .ok records) :
    (∀ frame ∈ frames, frame.Encodable) ∧ records.flatten = recordBytes crc frames := by
  induction frames generalizing records with
  | nil =>
    cases h
    exact ⟨by simp, rfl⟩
  | cons frame frames ih =>
    rw [List.mapM_cons] at h
    simp only [bind_eq_ok, pure_eq_ok] at h
    obtain ⟨bytes, hbytes, rest, hrest, rfl⟩ := h
    obtain ⟨hencodable, rfl⟩ := encodeFrameRecord_eq_bytes.1 hbytes
    obtain ⟨hall, hflatten⟩ := ih hrest
    exact ⟨List.forall_mem_cons.2 ⟨hencodable, hall⟩, by simp [hflatten]⟩

@[simp] theorem length_recordBytes : offset + (recordBytes crc frames).length = regionEnd offset frames := by
  induction frames generalizing offset with
  | nil => rfl
  | cons frame frames ih =>
    rw [regionEnd, ← ih, recordBytes_cons, List.length_append, FrameRecord.length_bytes, Nat.add_assoc]

theorem le_regionEnd (offset : Nat) (frames : List EncodedFrame) : offset ≤ regionEnd offset frames := by
  induction frames generalizing offset with
  | nil => exact le_rfl
  | cons frame frames ih => exact le_trans (Nat.le_add_right _ _) (ih (offset + frame.record.encodedLen))

theorem scanRecordRegion_frames (hencodable : ∀ frame ∈ frames, frame.Encodable)
    (haddressable : regionEnd offset frames ≤ u64Max) (rest : List UInt8) :
    scanRecordRegion crc header offset (recordBytes crc frames ++ rest) =
      let behind := scanRecordRegion crc header (regionEnd offset frames) rest
      { behind with records := spansFrom offset frames ++ behind.records } := by
  induction frames generalizing offset with
  | nil => rfl
  | cons frame frames ih =>
    have hend := le_regionEnd (offset + frame.record.encodedLen) frames
    have hwhole : Whole crc offset _ _ _ := frame.record.whole (hencodable frame (by simp)).fits
      (hend.trans haddressable) (recordBytes crc frames ++ rest)
    have hdrop : (frame.record.bytes crc ++ (recordBytes crc frames ++ rest)).drop (frame.record.span offset).encodedLen =
        recordBytes crc frames ++ rest := List.drop_left' FrameRecord.length_bytes
    rw [recordBytes_cons, List.append_assoc, scanRecordRegion_record (scanRecord_eq_ok.2 ⟨_, hwhole⟩), hdrop]
    exact congrArg (fun result : ScanResult => { result with records := frame.record.span offset :: result.records })
      (ih (fun frame hframe => hencodable frame (by simp [hframe])) haddressable)

/-- Where the record region begins, `segment_bytes` is past its header. -/
theorem scanCompleteRecords_encode (region : List UInt8) :
    scanCompleteRecords crc (header.encode crc ++ region) =
      .ok (scanRecordRegion crc header segmentHeaderLen region) := by
  have hlength : segmentHeaderLen ≤ (header.encode crc ++ region).length := by simp
  rw [scanCompleteRecords, scanCompleteRecordsFrom, if_neg (not_lt.2 hlength), List.take_left' (by simp),
    SegmentHeader.decode_encode, ok_bind, if_neg (lt_irrefl _), if_neg (not_lt.2 hlength),
    List.drop_left' (by simp)]
  rfl

theorem scanCompleteRecords_segmentBytes (hencodable : ∀ frame ∈ frames, frame.Encodable)
    (hrecords : records.flatten = recordBytes crc frames) (haddressable : regionEnd segmentHeaderLen frames ≤ u64Max)
    (hsegment : ∀ footer' ∈ footer, footer'.segmentId = header.segmentId) :
    scanCompleteRecords crc (segmentBytes crc header records footer) = .ok {
      records := spansFrom segmentHeaderLen frames
      trailing := if ∀ footer' ∈ footer, footer'.Ordered then .clean else .corrupt (regionEnd segmentHeaderLen frames) } := by
  rw [segmentBytes, scanCompleteRecords_encode, hrecords, scanRecordRegion_frames hencodable haddressable]
  cases footer with
  | none => simp [footerBytes]
  | some footer =>
    have hne : footer.encode crc ≠ [] := by
      rw [← List.length_pos_iff, SealedFooter.length_encode]
      decide
    have hstop : scanRecord crc header (regionEnd segmentHeaderLen frames) (footer.encode crc) = _ :=
      SealedFooter.scanRecord_footer (hsegment footer rfl)
    rw [footerBytes, Option.elim_some, scanRecordRegion_stop hne hstop]
    simp

theorem readFrameAt_record {before after : List UInt8} (hencodable : frame.Encodable)
    (hsession : frame.metadata.sessionId = header.sessionId) (htarget : frame.metadata.targetId = header.targetId)
    (haddressable : segmentHeaderLen + before.length + frame.record.encodedLen ≤ u64Max) :
    readFrameAt crc (header.encode crc ++ (before ++ (frame.record.bytes crc ++ after)))
      ⟨header.segmentId, segmentHeaderLen + before.length⟩ = .ok frame := by
  have hbytes : encodeFrameRecord crc frame = .ok (frame.record.bytes crc) :=
    encodeFrameRecord_eq_bytes.2 ⟨hencodable, rfl⟩
  have hdecode := decodeFrameRecord_encode hsession htarget hbytes (by rw [FrameRecord.length_bytes]; omega)
  have hdrop : (header.encode crc ++ (before ++ (frame.record.bytes crc ++ after))).drop
      (segmentHeaderLen + before.length) = frame.record.bytes crc ++ after := by
    rw [← List.append_assoc, List.drop_left' (by simp)]
  have hfields : readRecordPrefix (frame.record.bytes crc ++ after) = some (frame.record.fields crc) :=
    FrameRecord.readRecordPrefix_of_take
      (by rw [FrameRecord.bytes, List.append_assoc, List.take_left' FrameRecord.length_prefixBytes])
  have hencodedLen : frameRecordPrefixLen + (frame.record.headerBytes.length + frame.record.payloadBytes.length) =
      frame.record.encodedLen := by rw [FrameRecord.encodedLen, Nat.add_assoc]
  have hlen : frame.record.encodedLen ≤ (frame.record.bytes crc ++ after).length := by simp
  have htail : checkedAdd (frame.record.fields crc).headerLen.toNat (frame.record.fields crc).payloadLen.toNat =
      some (frame.record.headerBytes.length + frame.record.payloadBytes.length) := by
    rw [hencodable.fits.toNat_headerLen, hencodable.fits.toNat_payloadLen, checkedAdd_eq_some]
    exact ⟨by omega, rfl⟩
  rw [readFrameAt, if_neg (by simp), if_neg (by simp), List.take_left' (by simp), SegmentHeader.decode_encode,
    ok_bind, if_neg (not_not.2 rfl), hdrop, if_neg (by omega), hfields, okOr_some, ok_bind, htail,
    okOr_some, ok_bind, hencodedLen, if_neg (not_lt.2 hlen), List.take_left' FrameRecord.length_bytes, hdecode]
  rfl

/-! ### The round trip -/

/-- Scanning `bytes` finds the records of `frames`, a clean end and the footer, and each frame is read at its
address. -/
structure RoundTrips (crc : Crc32) (header : SegmentHeader) (frames : List EncodedFrame) (footer : Option SealedFooter)
    (bytes : List UInt8) : Prop where
  scan : scanCompleteRecords crc bytes = .ok { records := spansFrom segmentHeaderLen frames, trailing := .clean }
  footer : ∀ footer' ∈ footer,
    SealedFooter.decode crc (bytes.drop (regionEnd segmentHeaderLen frames)) = .ok footer'
  read : ∀ frame span, (frame, span) ∈ frames.zip (spansFrom segmentHeaderLen frames) →
    readFrameAt crc bytes ⟨header.segmentId, span.byteOffset⟩ = .ok frame

theorem mem_zip_spansFrom {span : RecordSpan} (h : (frame, span) ∈ frames.zip (spansFrom offset frames)) :
    ∃ before after, frames = before ++ frame :: after ∧ span = frame.record.span (regionEnd offset before) := by
  induction frames generalizing offset with
  | nil => cases h
  | cons head frames ih =>
    rw [spansFrom, List.zip_cons_cons, List.mem_cons] at h
    rcases h with h | h
    · obtain ⟨rfl, rfl⟩ := Prod.mk.inj h
      exact ⟨[], frames, rfl, rfl⟩
    · obtain ⟨before, after, rfl, hspan⟩ := ih h
      exact ⟨head :: before, after, rfl, hspan⟩

theorem recordBytes_append (before after : List EncodedFrame) :
    recordBytes crc (before ++ after) = recordBytes crc before ++ recordBytes crc after := List.flatMap_append

theorem length_segmentBytes (hrecords : records.flatten = recordBytes crc frames) :
    (segmentBytes crc header records footer).length =
      regionEnd segmentHeaderLen frames + (footerBytes crc footer).length := by
  rw [segmentBytes, hrecords, List.length_append, List.length_append, SegmentHeader.length_encode, ← Nat.add_assoc,
    length_recordBytes]

/-- Every segment file of frames of the session and the target of its header, with the sealed footer of the segment
or without one, is scanned back, provided the session times of the footer are in order. -/
theorem segment_roundTrips (hframes : ∀ frame ∈ frames,
      frame.metadata.sessionId = header.sessionId ∧ frame.metadata.targetId = header.targetId)
    (hencode : frames.mapM (encodeFrameRecord crc) = .ok records)
    (hsegment : ∀ footer' ∈ footer, footer'.segmentId = header.segmentId) (hordered : ∀ footer' ∈ footer, footer'.Ordered)
    (hlength : (segmentBytes crc header records footer).length ≤ isizeMax) :
    RoundTrips crc header frames footer (segmentBytes crc header records footer) := by
  obtain ⟨hencodable, hrecords⟩ := mapM_encodeFrameRecord_eq_ok hencode
  have hmax : isizeMax ≤ u64Max := by decide
  have haddressable : regionEnd segmentHeaderLen frames ≤ u64Max := by
    rw [length_segmentBytes hrecords] at hlength
    omega
  refine ⟨?_, ?_, ?_⟩
  · rw [scanCompleteRecords_segmentBytes hencodable hrecords haddressable hsegment, if_pos hordered]
  · rintro footer' hfooter
    have hdrop : (segmentBytes crc header records footer).drop (regionEnd segmentHeaderLen frames) =
        footerBytes crc footer := by
      rw [segmentBytes, ← List.append_assoc, List.drop_left']
      rw [List.length_append, SegmentHeader.length_encode, hrecords, length_recordBytes]
    rw [hdrop, Option.mem_def.1 hfooter, footerBytes, Option.elim_some, SealedFooter.decode_encode,
      SealedFooter.checkTimes_eq_ok]
    exact ⟨rfl, hordered footer' hfooter⟩
  · rintro frame span hspan
    obtain ⟨before, after, rfl, rfl⟩ := mem_zip_spansFrom hspan
    have hoffset : regionEnd segmentHeaderLen before = segmentHeaderLen + (recordBytes crc before).length :=
      length_recordBytes.symm
    have hframe := hframes frame (by simp)
    have hend : segmentHeaderLen + (recordBytes crc before).length + frame.record.encodedLen ≤ u64Max := by
      have hlen : segmentHeaderLen + (recordBytes crc (before ++ frame :: after)).length = _ := length_recordBytes
      rw [recordBytes_append, recordBytes_cons, List.length_append, List.length_append, FrameRecord.length_bytes] at hlen
      omega
    rw [segmentBytes, hrecords, recordBytes_append, recordBytes_cons, List.append_assoc, List.append_assoc,
      FrameRecord.span, hoffset]
    exact readFrameAt_record (hencodable frame (by simp)) hframe.1 hframe.2 hend

end

def zeroUuid : Uuid := ⟨List.replicate 16 0, rfl⟩

def zeroHeader : SegmentHeader := ⟨⟨zeroUuid⟩, ⟨zeroUuid⟩, ⟨zeroUuid⟩, ⟨0⟩, ⟨0⟩, 1, 1⟩

def frameAt (time : UInt64) : EncodedFrame where
  metadata := {
    id := ⟨zeroUuid⟩, sessionId := ⟨zeroUuid⟩, targetId := ⟨zeroUuid⟩, captureOrdinal := ⟨1, ordinal_one⟩
    sourceTime := none, observedTime := ⟨time⟩, sessionTime := ⟨time⟩, format := .jpeg
    image := .unit, viewport := .unit, deviceScaleFactor := .one, warnings := [], sessionTime_le := UInt64.le_refl time }
  bytes := [7]
  bytes_ne_nil := by decide

/-- The footer that seals a segment with these frames. -/
def footerOf (frames : List EncodedFrame) (first last : UInt64) : SealedFooter :=
  ⟨⟨zeroUuid⟩, UInt64.ofNat frames.length, UInt64.ofNat frames.length, ⟨first⟩, ⟨last⟩, ⟨last⟩⟩

theorem encode_frameAt (crc : Crc32) (time : UInt64) :
    encodeFrameRecord crc (frameAt time) = .ok ((frameAt time).record.bytes crc) := by
  refine encodeFrameRecord_eq_bytes.2 ⟨⟨by simp [frameAt], ⟨?_, by simp [frameAt, EncodedFrame.record]⟩⟩, rfl⟩
  simp [frameAt, EncodedFrame.record, metadataBytes, sourceTimeBytes, dimensionsBytes]

theorem segment_roundTrips_single :
    RoundTrips (fun _ => 0) zeroHeader [frameAt 1] (some (footerOf [frameAt 1] 1 1))
      (segmentBytes (fun _ => 0) zeroHeader [(frameAt 1).record.bytes fun _ => 0] (some (footerOf [frameAt 1] 1 1))) :=
  segment_roundTrips (by simp [frameAt, zeroHeader]) (by rw [List.mapM_cons, encode_frameAt]; rfl)
    (by simp [footerOf, zeroHeader]) (by simp [footerOf, SealedFooter.Ordered]) (by decide +kernel)

/-- The sealed footer of frames whose session times decrease is not taken for the end of the segment. -/
theorem decreasing_times_not_clean : ¬∀ (crc : Crc32) (header : SegmentHeader) (frames : List EncodedFrame)
    (records : List (List UInt8)) (footer : Option SealedFooter),
    (∀ frame ∈ frames, frame.metadata.sessionId = header.sessionId ∧ frame.metadata.targetId = header.targetId) →
      frames.mapM (encodeFrameRecord crc) = .ok records →
      (∀ footer' ∈ footer, footer'.segmentId = header.segmentId) →
      (segmentBytes crc header records footer).length ≤ isizeMax →
      RoundTrips crc header frames footer (segmentBytes crc header records footer) := by
  intro h
  have hencode : [frameAt 2, frameAt 1].mapM (encodeFrameRecord fun _ => 0) =
      .ok [(frameAt 2).record.bytes fun _ => 0, (frameAt 1).record.bytes fun _ => 0] := by
    rw [List.mapM_cons, List.mapM_cons, encode_frameAt, encode_frameAt]
    rfl
  obtain ⟨hencodable, hrecords⟩ := mapM_encodeFrameRecord_eq_ok hencode
  have hsegment : ∀ footer ∈ some (footerOf [frameAt 2, frameAt 1] 2 1), footer.segmentId = zeroHeader.segmentId := by
    simp [footerOf, zeroHeader]
  have hclean := (h (fun _ => 0) zeroHeader _ _ _ (by simp [frameAt, zeroHeader]) hencode hsegment (by decide +kernel)).scan
  rw [scanCompleteRecords_segmentBytes hencodable hrecords (by decide +kernel) hsegment,
    if_neg (by simp [footerOf, SealedFooter.Ordered])] at hclean
  cases congrArg ScanResult.trailing (Except.ok.inj hclean)

section

variable {crc : Crc32} {header : SegmentHeader} {offset : Nat} {frame : EncodedFrame} {frames : List EncodedFrame}
  {records : List (List UInt8)} {footer : Option SealedFooter}

/-- What a scan finds of spans from `offset` to `total` in a file that is cut at `n`: the records that are whole, and
an end that is clean exactly at a boundary and otherwise incomplete behind the last of them. -/
def tornResult (offset total n : Nat) (spans : List RecordSpan) : ScanResult :=
  let whole := spans.filter (·.endOffset ≤ n)
  { records := whole
    trailing := if n = total ∨ n ∈ offset :: spans.map (·.endOffset) then .clean
      else .incomplete (whole.getLast?.elim offset (·.endOffset)) }

theorem tornResult_whole {total n : Nat} {span : RecordSpan} (spans : List RecordSpan) (hpos : offset < span.endOffset)
    (hwhole : span.endOffset ≤ n) : tornResult offset total n (span :: spans) =
      let behind := tornResult span.endOffset total n spans
      { behind with records := span :: behind.records } := by
  have hfilter : (span :: spans).filter (·.endOffset ≤ n) = span :: spans.filter (·.endOffset ≤ n) :=
    List.filter_cons_of_pos (by simpa using hwhole)
  have hne : n ≠ offset := by omega
  have hlast : ∀ rest : List RecordSpan, (span :: rest).getLast?.elim offset (·.endOffset) =
      rest.getLast?.elim span.endOffset (·.endOffset) := by
    intro rest
    cases hrest : rest.getLast? with
    | none => simp [List.getLast?_cons, hrest]
    | some last => simp [List.getLast?_cons, hrest]
  simp only [tornResult, hfilter, hlast, List.map_cons, List.mem_cons, hne, false_or]

theorem tornResult_cut {total n : Nat} {spans : List RecordSpan} (hspans : ∀ span ∈ spans, n < span.endOffset)
    (htotal : n < total) : tornResult offset total n spans =
      { records := [], trailing := if n = offset then .clean else .incomplete offset } := by
  have hfilter : spans.filter (·.endOffset ≤ n) = [] := by
    rw [List.filter_eq_nil_iff]
    intro span hspan
    have := hspans span hspan
    simp only [decide_eq_true_eq]
    omega
  have hboundary : n ∉ spans.map (·.endOffset) := by
    intro h
    obtain ⟨span, hspan, rfl⟩ := List.mem_map.1 h
    exact lt_irrefl _ (hspans span hspan)
  simp only [tornResult, hfilter, htotal.ne, List.mem_cons, hboundary, or_false, false_or]
  rfl

theorem mem_spansFrom {span : RecordSpan} (h : span ∈ spansFrom offset frames) :
    offset + frameRecordPrefixLen ≤ span.endOffset := by
  induction frames generalizing offset with
  | nil => cases h
  | cons frame frames ih =>
    rcases List.mem_cons.1 h with rfl | h
    · simp only [RecordSpan.endOffset, FrameRecord.span, FrameRecord.encodedLen]
      omega
    · exact le_trans (by omega) (ih h)

theorem scanRecordRegion_torn (hencodable : ∀ frame ∈ frames, frame.Encodable)
    (haddressable : regionEnd offset frames ≤ u64Max)
    (hsegment : ∀ footer' ∈ footer, footer'.segmentId = header.segmentId) (hordered : ∀ footer' ∈ footer, footer'.Ordered)
    {n : Nat} (hle : offset ≤ n) (hn : n ≤ regionEnd offset frames + (footerBytes crc footer).length) :
    scanRecordRegion crc header offset ((recordBytes crc frames ++ footerBytes crc footer).take (n - offset)) =
      tornResult offset (regionEnd offset frames + (footerBytes crc footer).length) n (spansFrom offset frames) := by
  induction frames generalizing offset with
  | nil =>
    change scanRecordRegion crc header offset ((footerBytes crc footer).take (n - offset)) = _
    rcases hle.eq_or_lt with rfl | hlt
    · simp [tornResult, spansFrom]
    cases footer with
    | none => simp [regionEnd, footerBytes] at hn; omega
    | some footer =>
      simp only [footerBytes, Option.elim_some, SealedFooter.length_encode, regionEnd] at hn ⊢
      have hne : (footer.encode crc).take (n - offset) ≠ [] := by
        rw [← List.length_pos_iff, List.length_take, SealedFooter.length_encode]
        simp only [sealedFooterLen]
        omega
      by_cases hend : n = offset + sealedFooterLen
      · have htake : (footer.encode crc).take (n - offset) = footer.encode crc := List.take_of_length_le (by simp; omega)
        rw [htake] at hne ⊢
        rw [scanRecordRegion_stop hne (SealedFooter.scanRecord_footer (hsegment footer rfl)), if_pos (hordered footer rfl)]
        simp [tornResult, spansFrom, hend]
      · rw [scanRecordRegion_stop hne (SealedFooter.scanRecord_torn (by omega) (by omega))]
        simp [tornResult, spansFrom, hend, hlt.ne']
  | cons frame frames ih =>
    have hframe := hencodable frame (by simp)
    have hend := le_regionEnd (offset + frame.record.encodedLen) frames
    have hpos : frameRecordPrefixLen ≤ frame.record.encodedLen := by
      simp only [FrameRecord.encodedLen]
      omega
    simp only [frameRecordPrefixLen] at hpos
    rw [recordBytes_cons, List.append_assoc]
    by_cases hwhole : offset + frame.record.encodedLen ≤ n
    · -- the first record is whole, and the scan goes on behind it
      set tail := (recordBytes crc frames ++ footerBytes crc footer).take (n - (offset + frame.record.encodedLen)) with htail
      have htake : (frame.record.bytes crc ++ (recordBytes crc frames ++ footerBytes crc footer)).take (n - offset) =
          frame.record.bytes crc ++ tail := by
        rw [List.take_append, FrameRecord.length_bytes, List.take_of_length_le (by rw [FrameRecord.length_bytes]; omega),
          Nat.sub_sub]
      have htaken : Whole crc offset _ _ _ := frame.record.whole hframe.fits (hend.trans haddressable) tail
      have hdrop : (frame.record.bytes crc ++ tail).drop (frame.record.span offset).encodedLen = tail :=
        List.drop_left' FrameRecord.length_bytes
      rw [htake, scanRecordRegion_record (scanRecord_eq_ok.2 ⟨_, htaken⟩), hdrop, spansFrom,
        tornResult_whole _ (show offset < offset + frame.record.encodedLen by omega) hwhole]
      exact congrArg (fun result : ScanResult => { result with records := frame.record.span offset :: result.records })
        (ih (fun frame hframe => hencodable frame (by simp [hframe])) haddressable hwhole hn)
    · -- the cut falls in front of the first record or into it
      have hcut : ∀ span ∈ spansFrom offset (frame :: frames), n < span.endOffset := by
        intro span hspan
        rcases List.mem_cons.1 hspan with rfl | hspan
        · simpa [RecordSpan.endOffset, FrameRecord.span] using hwhole
        · have := mem_spansFrom hspan
          omega
      rw [List.take_append_of_le_length (by rw [FrameRecord.length_bytes]; omega),
        tornResult_cut hcut (by rw [regionEnd]; omega)]
      rcases hle.eq_or_lt with rfl | hlt
      · simp
      · have hne : (frame.record.bytes crc).take (n - offset) ≠ [] := by
          rw [← List.length_pos_iff, List.length_take, FrameRecord.length_bytes]
          omega
        rw [scanRecordRegion_stop hne (frame.record.scanRecord_torn hframe.fits (hend.trans haddressable) (by omega)
          (by omega)), if_neg hlt.ne']

/-- Every prefix that keeps the header of a segment file, open or sealed, is scanned without an error: the scan finds
exactly the records that are whole, and its end is clean exactly when the cut falls behind the header, behind a record
or behind the footer, and otherwise incomplete behind the last whole record. -/
theorem scan_torn (hencode : frames.mapM (encodeFrameRecord crc) = .ok records)
    (hsegment : ∀ footer' ∈ footer, footer'.segmentId = header.segmentId) (hordered : ∀ footer' ∈ footer, footer'.Ordered)
    (hlength : (segmentBytes crc header records footer).length ≤ isizeMax)
    {n : Nat} (hheader : segmentHeaderLen ≤ n) (hn : n ≤ (segmentBytes crc header records footer).length) :
    scanCompleteRecords crc ((segmentBytes crc header records footer).take n) =
      .ok (tornResult segmentHeaderLen (segmentBytes crc header records footer).length n
        (spansFrom segmentHeaderLen frames)) := by
  obtain ⟨hencodable, hrecords⟩ := mapM_encodeFrameRecord_eq_ok hencode
  have hmax : isizeMax ≤ u64Max := by decide
  rw [length_segmentBytes hrecords] at hlength hn ⊢
  rw [segmentBytes, hrecords, List.take_append, List.take_of_length_le (by simpa using hheader),
    SegmentHeader.length_encode, scanCompleteRecords_encode,
    scanRecordRegion_torn hencodable (by omega) hsegment hordered hheader hn]

end

/-- A cut inside the first record leaves an empty segment with an incomplete end. -/
theorem scan_torn_first : scanCompleteRecords (fun _ => 0)
    ((segmentBytes (fun _ => 0) zeroHeader [(frameAt 1).record.bytes fun _ => 0] none).take 100) =
      .ok (tornResult segmentHeaderLen
        (segmentBytes (fun _ => 0) zeroHeader [(frameAt 1).record.bytes fun _ => 0] none).length 100
        (spansFrom segmentHeaderLen [frameAt 1])) :=
  scan_torn (by rw [List.mapM_cons, encode_frameAt]; rfl) (by simp) (by simp) (by decide +kernel) (by decide)
    (by decide +kernel)

end Krometrail
