import Krometrail.Recovery.Agreement
import Krometrail.Recovery.Truncation

/-!
# The whole records of a file are recovered

Whatever a crash leaves behind the records that a segment file holds in whole, a pass reads each of these back: the
analysis of a file with its own header never fails, and its records begin with theirs.
-/

namespace Krometrail

open Relations Results

section

variable {crc : Crc32} {bytes rest : List UInt8} {offset : Nat} {records : List RecoveredRecord} {file : SegmentFile}
  {header : SegmentHeader} {frames : List EncodedFrame} {segmentId : SegmentId}

/-- Neither total of records that follow each other overflows, as each of them is addressable. -/
theorem Consecutive.totals (h : Consecutive crc bytes offset (records.map (·.span))) {total : Nat} (htotal : total ≤ offset) :
    (∃ n, records.foldlM (fun total record => checkedAdd total record.span.payloadLen) total = some n) ∧
      records.length ≤ u64Max - offset := by
  induction records generalizing offset total with
  | nil => exact ⟨⟨total, rfl⟩, Nat.zero_le _⟩
  | cons record records ih =>
    obtain ⟨⟨fields, hwhole⟩, hrest⟩ : (∃ fields, Whole crc offset (bytes.drop offset) record.span fields) ∧
      Consecutive crc bytes (offset + record.span.encodedLen) (records.map RecoveredRecord.span) := h
    have haddressable := hwhole.addressable
    have hlen := RecordPrefix.encodedLen_eq hwhole.encodedLen
    rw [← hwhole.payloadLen] at hlen
    simp only [frameRecordPrefixLen] at hlen
    obtain ⟨⟨n, hn⟩, hcount⟩ := ih hrest (show total + record.span.payloadLen ≤ offset + record.span.encodedLen by omega)
    have hadd : checkedAdd total record.span.payloadLen = some (total + record.span.payloadLen) :=
      checkedAdd_eq_some.2 ⟨by omega, rfl⟩
    exact ⟨⟨n, by rw [List.foldlM_cons, hadd]; exact hn⟩, by rw [List.length_cons]; omega⟩

theorem readRecords_append (h : ReadBack crc bytes segmentId records) (spans : List RecordSpan) :
    (readRecords crc bytes segmentId (records.map (·.span) ++ spans)).1 =
      records ++ (readRecords crc bytes segmentId spans).1 := by
  induction records with
  | nil => rfl
  | cons record records ih =>
    obtain ⟨hread, hrest⟩ := List.forall_mem_cons.1 h
    rw [List.map_cons, List.cons_append, readRecords, hread]
    exact congrArg (record :: ·) (ih hrest)

theorem analyzeFile_total (hlength : segmentHeaderLen ≤ file.bytes.length)
    (hheader : SegmentHeader.decode crc (file.bytes.take segmentHeaderLen) = .ok header)
    (hsegment : header.segmentId = file.segmentId) : ∃ analysis, analyzeFile crc file = .ok analysis ∧
      analysis.records = (readRecords crc file.bytes header.segmentId
        (scanRecordRegion crc header segmentHeaderLen (file.bytes.drop segmentHeaderLen)).records).1 := by
  obtain ⟨behind, hspans, -, -⟩ := readRecords_spec crc file.bytes header.segmentId
    (scanRecordRegion crc header segmentHeaderLen (file.bytes.drop segmentHeaderLen)).records
  have hconsecutive := consecutive_scan crc header file.bytes segmentHeaderLen
  rw [hspans, Consecutive.append] at hconsecutive
  obtain ⟨⟨totalPayload, hpayload⟩, hcount⟩ := hconsecutive.1.totals (Nat.zero_le _)
  have hcounted := checkedAdd_eq_some.2 ⟨show _ + 0 ≤ u64Max from hcount.trans (Nat.sub_le _ _), rfl⟩
  rw [analyzeFile, if_neg (not_lt.2 hlength), corruptHeader_eq_ok.2 hheader, ok_bind, if_neg (not_not.2 hsegment),
    scanCompleteRecords_eq hlength hheader, corruptHeader_eq_ok.2 rfl, ok_bind]
  dsimp only
  rw [payloadOf, hpayload, hcounted]
  exact ⟨_, rfl, rfl⟩

/-- The records that the frames have from `offset` on. -/
def recordsFrom (offset : Nat) (frames : List EncodedFrame) : List RecoveredRecord :=
  (frames.zip (spansFrom offset frames)).map fun entry => ⟨entry.2, entry.1⟩

theorem span_recordsFrom : (recordsFrom offset frames).map (·.span) = spansFrom offset frames := by
  induction frames generalizing offset with
  | nil => rfl
  | cons frame frames ih => exact congrArg (frame.record.span offset :: ·) ih

/-- The file begins with its header and the records of the frames, and each is of the session and the target. -/
structure SegmentFile.BeginsWith (crc : Crc32) (header : SegmentHeader) (frames : List EncodedFrame) (file : SegmentFile) :
    Prop where
  segmentId : header.segmentId = file.segmentId
  written : ∃ rest, file.bytes = header.encode crc ++ (recordBytes crc frames ++ rest)
  matching : ∀ frame ∈ frames, frame.Encodable ∧ frame.metadata.sessionId = header.sessionId ∧
    frame.metadata.targetId = header.targetId
  addressable : regionEnd segmentHeaderLen frames ≤ u64Max

theorem SegmentFile.BeginsWith.analyzed (h : file.BeginsWith crc header frames) : ∃ analysis behind,
    analyzeFile crc file = .ok analysis ∧ analysis.records = recordsFrom segmentHeaderLen frames ++ behind := by
  obtain ⟨rest, hbytes⟩ := h.written
  have hlength : segmentHeaderLen ≤ file.bytes.length := by rw [hbytes]; simp
  have hheader : SegmentHeader.decode crc (file.bytes.take segmentHeaderLen) = .ok header := by
    rw [hbytes, List.take_left' (by simp), SegmentHeader.decode_encode]
  have hback : ReadBack crc file.bytes header.segmentId (recordsFrom segmentHeaderLen frames) := by
    intro record hrecord
    obtain ⟨⟨frame, span⟩, hmem, rfl⟩ := List.mem_map.1 hrecord
    obtain ⟨before, after, rfl, rfl⟩ := mem_zip_spansFrom hmem
    obtain ⟨hencodable, hsession, htarget⟩ := h.matching frame (by simp)
    have hend : segmentHeaderLen + (recordBytes crc before).length + frame.record.encodedLen ≤ u64Max := by
      have hlen : segmentHeaderLen + (recordBytes crc (before ++ frame :: after)).length = _ := length_recordBytes
      have haddressable := h.addressable
      rw [recordBytes_append, recordBytes_cons, List.length_append, List.length_append, FrameRecord.length_bytes] at hlen
      omega
    have hplace : segmentHeaderLen + (recordBytes crc before).length = regionEnd segmentHeaderLen before := length_recordBytes
    rw [hbytes, recordBytes_append, recordBytes_cons, List.append_assoc, List.append_assoc, FrameRecord.span, ← hplace]
    exact readFrameAt_record hencodable hsession htarget hend
  obtain ⟨analysis, hok, hrecords⟩ := analyzeFile_total hlength hheader h.segmentId
  have hdrop : file.bytes.drop segmentHeaderLen = recordBytes crc frames ++ rest := by
    rw [hbytes, List.drop_left' (by simp)]
  rw [hdrop, scanRecordRegion_frames (fun frame hframe => (h.matching frame hframe).1) h.addressable] at hrecords
  dsimp only at hrecords
  rw [← span_recordsFrom, readRecords_append hback] at hrecords
  exact ⟨analysis, _, hok, hrecords⟩

variable {now : SegmentId → Int} {root root' : RecordingRoot} {report : RecoveryReport}

/-- The sealed file of a segment gives the records back at their places, and their frames are indexed. -/
def RecordingRoot.Gives (crc : Crc32) (root : RecordingRoot) (segmentId : SegmentId) (records : List RecoveredRecord) : Prop :=
  ∃ f ∈ root.directory, f.extension = .sealed ∧ f.segmentId = segmentId ∧ ∀ record ∈ records,
    readFrameAt crc f.bytes ⟨segmentId, record.span.byteOffset⟩ = .ok record.frame ∧
    root.index.frameExists record.frame.metadata.id = true

/-- A pass that completes keeps every frame whose record a published file holds in whole, whatever is behind it: the sealed
file gives the frame back at the place of its record, and the frame is indexed. -/
theorem whole_records_recovered (hstored : root.index.FramesStored) (h : recover crc now root = .ok (root', report))
    (hfile : file ∈ root.directory) (hpublished : file.IsPublished) (hbegins : file.BeginsWith crc header frames)
    (hrows : ∀ row ∈ root.index.frames, ∀ frame ∈ frames, row.frameId = frame.metadata.id → row.segmentId ≤ file.segmentId) :
    root'.Gives crc file.segmentId (recordsFrom segmentHeaderLen frames) := by
  have houtcome := outcome_of_recover hstored h
  obtain ⟨analysis, behind, hok, hrecords⟩ := hbegins.analyzed
  have hrecovers : root.directory.Recovers crc file analysis := ⟨hfile, hpublished, hok⟩
  obtain ⟨f, hf, -, hid, hsettled, hagain⟩ := houtcome.settledFile_mem hrecovers
  have hanalyzed := analyzed_of_analyzeFile hagain
  refine ⟨f, hf, (id_settledFile hsettled).2, hid, fun record hrecord => ?_⟩
  have hmem : record ∈ analysis.records := hrecords ▸ List.mem_append_left _ hrecord
  obtain ⟨⟨frame, span⟩, hentry, rfl⟩ := List.mem_map.1 hrecord
  have hread := hanalyzed.readBack _ (analysis.records_settled.symm ▸ hmem)
  rw [hanalyzed.segmentId, hid] at hread
  exact ⟨hread, (houtcome.frameExists _).2 ⟨file, ⟨analysis, hrecovers, _, hmem, rfl⟩, fun row hrow =>
    hrows row hrow frame (List.of_mem_zip hentry).1⟩⟩

end

theorem beginsWith_openFile :
    (openFile 1 2).BeginsWith ieeeCrc32 zeroHeader [sampleFrame 1 ⟨1, ordinal_one⟩ 1, sampleFrame 2 ⟨2, ordinal_two⟩ 2] where
  segmentId := rfl
  written := ⟨[], rfl⟩
  matching := by
    simp only [List.forall_mem_cons, List.not_mem_nil, false_implies, implies_true, and_true]
    exact ⟨⟨⟨by decide, by decide, by decide⟩, rfl, rfl⟩, ⟨by decide, by decide, by decide⟩, rfl, rfl⟩
  addressable := by decide +kernel

theorem whole_records_recovered_open : ∃ root' report,
    recover ieeeCrc32 (fun _ => 0) (rootOf (openFile 1 2)) = .ok (root', report) ∧
      root'.Gives ieeeCrc32 ⟨zeroUuid⟩
        (recordsFrom segmentHeaderLen [sampleFrame 1 ⟨1, ordinal_one⟩ 1, sampleFrame 2 ⟨2, ordinal_two⟩ 2]) := by
  have hok : (recover ieeeCrc32 (fun _ => 0) (rootOf (openFile 1 2))).isOk = true := by decide +kernel
  cases hrun : recover ieeeCrc32 (fun _ => 0) (rootOf (openFile 1 2)) with
  | error _ => cases hrun ▸ hok
  | ok result =>
    exact ⟨result.1, result.2, rfl, whole_records_recovered (framesStored_rootOf _) hrun (List.mem_singleton_self _)
      (by decide) beginsWith_openFile fun row hrow => absurd hrow (Relation.not_mem_empty (a := row))⟩

end Krometrail
