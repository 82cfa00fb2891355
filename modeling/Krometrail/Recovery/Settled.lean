import Krometrail.Recovery.Files

/-!
# A recovered file is left alone

The file that recovery leaves holds the records it kept and their footer.  Scanning is local: the records in front of
a cut are found whatever follows the cut (`Consecutive.congr`).  So the recovered file has the same header, the same
records and the same footer, and it needs no repair exactly when the session times of the footer are in order
(`analyzeFile_settled`).
-/

namespace Krometrail

open Results

/-- Where the last of the spans from `offset` on ends. -/
def spansEnd (offset : Nat) (spans : List RecordSpan) : Nat := spans.foldl (fun offset span => offset + span.encodedLen) offset

/-- The bytes hold the records of the spans, one after the other from `offset` on. -/
def Consecutive (crc : Crc32) (bytes : List UInt8) : Nat → List RecordSpan → Prop
  | _, [] => True
  | offset, span :: spans =>
    (∃ fields, Whole crc offset (bytes.drop offset) span fields) ∧ Consecutive crc bytes (offset + span.encodedLen) spans

section

variable {crc : Crc32} {header : SegmentHeader} {bytes bytes' : List UInt8} {offset : Nat} {span : RecordSpan}
  {spans : List RecordSpan}

@[simp] theorem spansEnd_cons : spansEnd offset (span :: spans) = spansEnd (offset + span.encodedLen) spans := rfl

theorem le_spansEnd (offset : Nat) (spans : List RecordSpan) : offset ≤ spansEnd offset spans := by
  induction spans generalizing offset with
  | nil => exact le_rfl
  | cons span spans ih => exact (Nat.le_add_right _ _).trans (ih (offset + span.encodedLen))

theorem consecutive_scan (crc : Crc32) (header : SegmentHeader) (bytes : List UInt8) (offset : Nat) :
    Consecutive crc bytes offset (scanRecordRegion crc header offset (bytes.drop offset)).records := by
  induction h : (bytes.drop offset).length using Nat.strong_induction_on generalizing offset with
  | _ n ih =>
    subst h
    by_cases hne : bytes.drop offset = []
    · rw [hne, scanRecordRegion_nil]
      trivial
    · cases hscan : scanRecord crc header offset (bytes.drop offset) with
      | error trailing =>
        rw [scanRecordRegion_stop hne hscan]
        trivial
      | ok span =>
        obtain ⟨fields, hwhole⟩ := scanRecord_eq_ok.1 hscan
        have hprefix := hwhole.prefix_le_encodedLen
        have hcomplete := hwhole.complete
        simp only [frameRecordPrefixLen] at hprefix
        rw [scanRecordRegion_record hscan, List.drop_drop]
        refine ⟨⟨fields, hwhole⟩, ih _ ?_ _ rfl⟩
        rw [List.length_drop] at hcomplete ⊢
        rw [List.length_drop]
        omega

theorem Consecutive.scan (h : Consecutive crc bytes offset spans) :
    scanRecordRegion crc header offset (bytes.drop offset) =
      let behind := scanRecordRegion crc header (spansEnd offset spans) (bytes.drop (spansEnd offset spans))
      { behind with records := spans ++ behind.records } := by
  induction spans generalizing offset with
  | nil => rfl
  | cons span spans ih =>
    obtain ⟨hwhole, hrest⟩ := h
    rw [scanRecordRegion_record (scanRecord_eq_ok.2 hwhole), List.drop_drop]
    exact congrArg (fun result : ScanResult => { result with records := span :: result.records }) (ih hrest)

theorem Consecutive.le_length (h : Consecutive crc bytes offset spans) (hoffset : offset ≤ bytes.length) :
    spansEnd offset spans ≤ bytes.length := by
  induction spans generalizing offset with
  | nil => exact hoffset
  | cons span spans ih =>
    obtain ⟨⟨fields, hwhole⟩, hrest⟩ := h
    have hcomplete := hwhole.complete
    rw [List.length_drop] at hcomplete
    have hstep : offset + span.encodedLen ≤ bytes.length := by omega
    exact ih hrest hstep

theorem Consecutive.append {spans' : List RecordSpan} : Consecutive crc bytes offset (spans ++ spans') ↔
    Consecutive crc bytes offset spans ∧ Consecutive crc bytes (spansEnd offset spans) spans' := by
  induction spans generalizing offset with
  | nil => exact ⟨fun h => ⟨trivial, h⟩, fun h => h.2⟩
  | cons span spans ih =>
    simp only [List.cons_append, Consecutive, ih, spansEnd_cons, and_assoc]

theorem Consecutive.of_mem (h : Consecutive crc bytes offset spans) (hspan : span ∈ spans) :
    (∃ fields, Whole crc span.byteOffset (bytes.drop span.byteOffset) span fields) ∧ offset ≤ span.byteOffset ∧
      span.byteOffset + span.encodedLen ≤ spansEnd offset spans := by
  induction spans generalizing offset with
  | nil => exact absurd hspan List.not_mem_nil
  | cons head spans ih =>
    obtain ⟨⟨fields, hwhole⟩, hrest⟩ := h
    rcases List.mem_cons.1 hspan with rfl | hspan
    · have hend := le_spansEnd (offset + span.encodedLen) spans
      rw [hwhole.byteOffset]
      exact ⟨⟨fields, hwhole⟩, le_rfl, hend⟩
    · obtain ⟨hwhole, hle, hend⟩ := ih hrest hspan
      exact ⟨hwhole, (Nat.le_add_right _ _).trans hle, hend⟩

theorem Consecutive.nodup_offsets (h : Consecutive crc bytes offset spans) : (spans.map (·.byteOffset)).Nodup := by
  induction spans generalizing offset with
  | nil => exact List.nodup_nil
  | cons span spans ih =>
    obtain ⟨⟨fields, hwhole⟩, hrest⟩ := h
    refine List.nodup_cons.2 ⟨fun hmem => ?_, ih hrest⟩
    obtain ⟨span', hspan', hoffset⟩ := List.mem_map.1 hmem
    have hle := (hrest.of_mem hspan').2.1
    have hprefix := hwhole.prefix_le_encodedLen
    have hsame : span'.byteOffset = offset := hoffset.trans hwhole.byteOffset
    simp only [frameRecordPrefixLen] at hprefix
    omega

theorem drop_take_congr {α : Type} {l l' : List α} {n i j : Nat} (h : l'.take n = l.take n) (hn : i + j ≤ n) :
    (l'.drop i).take j = (l.drop i).take j := by
  have htake : ∀ l : List α, (l.drop i).take j = ((l.take n).drop i).take j := by
    intro l
    rw [List.drop_take, List.take_take, min_eq_left (by omega)]
  rw [htake l', htake l, h]

theorem Consecutive.congr (h : Consecutive crc bytes offset spans)
    (heq : bytes'.take (spansEnd offset spans) = bytes.take (spansEnd offset spans))
    (hlength : spansEnd offset spans ≤ bytes'.length) : Consecutive crc bytes' offset spans := by
  induction spans generalizing offset with
  | nil => trivial
  | cons span spans ih =>
    obtain ⟨⟨fields, hwhole⟩, hrest⟩ := h
    rw [spansEnd_cons] at heq hlength
    have hle := le_spansEnd (offset + span.encodedLen) spans
    refine ⟨⟨fields, hwhole.congr ?_ (drop_take_congr heq hle)⟩, ih hrest heq hlength⟩
    rw [List.length_drop]
    omega

theorem readFrameAt_congr {segmentId : SegmentId} {fields : RecordPrefix} (hwhole : Whole crc offset (bytes.drop offset) span fields)
    (hwhole' : Whole crc offset (bytes'.drop offset) span fields) (hoffset : segmentHeaderLen ≤ offset)
    (hheader : bytes'.take segmentHeaderLen = bytes.take segmentHeaderLen)
    (heq : (bytes'.drop offset).take span.encodedLen = (bytes.drop offset).take span.encodedLen) :
    readFrameAt crc bytes' ⟨segmentId, offset⟩ = readFrameAt crc bytes ⟨segmentId, offset⟩ := by
  have hlong : ∀ bytes : List UInt8, frameRecordPrefixLen ≤ (bytes.drop offset).length → ¬bytes.length < segmentHeaderLen := by
    intro bytes hlen
    rw [List.length_drop] at hlen
    simp only [frameRecordPrefixLen] at hlen
    omega
  obtain ⟨tailLen, htail, hencoded⟩ : ∃ tailLen, checkedAdd fields.headerLen.toNat fields.payloadLen.toNat = some tailLen ∧
      frameRecordPrefixLen + tailLen = span.encodedLen := by
    have hlen := hwhole.encodedLen
    simp only [RecordPrefix.encodedLen, Option.bind_eq_some_iff, checkedAdd_eq_some] at hlen
    obtain ⟨_, ⟨_, rfl⟩, hfits, hsum⟩ := hlen
    exact ⟨_, checkedAdd_eq_some.2 ⟨by omega, rfl⟩, by omega⟩
  simp only [readFrameAt, if_neg (not_lt.2 hoffset), if_neg (hlong _ hwhole.prefix_le), if_neg (hlong _ hwhole'.prefix_le),
    hheader, hwhole.readPrefix, hwhole'.readPrefix, okOr_some, ok_bind, htail, hencoded,
    if_neg (not_lt.2 hwhole.prefix_le), if_neg (not_lt.2 hwhole'.prefix_le), if_neg (not_lt.2 hwhole.complete),
    if_neg (not_lt.2 hwhole'.complete), heq]

end

/-- The records are read back at their spans. -/
def ReadBack (crc : Crc32) (bytes : List UInt8) (segmentId : SegmentId) (records : List RecoveredRecord) : Prop :=
  ∀ record ∈ records, readFrameAt crc bytes ⟨segmentId, record.span.byteOffset⟩ = .ok record.frame

section

variable {crc : Crc32} {bytes bytes' : List UInt8} {segmentId : SegmentId} {records : List RecoveredRecord}

theorem readRecords_spec (crc : Crc32) (bytes : List UInt8) (segmentId : SegmentId) (spans : List RecordSpan) :
    ∃ rest, spans = (readRecords crc bytes segmentId spans).1.map (·.span) ++ rest ∧
      ReadBack crc bytes segmentId (readRecords crc bytes segmentId spans).1 ∧
      ((readRecords crc bytes segmentId spans).2 = none → rest = []) := by
  induction spans with
  | nil => exact ⟨[], rfl, fun record hrecord => absurd hrecord List.not_mem_nil, fun _ => rfl⟩
  | cons span spans ih =>
    rw [readRecords]
    cases hread : readFrameAt crc bytes ⟨segmentId, span.byteOffset⟩ with
    | error _ => exact ⟨span :: spans, rfl, fun record hrecord => absurd hrecord List.not_mem_nil, nofun⟩
    | ok frame =>
      obtain ⟨rest, hspans, hback, hnone⟩ := ih
      exact ⟨rest, congrArg (span :: ·) hspans, List.forall_mem_cons.2 ⟨hread, hback⟩, hnone⟩

theorem readRecords_of_readBack (h : ReadBack crc bytes segmentId records) :
    readRecords crc bytes segmentId (records.map (·.span)) = (records, none) := by
  induction records with
  | nil => rfl
  | cons record records ih =>
    obtain ⟨hread, hrest⟩ := List.forall_mem_cons.1 h
    rw [List.map_cons, readRecords, hread]
    simp only [ih hrest]

theorem recordEndOf_eq (h : Consecutive crc bytes segmentHeaderLen (records.map (·.span))) :
    recordEndOf records = spansEnd segmentHeaderLen (records.map (·.span)) := by
  suffices H : ∀ (records : List RecoveredRecord) (offset : Nat), Consecutive crc bytes offset (records.map (·.span)) →
      (records.getLast?.elim offset fun record => record.span.byteOffset + record.span.encodedLen) =
        spansEnd offset (records.map (·.span)) from H records segmentHeaderLen h
  intro records
  induction records with
  | nil => exact fun _ _ => rfl
  | cons record records ih =>
    rintro offset ⟨⟨fields, hwhole⟩, hrest⟩
    rw [List.map_cons, spansEnd_cons, ← ih _ hrest, List.getLast?_cons]
    cases hlast : records.getLast? with
    | none => simp [hwhole.byteOffset]
    | some last => simp

/-- The records of an analysis, the place of each in the file, and the parts that are computed from them. -/
structure Analyzed (crc : Crc32) (file : SegmentFile) (analysis : Analysis) : Prop where
  length : segmentHeaderLen ≤ file.bytes.length
  header : SegmentHeader.decode crc (file.bytes.take segmentHeaderLen) = .ok analysis.header
  segmentId : analysis.header.segmentId = file.segmentId
  consecutive : Consecutive crc file.bytes segmentHeaderLen (analysis.records.map (·.span))
  readBack : ReadBack crc file.bytes analysis.header.segmentId analysis.records
  recordEnd : analysis.recordEnd = spansEnd segmentHeaderLen (analysis.records.map (·.span))
  totals : ∃ totalPayload, payloadOf analysis.records = some totalPayload ∧
    analysis.footer = recoveredFooter analysis.header analysis.records totalPayload
  count : analysis.records.length ≤ u64Max
  exact_iff : analysis.footerIsExact = (analysis.repairAt.isNone &&
    footerIsExact crc file.bytes analysis.recordEnd analysis.footer)
  originalLen : analysis.originalLen = file.bytes.length

theorem operational_eq_ok {α : Type} {value : Option α} {message : String} {a : α} :
    operational value message = .ok a ↔ value = some a := by
  cases value with
  | none => exact ⟨nofun, nofun⟩
  | some b => exact ⟨fun h => congrArg some (Except.ok.inj h), fun h => congrArg Except.ok (Option.some.inj h)⟩

theorem corruptHeader_eq_ok {α : Type} {result : Result α} {a : α} : corruptHeader result = .ok a ↔ result = .ok a := by
  cases result with
  | error _ => exact ⟨nofun, nofun⟩
  | ok b => exact ⟨fun h => congrArg Except.ok (Except.ok.inj h), fun h => congrArg Except.ok (Except.ok.inj h)⟩

theorem scanCompleteRecords_eq {header : SegmentHeader} (hlength : segmentHeaderLen ≤ bytes.length)
    (hheader : SegmentHeader.decode crc (bytes.take segmentHeaderLen) = .ok header) :
    scanCompleteRecords crc bytes =
      .ok (scanRecordRegion crc header segmentHeaderLen (bytes.drop segmentHeaderLen)) := by
  rw [scanCompleteRecords, scanCompleteRecordsFrom, if_neg (not_lt.2 hlength), hheader, ok_bind,
    if_neg (lt_irrefl _), if_neg (not_lt.2 hlength)]
  rfl

theorem analyzed_of_analyzeFile {file : SegmentFile} {analysis : Analysis} (h : analyzeFile crc file = .ok analysis) :
    Analyzed crc file analysis := by
  unfold analyzeFile at h
  dsimp only at h
  split at h
  · cases h
  rename_i hlength
  simp only [bind_eq_ok, corruptHeader_eq_ok] at h
  obtain ⟨header, hheader, h⟩ := h
  split at h
  · cases h
  rename_i hsegment
  rw [scanCompleteRecords_eq (not_lt.1 hlength) hheader] at h
  simp only [bind_eq_ok, corruptHeader_eq_ok, operational_eq_ok, pure_eq_ok] at h
  obtain ⟨scan, hscan, totalPayload, hpayload, _, hcount, rfl⟩ := h
  cases hscan
  obtain ⟨rest, hspans, hback, -⟩ := readRecords_spec crc file.bytes header.segmentId
    (scanRecordRegion crc header segmentHeaderLen (file.bytes.drop segmentHeaderLen)).records
  have hconsecutive := consecutive_scan crc header file.bytes segmentHeaderLen
  rw [hspans, Consecutive.append] at hconsecutive
  exact ⟨not_lt.1 hlength, hheader, not_not.1 hsegment, hconsecutive.1, hback, recordEndOf_eq hconsecutive.1,
    ⟨totalPayload, hpayload, rfl⟩, (checkedAdd_eq_some.1 hcount).1, rfl, rfl⟩

theorem analyzeFile_of {file : SegmentFile} {header : SegmentHeader} {trailing : Trailing} {totalPayload : Nat}
    (hlength : segmentHeaderLen ≤ file.bytes.length)
    (hheader : SegmentHeader.decode crc (file.bytes.take segmentHeaderLen) = .ok header)
    (hsegment : header.segmentId = file.segmentId)
    (hscan : scanRecordRegion crc header segmentHeaderLen (file.bytes.drop segmentHeaderLen) =
      { records := records.map (·.span), trailing })
    (hback : ReadBack crc file.bytes header.segmentId records) (hpayload : payloadOf records = some totalPayload)
    (hcount : records.length ≤ u64Max) :
    analyzeFile crc file = .ok {
      header, records
      footer := recoveredFooter header records totalPayload
      recordEnd := recordEndOf records
      footerIsExact := trailing.repairAt.isNone &&
        footerIsExact crc file.bytes (recordEndOf records) (recoveredFooter header records totalPayload)
      repairAt := trailing.repairAt
      originalLen := file.bytes.length } := by
  have hcounted : checkedAdd records.length 0 = some records.length := checkedAdd_eq_some.2 ⟨hcount, rfl⟩
  rw [analyzeFile, if_neg (not_lt.2 hlength), corruptHeader_eq_ok.2 hheader, ok_bind,
    if_neg (not_not.2 hsegment), scanCompleteRecords_eq hlength hheader, hscan, corruptHeader_eq_ok.2 rfl, ok_bind,
    readRecords_of_readBack hback]
  dsimp only
  rw [hpayload, hcounted]
  rfl

theorem analyzeFile_congr {file file' : SegmentFile} (hsegment : file'.segmentId = file.segmentId)
    (hbytes : file'.bytes = file.bytes) : analyzeFile crc file' = analyzeFile crc file := by
  simp only [analyzeFile, hsegment, hbytes]

end

namespace Analysis

/-- The bytes that recovery leaves. -/
def settledBytes (crc : Crc32) (analysis : Analysis) (bytes : List UInt8) : List UInt8 :=
  if analysis.footerIsExact then bytes else bytes.take analysis.recordEnd ++ analysis.footer.encode crc

/-- The analysis of the bytes that recovery leaves. -/
def settled (analysis : Analysis) : Analysis :=
  if analysis.footerIsExact then analysis
  else { analysis with
    repairAt := if analysis.footer.Ordered then none else some analysis.recordEnd
    footerIsExact := analysis.footer.Ordered
    originalLen := analysis.recordEnd + sealedFooterLen }

@[simp] theorem header_settled (analysis : Analysis) : analysis.settled.header = analysis.header := by
  unfold settled
  split <;> rfl

@[simp] theorem records_settled (analysis : Analysis) : analysis.settled.records = analysis.records := by
  unfold settled
  split <;> rfl

@[simp] theorem footer_settled (analysis : Analysis) : analysis.settled.footer = analysis.footer := by
  unfold settled
  split <;> rfl

@[simp] theorem recordEnd_settled (analysis : Analysis) : analysis.settled.recordEnd = analysis.recordEnd := by
  unfold settled
  split <;> rfl

@[simp] theorem registration_settled (analysis : Analysis) : analysis.settled.registration = analysis.registration := by
  simp [registration]

end Analysis

section

variable {crc : Crc32} {file file' : SegmentFile} {analysis : Analysis}

variable {bytes : List UInt8} {footer : SealedFooter}

theorem SealedFooter.ordered_of_decode (h : SealedFooter.decode crc bytes = .ok footer) : footer.Ordered := by
  unfold SealedFooter.decode at h
  split at h
  · cases h
  split at h
  · cases h
  obtain ⟨read, -, hread⟩ := bind_eq_ok.1 h
  obtain ⟨rfl, hordered⟩ := SealedFooter.checkTimes_eq_ok.1 hread
  exact hordered

theorem footerIsExact_eq_true {recordEnd : Nat} :
    footerIsExact crc bytes recordEnd footer = true ↔
      bytes.length = recordEnd + sealedFooterLen ∧ SealedFooter.decode crc (bytes.drop recordEnd) = .ok footer := by
  unfold footerIsExact
  cases SealedFooter.decode crc (bytes.drop recordEnd) with
  | error _ => simp
  | ok stored => simp

theorem Analyzed.of_exact (h : Analyzed crc file analysis) (hexact : analysis.footerIsExact = true) :
    analysis.repairAt = none ∧ file.bytes.length = analysis.recordEnd + sealedFooterLen ∧
      SealedFooter.decode crc (file.bytes.drop analysis.recordEnd) = .ok analysis.footer ∧ analysis.footer.Ordered := by
  rw [h.exact_iff, Bool.and_eq_true, Option.isNone_iff_eq_none, footerIsExact_eq_true] at hexact
  obtain ⟨hrepair, hlength, hdecode⟩ := hexact
  exact ⟨hrepair, hlength, hdecode, SealedFooter.ordered_of_decode hdecode⟩

theorem footerIsExact_encode {recordEnd : Nat} (h : bytes.length = recordEnd) :
    footerIsExact crc (bytes ++ footer.encode crc) recordEnd footer = decide footer.Ordered := by
  rw [Bool.eq_iff_iff, footerIsExact_eq_true, decide_eq_true_eq, List.drop_left' h, SealedFooter.decode_encode,
    SealedFooter.checkTimes_eq_ok]
  exact ⟨fun hexact => hexact.2.2, fun hordered => ⟨by simp [h], rfl, hordered⟩⟩

/-- The recovered file has the same header, records and footer, and it is repaired again exactly when the session
times of the footer are not in order. -/
theorem analyzeFile_settled (h : analyzeFile crc file = .ok analysis) (hsegment : file'.segmentId = file.segmentId)
    (hbytes : file'.bytes = analysis.settledBytes crc file.bytes) : analyzeFile crc file' = .ok analysis.settled := by
  have hanalyzed := analyzed_of_analyzeFile h
  unfold Analysis.settledBytes at hbytes
  unfold Analysis.settled
  split at hbytes
  · rename_i hexact
    rw [if_pos hexact, analyzeFile_congr hsegment hbytes, h]
  rename_i hexact
  rw [if_neg hexact]
  have hend : analysis.recordEnd = _ := hanalyzed.recordEnd
  have hheaderEnd : segmentHeaderLen ≤ analysis.recordEnd := hend ▸ le_spansEnd _ _
  have hfits : analysis.recordEnd ≤ file.bytes.length := hend ▸ hanalyzed.consecutive.le_length hanalyzed.length
  have hcut : (file.bytes.take analysis.recordEnd).length = analysis.recordEnd := by simp [hfits]
  have htake : file'.bytes.take analysis.recordEnd = file.bytes.take analysis.recordEnd := by
    rw [hbytes, List.take_left' hcut]
  have hdrop : file'.bytes.drop analysis.recordEnd = analysis.footer.encode crc := by rw [hbytes, List.drop_left' hcut]
  have hlength : file'.bytes.length = analysis.recordEnd + sealedFooterLen := by rw [hbytes]; simp [hfits]
  have hheader : file'.bytes.take segmentHeaderLen = file.bytes.take segmentHeaderLen := by
    have := congrArg (List.take segmentHeaderLen) htake
    rwa [List.take_take, List.take_take, min_eq_left hheaderEnd] at this
  have hconsecutive : Consecutive crc file'.bytes segmentHeaderLen (analysis.records.map (·.span)) :=
    hanalyzed.consecutive.congr (by rw [← hend, htake]) (by rw [← hend, hlength]; omega)
  obtain ⟨totalPayload, hpayload, hfooter⟩ := hanalyzed.totals
  -- behind the records the scan meets the footer
  have hscan : scanRecordRegion crc analysis.header segmentHeaderLen (file'.bytes.drop segmentHeaderLen) =
      { records := analysis.records.map (·.span)
        trailing := if analysis.footer.Ordered then .clean else .corrupt analysis.recordEnd } := by
    have hne : analysis.footer.encode crc ≠ [] := by
      rw [← List.length_pos_iff, SealedFooter.length_encode]
      decide
    have hstop : scanRecord crc analysis.header analysis.recordEnd (analysis.footer.encode crc) = _ :=
      SealedFooter.scanRecord_footer (by rw [hfooter]; rfl)
    rw [hconsecutive.scan, ← hend, hdrop, scanRecordRegion_stop hne hstop]
    simp
  have hback : ReadBack crc file'.bytes analysis.header.segmentId analysis.records := by
    intro record hrecord
    have hspan : record.span ∈ analysis.records.map (·.span) := List.mem_map_of_mem hrecord
    obtain ⟨⟨fields, hwhole⟩, hle, hspanEnd⟩ := hanalyzed.consecutive.of_mem hspan
    obtain ⟨⟨fields', hwhole'⟩, -, -⟩ := hconsecutive.of_mem hspan
    obtain rfl : fields = fields' := by
      have hread := hwhole.readPrefix
      have hread' := hwhole'.readPrefix
      have hprefix : (file'.bytes.drop record.span.byteOffset).take frameRecordPrefixLen =
          (file.bytes.drop record.span.byteOffset).take frameRecordPrefixLen :=
        drop_take_congr htake (by have := hwhole.prefix_le_encodedLen; omega)
      rw [readRecordPrefix, hprefix, ← readRecordPrefix, hread] at hread'
      exact Option.some.inj hread'
    rw [readFrameAt_congr hwhole hwhole' hle hheader (drop_take_congr htake (by omega))]
    exact hanalyzed.readBack record hrecord
  rw [analyzeFile_of (by omega) (hheader ▸ hanalyzed.header) (hanalyzed.segmentId.trans hsegment.symm) hscan hback
    hpayload hanalyzed.count, recordEndOf_eq hanalyzed.consecutive, ← hend, ← hfooter, hlength, hbytes,
    footerIsExact_encode hcut]
  by_cases hordered : analysis.footer.Ordered
  · simp [hordered, Trailing.repairAt]
  · simp [hordered, Trailing.repairAt]

theorem settledBytes_settled (h : analyzeFile crc file = .ok analysis) :
    analysis.settled.settledBytes crc (analysis.settledBytes crc file.bytes) = analysis.settledBytes crc file.bytes := by
  have hanalyzed := analyzed_of_analyzeFile h
  have hfits : analysis.recordEnd ≤ file.bytes.length :=
    hanalyzed.recordEnd ▸ hanalyzed.consecutive.le_length hanalyzed.length
  unfold Analysis.settledBytes
  split
  · rfl
  · rename_i hagain
    rw [Analysis.recordEnd_settled, Analysis.footer_settled]
    split
    · rename_i hexact
      simp [Analysis.settled, hexact] at hagain
    · rw [List.take_left' (by simp [hfits])]

theorem settled_exact_iff (h : analyzeFile crc file = .ok analysis) :
    analysis.settled.footerIsExact = true ↔ analysis.footer.Ordered := by
  unfold Analysis.settled
  split
  · rename_i hexact
    exact ⟨fun _ => ((analyzed_of_analyzeFile h).of_exact hexact).2.2.2, fun _ => hexact⟩
  · simp

end

end Krometrail
