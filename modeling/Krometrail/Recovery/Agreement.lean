import Krometrail.Recovery.Outcome

/-!
# Recovering twice

Two things keep a pass from leaving a settled root.  The footer that it writes behind records whose session times
decrease is not accepted when it is read back, so that the file is repaired again at every start.  And while a frame
has a row in a segment whose turn is still to come, the records of it in earlier segments are not indexed; that row may
leave the index at its turn, and the next pass finds a frame without a row.
-/

namespace Krometrail

open Relations Results

/-- The last of the records recovered from a file is not of an earlier session time than the first. -/
def TimesOrdered (crc : Crc32) (directory : Directory) : Prop :=
  ∀ file analysis, directory.Recovers crc file analysis →
    ∀ first ∈ analysis.records.head?, ∀ last ∈ analysis.records.getLast?,
      first.frame.metadata.sessionTime.nanos ≤ last.frame.metadata.sessionTime.nanos

/-- A frame that has a row and is recorded is recorded in the segment of the row, or in one behind it. -/
def FramesUnblocked (crc : Crc32) (root : RecordingRoot) : Prop :=
  ∀ row ∈ root.index.frames, (∃ file, root.directory.Records crc file row.frameId) →
    ∃ file, root.directory.Records crc file row.frameId ∧ row.segmentId ≤ file.segmentId

/-- Recovering the root again changes nothing and reports nothing; in particular each of its files is sealed, needs no
repair, has an exact footer and holds the records that were recovered. -/
structure Idempotent (crc : Crc32) (root root' : RecordingRoot) : Prop where
  again : ∀ now, recover crc now root' = .ok (root', {})
  files : ∀ f ∈ root'.directory, f.IsPublished → f.extension = .sealed ∧
    ∃ analysis', analyzeFile crc f = .ok analysis' ∧ analysis'.footerIsExact = true ∧ analysis'.repairAt = none ∧
      ∃ file analysis, root.directory.Recovers crc file analysis ∧ file.segmentId = f.segmentId ∧
        analysis'.records = analysis.records

section

variable {crc : Crc32} {now : SegmentId → Int} {root root' : RecordingRoot} {report : RecoveryReport}
  {file f : SegmentFile} {analysis : Analysis}

theorem Analyzed.ordered_iff (h : Analyzed crc file analysis) : analysis.footer.Ordered ↔
    ∀ first ∈ analysis.records.head?, ∀ last ∈ analysis.records.getLast?,
      first.frame.metadata.sessionTime.nanos ≤ last.frame.metadata.sessionTime.nanos := by
  obtain ⟨totalPayload, -, hfooter⟩ := h.totals
  rw [hfooter, SealedFooter.Ordered, recoveredFooter]
  dsimp only
  cases hrecords : analysis.records with
  | nil => simp
  | cons first rest =>
    obtain ⟨last, hlast⟩ := Option.isSome_iff_exists.1 (List.getLast?_isSome.2 (List.cons_ne_nil first rest))
    rw [hlast]
    simp

theorem timesOrdered_iff : TimesOrdered crc root.directory ↔
    ∀ file analysis, root.directory.Recovers crc file analysis → analysis.footer.Ordered :=
  forall_congr' fun _ => forall_congr' fun _ => forall_congr' fun h => (analyzed_of_analyzeFile h.2.2).ordered_iff.symm

theorem Outcome.settledFile_mem (h : Outcome crc root root') (hfile : root.directory.Recovers crc file analysis) :
    ∃ f ∈ root'.directory, f.IsPublished ∧ f.segmentId = file.segmentId ∧ settledFile crc file = some f ∧
      analyzeFile crc f = .ok analysis.settled := by
  obtain ⟨hmem, hpublished, hok⟩ := hfile
  have hsettled := settledFile_of_ok hok
  have hpublished' : SegmentFile.IsPublished ⟨file.segmentId, .sealed, analysis.settledBytes crc file.bytes⟩ := by
    show SegmentExtension.sealed ≠ .quarantined
    decide
  exact ⟨_, (h.files _ hpublished').2 ⟨file, hmem, hpublished, hsettled⟩, hpublished', rfl, hsettled,
    (analyze_settledFile hok hsettled).2.2.1⟩

theorem Outcome.origin (h : Outcome crc root root') (hf : f ∈ root'.directory) (hpublished : f.IsPublished) :
    ∃ file analysis, root.directory.Recovers crc file analysis ∧ file.segmentId = f.segmentId ∧
      f.extension = .sealed ∧ analyzeFile crc f = .ok analysis.settled ∧ settledFile crc file = some f := by
  obtain ⟨file, hfile, hpublished', hsettled⟩ := (h.files f hpublished).1 hf
  obtain ⟨analysis, hok, -⟩ := settledFile_eq_some.1 hsettled
  obtain ⟨hid, hextension, hagain, -⟩ := analyze_settledFile hok hsettled
  exact ⟨file, analysis, ⟨hfile, hpublished', hok⟩, hid.symm, hextension, hagain, hsettled⟩

theorem Outcome.indexed_iff (h : Outcome crc root root') : (∀ file frameId, root.directory.Records crc file frameId →
    root'.index.frameExists frameId = true) ↔ FramesUnblocked crc root := by
  constructor
  · intro hall row hrow ⟨file, hrecords⟩
    obtain ⟨file', hrecords', hbehind⟩ := (h.frameExists row.frameId).1 (hall file row.frameId hrecords)
    exact ⟨file', hrecords', hbehind row hrow rfl⟩
  · intro hunblocked file frameId hrecords
    rw [h.frameExists]
    by_cases hrow : ∃ row ∈ root.index.frames, row.frameId = frameId
    · obtain ⟨row, hrow, rfl⟩ := hrow
      obtain ⟨file', hrecords', hle⟩ := hunblocked row hrow ⟨file, hrecords⟩
      refine ⟨file', hrecords', fun row' hrow' hid => ?_⟩
      obtain rfl := Relation.eq_of_key hrow' hrow hid
      exact hle
    · exact ⟨file, hrecords, fun row hmem hid => absurd ⟨row, hmem, hid⟩ hrow⟩

theorem Outcome.settled (h : Outcome crc root root') (hordered : TimesOrdered crc root.directory)
    (hunblocked : FramesUnblocked crc root) : Settled crc root' := by
  refine ⟨h.uniqueIds, fun f hf hpublished => ?_, fun row hrow => ?_, h.usage⟩
  · obtain ⟨file, analysis, hfile, hid, hextension, hagain, hsettled⟩ := h.origin hf hpublished
    refine ⟨analysis.settled, hextension, hagain, (settled_exact_iff hfile.2.2).2 (timesOrdered_iff.1 hordered file analysis hfile),
      ?_, ?_, ?_, ?_⟩
    · have hfits := h.fits file analysis hfile
      rwa [Analysis.Fits, ← analysis.recordEnd_settled] at hfits
    · rw [analysis.registration_settled]
      exact h.registered file analysis hfile
    · intro row hrow hrowid
      obtain ⟨file', analysis', hfile', hid', hagrees⟩ := h.agreeing row hrow
      -- the row agrees with the records of a file of the same segment, so of this file
      obtain rfl := h.discovered file' hfile'.1 file hfile.1 hfile'.2.1 hfile.2.1 (hid'.trans (hrowid.trans hid.symm))
      obtain rfl := Except.ok.inj (hfile'.2.2.symm.trans hfile.2.2)
      rwa [analysis'.records_settled]
    · intro record hrecord
      rw [analysis.records_settled] at hrecord
      exact h.indexed_iff.2 hunblocked file _ ⟨analysis, hfile, record, hrecord, rfl⟩
  · obtain ⟨file, analysis, hfile, hregistration⟩ := h.rows row hrow
    obtain ⟨f, hf, hpublished, hid, -⟩ := h.settledFile_mem hfile
    refine ⟨f, hf, hpublished, hid.trans ?_⟩
    rw [hregistration]
    exact (analyzed_of_analyzeFile hfile.2.2).segmentId.symm

/-- Recovery is idempotent from exactly the roots where no recovered times decrease and no row is in the way of a
record. -/
theorem recover_idempotent_iff (hstored : root.index.FramesStored) (h : recover crc now root = .ok (root', report)) :
    Idempotent crc root root' ↔ TimesOrdered crc root.directory ∧ FramesUnblocked crc root := by
  have houtcome := outcome_of_recover hstored h
  constructor
  · intro hidempotent
    refine ⟨timesOrdered_iff.2 fun file analysis hfile => ?_, houtcome.indexed_iff.1 fun file frameId hrecords => ?_⟩
    · obtain ⟨f, hf, hpublished, -, -, hagain⟩ := houtcome.settledFile_mem hfile
      obtain ⟨-, analysis', hok, hexact, -⟩ := hidempotent.files f hf hpublished
      obtain rfl := Except.ok.inj (hagain.symm.trans hok)
      exact (settled_exact_iff hfile.2.2).1 hexact
    · by_contra hmissing
      -- the second pass would have indexed the frame
      have hagain := outcome_of_recover houtcome.framesStored (hidempotent.again fun _ => 0)
      refine hmissing ((hagain.frameExists frameId).2 ?_)
      obtain ⟨analysis, hfile, record, hrecord, hid⟩ := hrecords
      obtain ⟨f, hf, hpublished, -, -, hok⟩ := houtcome.settledFile_mem hfile
      refine ⟨f, ⟨_, ⟨hf, hpublished, hok⟩, record, analysis.records_settled.symm ▸ hrecord, hid⟩, fun row hrow hrowid => ?_⟩
      exact absurd (SqliteIndex.frameExists_iff.2 ⟨row, hrow, hrowid⟩) hmissing
  · rintro ⟨hordered, hunblocked⟩
    have hsettled := houtcome.settled hordered hunblocked
    refine ⟨fun _ => recover_of_settled hsettled, fun f hf hpublished => ?_⟩
    obtain ⟨file, analysis, hfile, hid, hextension, hagain, -⟩ := houtcome.origin hf hpublished
    have hexact := (settled_exact_iff hfile.2.2).2 (timesOrdered_iff.1 hordered file analysis hfile)
    exact ⟨hextension, _, hagain, hexact, ((analyzed_of_analyzeFile hagain).of_exact hexact).1,
      file, analysis, hfile, hid, analysis.records_settled⟩

end

/-- Bits of the reflected polynomial division. -/
def crcBits : Nat → UInt32 → UInt32
  | 0, crc => crc
  | n + 1, crc => if crc &&& 1 = 1 then crcBits n ((crc >>> 1) ^^^ 0xEDB88320) else crcBits n (crc >>> 1)

/-- The checksum of `crc32fast::hash`. -/
def ieeeCrc32 : Crc32 := fun bytes =>
  ~~~bytes.foldl (fun crc byte => crcBits 8 (crc ^^^ byte.toUInt32)) 0xFFFFFFFF

-- the check value of the polynomial, over the digits 1 to 9
example : ieeeCrc32 [0x31, 0x32, 0x33, 0x34, 0x35, 0x36, 0x37, 0x38, 0x39] = 0xCBF43926 := by decide +kernel

/-- The frame of an identifier, an ordinal and a session time. -/
def sampleFrame (id : UInt8) (ordinal : CaptureOrdinal) (time : UInt64) : EncodedFrame :=
  let frame := frameAt time
  { frame with metadata := { frame.metadata with id := ⟨⟨List.replicate 15 0 ++ [id], rfl⟩⟩, captureOrdinal := ordinal } }

/-- A segment that was left open behind two frames of these times. -/
def openFile (first second : UInt64) : SegmentFile where
  segmentId := ⟨zeroUuid⟩
  extension := .opened
  bytes := segmentBytes ieeeCrc32 zeroHeader
    [(sampleFrame 1 ⟨1, ordinal_one⟩ first).record.bytes ieeeCrc32, (sampleFrame 2 ⟨2, ordinal_two⟩ second).record.bytes ieeeCrc32] none

/-- The root that holds the file and an empty index. -/
def rootOf (file : SegmentFile) : RecordingRoot := ⟨⟨[file], List.nodup_singleton _⟩, SqliteIndex.empty⟩

/-- The root that the first pass leaves of it, and the report of the second. -/
def recoverTwice (root : RecordingRoot) : Result (RecordingRoot × RecoveryReport) := do
  let (root, _) ← recover ieeeCrc32 (fun _ => 0) root
  let (_, report) ← recover ieeeCrc32 (fun _ => 0) root
  return (root, report)

theorem framesStored_rootOf (file : SegmentFile) : (rootOf file).index.FramesStored :=
  fun row hrow => absurd hrow (Relation.not_mem_empty (a := row))

theorem recover_idempotent_ordered : ∃ root' report,
    recover ieeeCrc32 (fun _ => 0) (rootOf (openFile 1 2)) = .ok (root', report) ∧
      (Idempotent ieeeCrc32 (rootOf (openFile 1 2)) root' ↔
        TimesOrdered ieeeCrc32 (rootOf (openFile 1 2)).directory ∧ FramesUnblocked ieeeCrc32 (rootOf (openFile 1 2))) := by
  have hok : (recover ieeeCrc32 (fun _ => 0) (rootOf (openFile 1 2))).isOk = true := by decide +kernel
  cases hrun : recover ieeeCrc32 (fun _ => 0) (rootOf (openFile 1 2)) with
  | error _ => cases hrun ▸ hok
  | ok result => exact ⟨result.1, result.2, rfl, recover_idempotent_iff (framesStored_rootOf _) hrun⟩

/-- The footer behind two frames whose session times decrease is written again by the second pass. -/
theorem decreasing_times_repaired_again : ¬∀ (crc : Crc32) (now : SegmentId → Int) (root root' : RecordingRoot)
    (report : RecoveryReport), root.index.FramesStored → recover crc now root = .ok (root', report) →
      Idempotent crc root root' := by
  intro h
  have htwice : (recoverTwice (rootOf (openFile 2 1))).map (·.2) = .ok { segmentsRepaired := 1, bytesTruncated := 64 } := by
    decide +kernel
  cases hrun : recover ieeeCrc32 (fun _ => 0) (rootOf (openFile 2 1)) with
  | error error =>
    rw [recoverTwice, hrun] at htwice
    cases htwice
  | ok result =>
    have hagain := (h _ _ _ _ _ (framesStored_rootOf _) hrun).again fun _ => 0
    rw [recoverTwice, hrun, ok_bind] at htwice
    dsimp only at htwice
    rw [hagain] at htwice
    have hreport : ({} : RecoveryReport) = { segmentsRepaired := 1, bytesTruncated := 64 } := Except.ok.inj htwice
    exact absurd hreport (by decide)

end Krometrail

/-!
## Index and files behind a pass

A recording root agrees when every frame row reads back from the sealed file of its segment, every segment row says of
such a file what its header, its length and its footer say, no record of such a file is without a row of its frame, and
the segment accounting is exact.  A frame row has no length; the one of the frame is that of the record it reads.
-/

namespace Krometrail

open Relations

def FrameRow.Reads (crc : Crc32) (file : SegmentFile) (row : FrameRow) : Prop :=
  file.extension = .sealed ∧ file.segmentId = row.segmentId ∧
    ∃ frame, readFrameAt crc file.bytes ⟨row.segmentId, row.byteOffset⟩ = .ok frame ∧ frame.metadata.id = row.frameId ∧
      frame.metadata.sessionId = row.sessionId ∧ frame.metadata.targetId = row.targetId

/-- The row says what the sealed file says. -/
structure SegmentRegistration.Matches (crc : Crc32) (file : SegmentFile) (registration : SegmentRegistration) : Prop where
  isSealed : file.extension = .sealed
  segmentId : file.segmentId = registration.segmentId
  fileBytes : registration.fileBytes = file.bytes.length
  header : ∃ header, SegmentHeader.decode crc (file.bytes.take segmentHeaderLen) = .ok header ∧
    header.segmentId = registration.segmentId ∧ header.sessionId = registration.sessionId ∧
    header.targetId = registration.targetId ∧ header.startSessionTime = registration.startTime
  footer : ∃ footer, SealedFooter.decode crc (file.bytes.drop (file.bytes.length - sealedFooterLen)) = .ok footer ∧
    footer.segmentId = registration.segmentId ∧ footer.recordCount.toNat = registration.recordCount ∧
    footer.totalPayload.toNat = registration.payloadBytes ∧ some footer.lastSessionTime = registration.endTime

/-- The index and the files agree. -/
structure Agreement (crc : Crc32) (root : RecordingRoot) : Prop where
  frames : ∀ row ∈ root.index.frames, ∃ file ∈ root.directory, row.Reads crc file
  segments : ∀ row ∈ root.index.segments, ∃ file ∈ root.directory, row.registration.Matches crc file
  /-- A record has its row, unless its frame has a row in another place. -/
  indexed : ∀ file analysis, root.directory.Recovers crc file analysis → ∀ record ∈ analysis.records,
    (∃ row ∈ root.index.frames, row.Of file.segmentId record) ∨
      ∃ row ∈ root.index.frames, row.frameId = record.frame.metadata.id ∧
        ¬(row.segmentId = file.segmentId ∧ row.byteOffset = record.span.byteOffset)
  usage : root.index.UsageExact

section

variable {crc : Crc32} {now : SegmentId → Int} {root root' : RecordingRoot} {report : RecoveryReport}
  {file f : SegmentFile} {analysis : Analysis} {footer : SealedFooter}

theorem decode_settledFooter (h : analyzeFile crc file = .ok analysis) (footer : SealedFooter) :
    (analysis.settledBytes crc file.bytes).length = analysis.recordEnd + sealedFooterLen ∧
      (SealedFooter.decode crc ((analysis.settledBytes crc file.bytes).drop analysis.recordEnd) = .ok footer ↔
        analysis.footer = footer ∧ analysis.footer.Ordered) := by
  have hanalyzed := analyzed_of_analyzeFile h
  have hfits : analysis.recordEnd ≤ file.bytes.length :=
    hanalyzed.recordEnd ▸ hanalyzed.consecutive.le_length hanalyzed.length
  unfold Analysis.settledBytes
  split
  · rename_i hexact
    obtain ⟨-, hlength, hdecode, hordered⟩ := hanalyzed.of_exact hexact
    rw [hdecode, Except.ok.injEq]
    exact ⟨hlength, (and_iff_left hordered).symm⟩
  · have htake : (file.bytes.take analysis.recordEnd).length = analysis.recordEnd := by simp [hfits]
    rw [List.drop_left' htake, SealedFooter.decode_encode, SealedFooter.checkTimes_eq_ok]
    exact ⟨by simp [hfits], Iff.rfl⟩

theorem registration_matches_iff (h : analyzeFile crc file = .ok analysis) (hsettled : settledFile crc file = some f) :
    analysis.registration.Matches crc f ↔ analysis.footer.Ordered := by
  obtain ⟨hid, hextension, hagain, -⟩ := analyze_settledFile h hsettled
  obtain rfl := Option.some.inj ((settledFile_of_ok h).symm.trans hsettled)
  have hanalyzed := analyzed_of_analyzeFile h
  have hheader := (analyzed_of_analyzeFile hagain).header
  rw [analysis.header_settled] at hheader
  have hlength : (analysis.settledBytes crc file.bytes).length = analysis.recordEnd + sealedFooterLen :=
    (decode_settledFooter h (analysis.footer)).1
  have hdecode := (decode_settledFooter h (analysis.footer)).2
  have hdrop : (analysis.settledBytes crc file.bytes).length - sealedFooterLen = analysis.recordEnd := by omega
  constructor
  · rintro ⟨-, -, -, -, footer, hfooter, -⟩
    rw [hdrop, (decode_settledFooter h footer).2] at hfooter
    exact hfooter.2
  · intro hordered
    obtain ⟨totalPayload, -, htotals⟩ := hanalyzed.totals
    refine ⟨rfl, hanalyzed.segmentId.symm, hlength.symm, ⟨analysis.header, hheader, rfl, rfl, rfl, rfl⟩,
      analysis.footer, ?_, ?_, rfl, rfl, rfl⟩
    · rw [hdrop]
      exact hdecode.2 ⟨rfl, hordered⟩
    · rw [htotals]
      rfl

theorem Outcome.reads (h : Outcome crc root root') {row : FrameRow} (hrow : row ∈ root'.index.frames) :
    ∃ f ∈ root'.directory, row.Reads crc f := by
  obtain ⟨file, analysis, hfile, hid, hagrees⟩ := h.agreeing row hrow
  obtain ⟨f, hf, -, hfid, hsettled, hagain⟩ := h.settledFile_mem hfile
  have hanalyzed := analyzed_of_analyzeFile hagain
  have hoffsets := (analyzed_of_analyzeFile hfile.2.2).consecutive.nodup_offsets
  rw [List.map_map] at hoffsets
  obtain ⟨record, hrecord, -, hoffset, hframe, hsession, htarget⟩ := (agrees_iff hoffsets hid.symm).1 hagrees
  have hread := hanalyzed.readBack record (analysis.records_settled.symm ▸ hrecord)
  rw [hanalyzed.segmentId, hfid, hid, ← hoffset] at hread
  exact ⟨f, hf, (id_settledFile hsettled).2, hfid.trans hid, record.frame, hread, hframe.symm, hsession.symm, htarget.symm⟩

theorem Outcome.indexed_or (h : Outcome crc root root') (hfile : root'.directory.Recovers crc f analysis)
    {record : RecoveredRecord} (hrecord : record ∈ analysis.records)
    (hexists : root'.index.frameExists record.frame.metadata.id = true) :
    (∃ row ∈ root'.index.frames, row.Of f.segmentId record) ∨
      ∃ row ∈ root'.index.frames, row.frameId = record.frame.metadata.id ∧
        ¬(row.segmentId = f.segmentId ∧ row.byteOffset = record.span.byteOffset) := by
  obtain ⟨row, hrow, hid⟩ := SqliteIndex.frameExists_iff.1 hexists
  by_cases hplace : row.segmentId = f.segmentId ∧ row.byteOffset = record.span.byteOffset
  · -- the row is of a record of the file at the same offset, which is this record
    obtain ⟨file, analysis', hfile', hfileId, hagrees⟩ := h.agreeing row hrow
    obtain ⟨g, hg, hpublished, hgid, -, hagain⟩ := h.settledFile_mem hfile'
    obtain rfl := h.uniqueIds g hg f hfile.1 hpublished hfile.2.1 (hgid.trans (hfileId.trans hplace.1))
    obtain rfl := Except.ok.inj (hagain.symm.trans hfile.2.2)
    have hoffsets := (analyzed_of_analyzeFile hfile.2.2).consecutive.nodup_offsets
    rw [List.map_map] at hoffsets
    rw [← analysis'.records_settled] at hagrees
    obtain ⟨record', hrecord', hof⟩ := (agrees_iff hoffsets hplace.1).1 hagrees
    obtain rfl := List.inj_on_of_nodup_map hoffsets hrecord' hrecord (hof.2.1.symm.trans hplace.2)
    exact .inl ⟨row, hrow, hof⟩
  · exact .inr ⟨row, hrow, hid, hplace⟩

/-- A pass brings the index and the files to agree exactly when no recovered times decrease and no row is in the way of
a record. -/
theorem recover_agreement_iff (hstored : root.index.FramesStored) (h : recover crc now root = .ok (root', report)) :
    Agreement crc root' ↔ TimesOrdered crc root.directory ∧ FramesUnblocked crc root := by
  have houtcome := outcome_of_recover hstored h
  constructor
  · intro hagreement
    refine ⟨timesOrdered_iff.2 fun file analysis hfile => ?_, houtcome.indexed_iff.1 fun file frameId hrecords => ?_⟩
    · obtain ⟨f, hf, hpublished, hid, hsettled, -⟩ := houtcome.settledFile_mem hfile
      obtain ⟨row, hrow, hregistration⟩ := houtcome.registered file analysis hfile
      obtain ⟨g, hg, hmatches⟩ := hagreement.segments row hrow
      rw [hregistration] at hmatches
      have hgpublished : g.IsPublished := by rw [SegmentFile.IsPublished, hmatches.isSealed]; decide
      have hgid : g.segmentId = f.segmentId :=
        hmatches.segmentId.trans ((analyzed_of_analyzeFile hfile.2.2).segmentId.trans hid.symm)
      obtain rfl := houtcome.uniqueIds g hg f hf hgpublished hpublished hgid
      exact (registration_matches_iff hfile.2.2 hsettled).1 hmatches
    · obtain ⟨analysis, hfile, record, hrecord, rfl⟩ := hrecords
      obtain ⟨f, hf, hpublished, -, -, hagain⟩ := houtcome.settledFile_mem hfile
      rw [SqliteIndex.frameExists_iff]
      rcases hagreement.indexed f _ ⟨hf, hpublished, hagain⟩ record (analysis.records_settled.symm ▸ hrecord) with
        ⟨row, hrow, hof⟩ | ⟨row, hrow, hid, -⟩
      · exact ⟨row, hrow, hof.2.2.1⟩
      · exact ⟨row, hrow, hid⟩
  · rintro ⟨hordered, hunblocked⟩
    refine ⟨fun row hrow => houtcome.reads hrow, fun row hrow => ?_, fun f analysis' hf record hrecord => ?_, houtcome.usage⟩
    · obtain ⟨file, analysis, hfile, hregistration⟩ := houtcome.rows row hrow
      obtain ⟨f, hf, -, -, hsettled, -⟩ := houtcome.settledFile_mem hfile
      refine ⟨f, hf, ?_⟩
      rw [hregistration, registration_matches_iff hfile.2.2 hsettled]
      exact timesOrdered_iff.1 hordered file analysis hfile
    · obtain ⟨file, analysis, hfile, -, -, hagain, -⟩ := houtcome.origin hf.1 hf.2.1
      obtain rfl := Except.ok.inj (hagain.symm.trans hf.2.2)
      refine houtcome.indexed_or hf hrecord (houtcome.indexed_iff.2 hunblocked file _ ⟨analysis, hfile, record, ?_, rfl⟩)
      rwa [analysis.records_settled] at hrecord

end

theorem recover_agreement_ordered : ∃ root' report,
    recover ieeeCrc32 (fun _ => 0) (rootOf (openFile 1 2)) = .ok (root', report) ∧
      (Agreement ieeeCrc32 root' ↔
        TimesOrdered ieeeCrc32 (rootOf (openFile 1 2)).directory ∧ FramesUnblocked ieeeCrc32 (rootOf (openFile 1 2))) := by
  have hok : (recover ieeeCrc32 (fun _ => 0) (rootOf (openFile 1 2))).isOk = true := by decide +kernel
  cases hrun : recover ieeeCrc32 (fun _ => 0) (rootOf (openFile 1 2)) with
  | error _ => cases hrun ▸ hok
  | ok result => exact ⟨result.1, result.2, rfl, recover_agreement_iff (framesStored_rootOf _) hrun⟩

/-- A file of the root ends in a footer. -/
def hasFooter (root : RecordingRoot) : Bool :=
  root.directory.rows.any fun file =>
    (SealedFooter.decode ieeeCrc32 (file.bytes.drop (file.bytes.length - sealedFooterLen))).isOk

/-- The file behind the row of two frames whose session times decrease ends in no footer. -/
theorem decreasing_times_without_footer : ¬∀ (crc : Crc32) (now : SegmentId → Int) (root root' : RecordingRoot)
    (report : RecoveryReport), root.index.FramesStored → recover crc now root = .ok (root', report) →
      Agreement crc root' := by
  intro h
  have hrecovered : (recover ieeeCrc32 (fun _ => 0) (rootOf (openFile 2 1))).map (fun result =>
      (result.1.index.segments.rows.length, hasFooter result.1)) = .ok (1, false) := by
    decide +kernel
  cases hrun : recover ieeeCrc32 (fun _ => 0) (rootOf (openFile 2 1)) with
  | error error =>
    rw [hrun] at hrecovered
    cases hrecovered
  | ok result =>
    rw [hrun] at hrecovered
    obtain ⟨hlength, hfooter⟩ := Prod.mk.inj (Except.ok.inj hrecovered)
    have hagreement := h _ _ _ _ _ (framesStored_rootOf _) hrun
    obtain ⟨row, hrow⟩ := List.exists_mem_of_length_pos (by rw [hlength]; decide)
    obtain ⟨file, hfile, -, -, -, -, footer, hdecode, -⟩ := hagreement.segments row hrow
    have hnone := List.any_eq_false.1 hfooter file hfile
    rw [hdecode] at hnone
    exact hnone rfl

end Krometrail
