import Krometrail.Recovery.Progress
import Krometrail.Recovery.Usage

/-!
# What a pass that completes leaves

`Outcome` describes the recording root behind a pass by the one before it, and `Settled` is what makes a root that a
pass leaves as it is (`recover_of_settled`).
-/

namespace Krometrail

open Relations Results

/-- The analysis is of a published file of the directory. -/
def Directory.Recovers (crc : Crc32) (directory : Directory) (file : SegmentFile) (analysis : Analysis) : Prop :=
  file ∈ directory ∧ file.IsPublished ∧ analyzeFile crc file = .ok analysis

/-- A record of the frame is recovered from the file. -/
def Directory.Records (crc : Crc32) (directory : Directory) (file : SegmentFile) (frameId : FrameId) : Prop :=
  ∃ analysis, directory.Recovers crc file analysis ∧ ∃ record ∈ analysis.records, record.frame.metadata.id = frameId

/-- A pass has completed. -/
structure Outcome (crc : Crc32) (root root' : RecordingRoot) : Prop where
  discovered : root.directory.UniqueIds
  uniqueIds : root'.directory.UniqueIds
  files : ∀ f : SegmentFile, f.IsPublished → (f ∈ root'.directory ↔
    ∃ file ∈ root.directory, file.IsPublished ∧ settledFile crc file = some f)
  rows : ∀ row ∈ root'.index.segments, ∃ file analysis, root.directory.Recovers crc file analysis ∧
    row.registration = analysis.registration
  registered : ∀ file analysis, root.directory.Recovers crc file analysis → root'.index.Registered analysis.registration
  fits : ∀ file analysis, root.directory.Recovers crc file analysis → analysis.Fits
  agreeing : ∀ row ∈ root'.index.frames, ∃ file analysis, root.directory.Recovers crc file analysis ∧
    file.segmentId = row.segmentId ∧ row.agrees analysis.records = true
  /-- The frames that have a row are those that are recorded in a segment behind which no row of theirs was waiting. -/
  frameExists : ∀ frameId, root'.index.frameExists frameId = true ↔
    ∃ file, root.directory.Records crc file frameId ∧
      ∀ row ∈ root.index.frames, row.frameId = frameId → row.segmentId ≤ file.segmentId
  usage : root'.index.UsageExact

section

variable {crc : Crc32} {file f : SegmentFile} {analysis analysis' : Analysis} {directory sealed : Directory}
  {survey : Survey} {index : SqliteIndex}

/-- Recovering the one file comes to what recovering the other does. -/
structure SameRecovery (crc : Crc32) (file : SegmentFile) (analysis : Analysis) (f : SegmentFile) (analysis' : Analysis) :
    Prop where
  segmentId : f.segmentId = file.segmentId
  registration : analysis'.registration = analysis.registration
  records : analysis'.records = analysis.records
  recordEnd : analysis'.recordEnd = analysis.recordEnd
  settledFile : settledFile crc f = settledFile crc file

theorem SameRecovery.refl (crc : Crc32) (file : SegmentFile) (analysis : Analysis) :
    SameRecovery crc file analysis file analysis := ⟨rfl, rfl, rfl, rfl, rfl⟩

theorem sameRecovery_settled (h : analyzeFile crc file = .ok analysis) (hsettled : settledFile crc file = some f) :
    SameRecovery crc file analysis f analysis.settled := by
  obtain ⟨hid, -, -, hagain⟩ := analyze_settledFile h hsettled
  exact ⟨hid, analysis.registration_settled, analysis.records_settled, analysis.recordEnd_settled,
    hagain.trans hsettled.symm⟩

/-- The published files behind the sealing of the open ones. -/
def SealedFrom (crc : Crc32) (directory sealed : Directory) : Prop :=
  ∀ f : SegmentFile, f.IsPublished → (f ∈ sealed ↔
    (∃ file ∈ directory, file.extension = .opened ∧ settledFile crc file = some f) ∨
      f ∈ directory ∧ f.extension = .sealed)

theorem SealedFrom.back (h : SealedFrom crc directory sealed) (hf : sealed.Recovers crc f analysis') :
    ∃ file analysis, directory.Recovers crc file analysis ∧ SameRecovery crc file analysis f analysis' := by
  obtain ⟨hmem, hpublished, hanalysis⟩ := hf
  rcases (h f hpublished).1 hmem with ⟨file, hfile, hopen, hsettled⟩ | ⟨hfile, hsealed⟩
  · obtain ⟨analysis, hok, -⟩ := settledFile_eq_some.1 hsettled
    obtain rfl := Except.ok.inj ((analyze_settledFile hok hsettled).2.2.1.symm.trans hanalysis)
    exact ⟨file, analysis, ⟨hfile, by rw [SegmentFile.IsPublished, hopen]; decide, hok⟩, sameRecovery_settled hok hsettled⟩
  · exact ⟨f, analysis', ⟨hfile, hpublished, hanalysis⟩, .refl crc f analysis'⟩

theorem SealedFrom.forth (h : SealedFrom crc directory sealed) (hfile : directory.Recovers crc file analysis) :
    ∃ f analysis', sealed.Recovers crc f analysis' ∧ SameRecovery crc file analysis f analysis' := by
  obtain ⟨hmem, hpublished, hanalysis⟩ := hfile
  cases hextension : file.extension with
  | opened =>
    have hsettled := settledFile_of_ok hanalysis
    obtain ⟨-, hsealed, hok, -⟩ := analyze_settledFile hanalysis hsettled
    have hpublished' : SegmentFile.IsPublished ⟨file.segmentId, .sealed, analysis.settledBytes crc file.bytes⟩ := by
      show SegmentExtension.sealed ≠ .quarantined
      decide
    exact ⟨_, _, ⟨(h _ hpublished').2 (.inl ⟨file, hmem, hextension, hsettled⟩), hpublished', hok⟩,
      sameRecovery_settled hanalysis hsettled⟩
  | sealed => exact ⟨file, analysis, ⟨(h file hpublished).2 (.inr ⟨hmem, hextension⟩), hpublished, hanalysis⟩,
      .refl crc file analysis⟩
  | quarantined => exact absurd hextension hpublished

theorem SealedFrom.settledFile_iff (h : SealedFrom crc directory sealed) :
    (∃ file ∈ sealed, file.IsPublished ∧ settledFile crc file = some f) ↔
      ∃ file ∈ directory, file.IsPublished ∧ settledFile crc file = some f := by
  constructor
  · rintro ⟨file, hfile, hpublished, hsettled⟩
    obtain ⟨analysis', hok, -⟩ := settledFile_eq_some.1 hsettled
    obtain ⟨origin, _, ⟨horigin, hpublished', -⟩, hsame⟩ := h.back ⟨hfile, hpublished, hok⟩
    exact ⟨origin, horigin, hpublished', hsame.settledFile.symm.trans hsettled⟩
  · rintro ⟨file, hfile, hpublished, hsettled⟩
    obtain ⟨analysis, hok, -⟩ := settledFile_eq_some.1 hsettled
    obtain ⟨f', _, ⟨hf', hpublished', -⟩, hsame⟩ := h.forth ⟨hfile, hpublished, hok⟩
    exact ⟨f', hf', hpublished', hsame.settledFile.trans hsettled⟩

theorem Surveyed.mem_recovered (h : Surveyed survey sealed index) {segmentId : SegmentId} :
    analysis ∈ survey.recovered crc segmentId ↔ ∃ file, sealed.Recovers crc file analysis ∧ file.segmentId = segmentId := by
  unfold Survey.recovered
  rw [Option.mem_def, Option.bind_eq_some_iff]
  refine exists_congr fun file => ?_
  rw [h.file_eq_some]
  cases hok : analyzeFile crc file with
  | error _ => simp [Directory.Recovers, hok, Except.toOption]
  | ok analysis' =>
    simp only [toOption_ok, Option.some.injEq, Directory.Recovers, hok, Except.ok.injEq]
    tauto

theorem SealedFrom.records_iff (h : SealedFrom crc directory sealed) {frameId : FrameId} (p : SegmentId → Prop) :
    (∃ file, sealed.Records crc file frameId ∧ p file.segmentId) ↔
      ∃ file, directory.Records crc file frameId ∧ p file.segmentId := by
  constructor
  · rintro ⟨f, ⟨analysis', hf, record, hrecord, hid⟩, hp⟩
    obtain ⟨file, analysis, hfile, hsame⟩ := h.back hf
    exact ⟨file, ⟨analysis, hfile, record, hsame.records ▸ hrecord, hid⟩, hsame.segmentId ▸ hp⟩
  · rintro ⟨file, ⟨analysis, hfile, record, hrecord, hid⟩, hp⟩
    obtain ⟨f, analysis', hf, hsame⟩ := h.forth hfile
    exact ⟨f, ⟨analysis', hf, record, hsame.records.symm ▸ hrecord, hid⟩, hsame.segmentId.symm ▸ hp⟩

end

section

variable {crc : Crc32} {now : SegmentId → Int} {root root' : RecordingRoot} {report : RecoveryReport}

theorem outcome_of_recover (hstored : root.index.FramesStored) (h : recover crc now root = .ok (root', report)) :
    Outcome crc root root' := by
  simp only [recover, bind_eq_ok, pure_eq_ok, Prod.mk.injEq] at h
  obtain ⟨initial, hinitial, pass, hseal, disk, hdisk, ⟨root₁, _⟩, hloop, ⟨index', _⟩, husage, rfl, -⟩ := h
  obtain ⟨hunique, rfl⟩ := Directory.discover_eq_ok.1 hinitial
  obtain ⟨hunique', rfl⟩ := Directory.discover_eq_ok.1 hdisk
  have hsealed : SealedFrom crc root.directory pass.directory := fun f hf => mem_directory_of_seal hunique hseal hf
  generalize hsurvey : ({
    disk := pass.directory.published.filter fun file => file.extension = .sealed
    stored := root.index.segments.rows
    quarantined := pass.quarantined
    sealedTailRepairs := pass.sealedTailRepairs } : Survey) = survey at hloop
  -- behind the sealing no published file is open
  have hsurveyed : Surveyed survey pass.directory root.index := by
    refine ⟨hunique', fun f => ?_, by rw [← hsurvey]⟩
    rw [← hsurvey, List.mem_filter, Directory.mem_published, decide_eq_true_eq, and_assoc]
    refine and_congr_right fun hmem => and_iff_left_of_imp fun hpublished => ?_
    rcases (hsealed f hpublished).1 hmem with ⟨file, -, -, hsettled⟩ | ⟨-, hextension⟩
    · exact (id_settledFile hsettled).2
    · exact hextension
  have hprogress := progress_of_foldlM hsurveyed hloop
  have hid : ∀ {f}, f ∈ pass.directory → f.IsPublished → f.segmentId ∈ survey.segmentIds := fun hf hpublished =>
    mem_segmentIds.2 (.inl ⟨_, (hsurveyed.disk _).2 ⟨hf, hpublished⟩, rfl⟩)
  obtain ⟨hsame, hexact⟩ := reconcileUsage_spec husage
  refine ⟨hunique, hprogress.uniqueIds, fun f hf => ?_, fun row hrow => ?_, fun file analysis hfile => ?_, fun file analysis hfile => ?_,
    fun row hrow => ?_, fun frameId => ?_, hexact⟩
  · rw [← hsealed.settledFile_iff, hprogress.files f hf]
    constructor
    · rintro (⟨segmentId, -, hsettled⟩ | ⟨hmem, hnot⟩)
      · obtain ⟨file, hfile, hsettled⟩ := Option.bind_eq_some_iff.1 hsettled
        obtain ⟨hfile, hpublished, -⟩ := hsurveyed.file_eq_some.1 hfile
        exact ⟨file, hfile, hpublished, hsettled⟩
      · exact absurd (hid hmem hf) hnot
    · rintro ⟨file, hfile, hpublished, hsettled⟩
      refine .inl ⟨file.segmentId, hid hfile hpublished, ?_⟩
      rw [hsurveyed.file_eq_some.2 ⟨hfile, hpublished, rfl⟩]
      exact hsettled
  · rw [hsame.segments] at hrow
    by_cases hmem : row.registration.segmentId ∈ survey.segmentIds
    · obtain ⟨analysis', hanalysis, hregistration⟩ := hprogress.rows row hrow hmem
      obtain ⟨f, hf, -⟩ := hsurveyed.mem_recovered.1 hanalysis
      obtain ⟨file, analysis, hfile, hsamefile⟩ := hsealed.back hf
      exact ⟨file, analysis, hfile, hregistration.trans hsamefile.registration⟩
    · refine absurd (mem_segmentIds.2 (.inr (.inl ⟨row, ?_, rfl⟩))) hmem
      rw [hsurveyed.stored]
      exact (hprogress.segments row hmem).1 hrow
  · obtain ⟨f, analysis', hf, hsamefile⟩ := hsealed.forth hfile
    obtain ⟨row, hrow, hregistration⟩ := hprogress.registered f.segmentId (hid hf.1 hf.2.1) analysis'
      (hsurveyed.mem_recovered.2 ⟨f, hf, rfl⟩)
    exact ⟨row, hsame.segments ▸ hrow, hregistration.trans hsamefile.registration⟩
  · obtain ⟨f, analysis', hf, hsamefile⟩ := hsealed.forth hfile
    have hfits := hprogress.fits f.segmentId (hid hf.1 hf.2.1) analysis' (hsurveyed.mem_recovered.2 ⟨f, hf, rfl⟩)
    rwa [Analysis.Fits, hsamefile.recordEnd] at hfits
  · rw [hsame.frames] at hrow
    by_cases hmem : row.segmentId ∈ survey.segmentIds
    · obtain ⟨analysis', hanalysis, hagrees⟩ := hprogress.agreeing row hrow hmem
      obtain ⟨f, hf, hfid⟩ := hsurveyed.mem_recovered.1 hanalysis
      obtain ⟨file, analysis, hfile, hsamefile⟩ := hsealed.back hf
      exact ⟨file, analysis, hfile, hsamefile.segmentId.symm.trans hfid, hsamefile.records ▸ hagrees⟩
    · obtain ⟨segment, hsegment, hsegmentId⟩ := hstored row ((hprogress.waiting row hmem).1 hrow)
      refine absurd (mem_segmentIds.2 (.inr (.inl ⟨segment, ?_, hsegmentId⟩))) hmem
      rw [hsurveyed.stored]
      exact hsegment
  · have hexists : index'.frameExists frameId = root₁.index.frameExists frameId := by
      rw [SqliteIndex.frameExists, SqliteIndex.frameExists, hsame.frames]
    rw [hexists, hprogress.frameExists frameId, ← hsealed.records_iff fun segmentId =>
      ∀ row ∈ root.index.frames, row.frameId = frameId → row.segmentId ≤ segmentId]
    constructor
    · rintro (⟨row, hrow, -, hnot⟩ | ⟨segmentId, -, ⟨analysis', hanalysis, hrecord⟩, hall⟩)
      · obtain ⟨segment, hsegment, hsegmentId⟩ := hstored row hrow
        refine absurd (mem_segmentIds.2 (.inr (.inl ⟨segment, ?_, hsegmentId⟩))) hnot
        rw [hsurveyed.stored]
        exact hsegment
      · obtain ⟨f, hf, rfl⟩ := hsurveyed.mem_recovered.1 hanalysis
        exact ⟨f, ⟨analysis', hf, hrecord⟩, hall⟩
    · rintro ⟨f, ⟨analysis', hf, hrecord⟩, hall⟩
      exact .inr ⟨f.segmentId, hid hf.1 hf.2.1, ⟨analysis', hsurveyed.mem_recovered.2 ⟨f, hf, rfl⟩, hrecord⟩, hall⟩

theorem Outcome.framesStored (h : Outcome crc root root') : root'.index.FramesStored := by
  intro row hrow
  obtain ⟨file, analysis, hfile, hid, -⟩ := h.agreeing row hrow
  obtain ⟨segment, hsegment, hregistration⟩ := h.registered file analysis hfile
  refine ⟨segment, hsegment, ?_⟩
  rw [hregistration, ← hid]
  exact (analyzed_of_analyzeFile hfile.2.2).segmentId

end

/-- A published file is as recovery would leave it, and the index says the same of it. -/
structure SettledFile (crc : Crc32) (index : SqliteIndex) (file : SegmentFile) (analysis : Analysis) : Prop where
  isSealed : file.extension = .sealed
  ok : analyzeFile crc file = .ok analysis
  exact : analysis.footerIsExact = true
  fits : analysis.Fits
  registered : index.Registered analysis.registration
  agreeing : ∀ row ∈ index.frames, row.segmentId = file.segmentId → row.agrees analysis.records = true
  indexed : ∀ record ∈ analysis.records, index.frameExists record.frame.metadata.id = true

/-- A recording root that a pass leaves as it is. -/
structure Settled (crc : Crc32) (root : RecordingRoot) : Prop where
  uniqueIds : root.directory.UniqueIds
  files : ∀ file ∈ root.directory, file.IsPublished → ∃ analysis, SettledFile crc root.index file analysis
  segments : ∀ row ∈ root.index.segments, ∃ file ∈ root.directory, file.IsPublished ∧
    file.segmentId = row.registration.segmentId
  usage : root.index.UsageExact

section

variable {crc : Crc32} {now : SegmentId → Int} {root : RecordingRoot} {survey : Survey} {segmentId : SegmentId}

theorem reconcileId_settled (h : Settled crc root) (hdisk : survey.disk = root.directory.published)
    (hstored : survey.stored = root.index.segments.rows) (hrepairs : survey.sealedTailRepairs = [])
    (hquarantined : survey.quarantined = []) (hmem : segmentId ∈ survey.segmentIds) {report : RecoveryReport} {now : Int} :
    reconcileId crc now survey segmentId root report = .ok (root, report) := by
  have hsurveyed : Surveyed survey root.directory root.index := ⟨h.uniqueIds, fun f => by rw [hdisk]; simp, hstored⟩
  obtain ⟨file, hfile, hpublished, rfl⟩ : ∃ file ∈ root.directory, file.IsPublished ∧ file.segmentId = segmentId := by
    rcases mem_segmentIds.1 hmem with ⟨file, hfile, hid⟩ | ⟨row, hrow, hid⟩ | hquarantine
    · obtain ⟨hfile, hpublished⟩ := (hsurveyed.disk file).1 hfile
      exact ⟨file, hfile, hpublished, hid⟩
    · rw [hstored] at hrow
      obtain ⟨file, hfile, hpublished, hid'⟩ := h.segments row hrow
      exact ⟨file, hfile, hpublished, hid'.trans hid⟩
    · exact absurd (hquarantined ▸ hquarantine) List.not_mem_nil
  obtain ⟨analysis, hsettled⟩ := h.files file hfile hpublished
  have hrepairAt : analysis.repairAt = none := ((analyzed_of_analyzeFile hsettled.ok).of_exact hsettled.exact).1
  have hid : analysis.registration.segmentId = file.segmentId := (analyzed_of_analyzeFile hsettled.ok).segmentId
  obtain ⟨fileBytes, hfits⟩ := Option.isSome_iff_exists.1 hsettled.fits
  have hnormalize : normalizeFile crc file analysis root.directory =
      .ok (root.directory, ⟨analysis.registration, analysis.records, false, none, 0⟩) := by
    simp [normalizeFile, hsettled.exact, hsettled.isSealed, hfits, okOr, hrepairAt, pure, Except.pure]
  have hregistration : survey.registration file.segmentId = some analysis.registration := by
    obtain ⟨row, hrow, hregistered⟩ := hsettled.registered
    have hfind : root.index.segments.find? file.segmentId = some row :=
      Relation.find?_eq_some.2 ⟨hrow, by rw [hregistered, hid]⟩
    rw [Survey.registration, hstored]
    exact (congrArg (Option.map _) hfind).trans (congrArg some hregistered)
  have hrepair : survey.repairAt file.segmentId = none := by rw [Survey.repairAt, hrepairs]; rfl
  have hreconcile : root.index.reconcileSegment now (survey.registration file.segmentId)
      ⟨analysis.registration, analysis.records, false, none, 0⟩ report = .ok (root.index, report) := by
    refine SqliteIndex.reconcileSegment_settled hregistration (fun row hrow hrowid => ?_) hsettled.indexed
    exact hsettled.agreeing row hrow (hrowid.trans hid)
  unfold reconcileId
  rw [hsurveyed.file_eq_some.2 ⟨hfile, hpublished, rfl⟩]
  dsimp only
  rw [hsettled.ok]
  dsimp only
  rw [hnormalize, ok_bind]
  dsimp only
  rw [hrepair, Option.or_none, RecoveryReport.addRepair, if_neg Bool.false_ne_true, ok_bind, hreconcile]
  rfl

theorem recover_of_settled (h : Settled crc root) : recover crc now root = .ok (root, {}) := by
  have hdiscover : root.directory.discover = .ok root.directory.published :=
    Directory.discover_eq_ok.2 ⟨h.uniqueIds, rfl⟩
  have hextension : ∀ file ∈ root.directory.published, file.extension = .sealed := by
    intro file hfile
    obtain ⟨hfile, hpublished⟩ := Directory.mem_published.1 hfile
    obtain ⟨analysis, hsettled⟩ := h.files file hfile hpublished
    exact hsettled.isSealed
  have hopen : root.directory.published.filter (fun file => file.extension = .opened) = [] := by
    rw [List.filter_eq_nil_iff]
    intro file hfile
    rw [hextension file hfile]
    decide
  have hsealed : root.directory.published.filter (fun file => file.extension = .sealed) = root.directory.published := by
    rw [List.filter_eq_self]
    intro file hfile
    rw [hextension file hfile]
    decide
  unfold recover
  rw [hdiscover, ok_bind, hopen, List.foldlM_nil]
  simp only [pure, Except.pure, ok_bind, hdiscover, hsealed]
  rw [foldlM_fixed fun segmentId hmem => reconcileId_settled h rfl rfl rfl rfl hmem, ok_bind,
    reconcileUsage_settled h.usage]
  rfl

end

end Krometrail
