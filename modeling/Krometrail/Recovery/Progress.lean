import Krometrail.Recovery.Segment

/-!
# What a pass leaves on disk

A file of a segment is replaced by its recovered file, or leaves the publications when its header is corrupt
(`normalizeFile_spec`, `Directory.replaced_quarantine`).
-/

namespace Krometrail

open Relations

/-- The file that recovery leaves of a published file, if it leaves one. -/
def settledFile (crc : Crc32) (file : SegmentFile) : Option SegmentFile :=
  match analyzeFile crc file with
  | .ok analysis => some ⟨file.segmentId, .sealed, analysis.settledBytes crc file.bytes⟩
  | .error _ => none

section

variable {crc : Crc32} {file settled : SegmentFile} {analysis : Analysis}

theorem settledFile_of_ok (h : analyzeFile crc file = .ok analysis) :
    settledFile crc file = some ⟨file.segmentId, .sealed, analysis.settledBytes crc file.bytes⟩ := by
  rw [settledFile, h]

theorem settledFile_eq_some : settledFile crc file = some settled ↔
    ∃ analysis, analyzeFile crc file = .ok analysis ∧
      (⟨file.segmentId, .sealed, analysis.settledBytes crc file.bytes⟩ : SegmentFile) = settled := by
  unfold settledFile
  cases analyzeFile crc file <;> simp

theorem analyze_settledFile (h : analyzeFile crc file = .ok analysis) (hsettled : settledFile crc file = some settled) :
    settled.segmentId = file.segmentId ∧ settled.extension = .sealed ∧ analyzeFile crc settled = .ok analysis.settled ∧
      settledFile crc settled = some settled := by
  obtain rfl := Option.some.inj ((settledFile_of_ok h).symm.trans hsettled)
  have hagain : analyzeFile crc ⟨file.segmentId, .sealed, analysis.settledBytes crc file.bytes⟩ = .ok analysis.settled :=
    analyzeFile_settled h rfl rfl
  refine ⟨rfl, rfl, hagain, ?_⟩
  rw [settledFile_of_ok hagain]
  exact congrArg some (congrArg (SegmentFile.mk _ _) (settledBytes_settled h))

end

namespace Directory

variable {directory directory' : Directory} {file f : SegmentFile} {files : List SegmentFile}

/-- No two published files are of one segment. -/
def UniqueIds (directory : Directory) : Prop :=
  ∀ f ∈ directory, ∀ g ∈ directory, f.IsPublished → g.IsPublished → f.segmentId = g.segmentId → f = g

@[simp] theorem mem_published : f ∈ directory.published ↔ f ∈ directory ∧ f.IsPublished := by
  simp [published]

theorem discover_eq_ok : directory.discover = .ok files ↔ directory.UniqueIds ∧ directory.published = files := by
  have hnodup : directory.published.Nodup := by
    rw [published, (List.perm_insertionSort _ _).nodup_iff]
    exact (List.Nodup.of_map _ directory.nodup_keys).filter _
  have hunique : (directory.published.map (·.segmentId)).Nodup ↔ directory.UniqueIds := by
    constructor
    · intro h f hf g hg hf' hg' hid
      exact List.inj_on_of_nodup_map h (mem_published.2 ⟨hf, hf'⟩) (mem_published.2 ⟨hg, hg'⟩) hid
    · intro h
      refine hnodup.map_on fun f hf g hg hid => ?_
      obtain ⟨hf, hf'⟩ := mem_published.1 hf
      obtain ⟨hg, hg'⟩ := mem_published.1 hg
      exact h f hf g hg hf' hg' hid
  unfold discover
  split
  · rename_i h
    exact ⟨fun heq => ⟨hunique.1 h, Except.ok.inj heq⟩, fun heq => congrArg Except.ok heq.2⟩
  · rename_i h
    exact ⟨nofun, fun heq => absurd (hunique.2 heq.1) h⟩

/-- The published files, but for the one of a segment that `kept` stands for. -/
def Replaced (segmentId : SegmentId) (kept : Option SegmentFile) (directory directory' : Directory) : Prop :=
  ∀ f : SegmentFile, f.IsPublished → (f ∈ directory' ↔ kept = some f ∨ f ∈ directory ∧ f.segmentId ≠ segmentId)

theorem UniqueIds.name_ne_iff (h : directory.UniqueIds) (hfile : file ∈ directory) (hpublished : file.IsPublished)
    (hf : f ∈ directory) (hf' : f.IsPublished) : f.name ≠ file.name ↔ f.segmentId ≠ file.segmentId := by
  constructor
  · intro hname hid
    exact hname (congrArg SegmentFile.name (h f hf file hfile hf' hpublished hid))
  · intro hid hname
    exact hid (congrArg Prod.fst hname)

theorem replaced_rewrite {recordEnd : Nat} {tail : List UInt8} (h : directory.UniqueIds) (hfile : file ∈ directory)
    (hpublished : file.IsPublished) :
    Replaced file.segmentId (some { file with bytes := file.bytes.take recordEnd ++ tail }) directory
      (directory.rewrite file recordEnd tail) := by
  intro f hf
  rw [rewrite, Relation.mem_upsert, Option.some.injEq, eq_comm]
  refine or_congr_right (and_congr_right fun hmem => ?_)
  have hname := h.name_ne_iff hfile hpublished hmem hf
  exact hname

theorem replaced_self (h : directory.UniqueIds) (hfile : file ∈ directory) (hpublished : file.IsPublished) :
    Replaced file.segmentId (some file) directory directory := by
  intro f hf
  rw [Option.some.injEq]
  constructor
  · intro hmem
    by_cases hid : f.segmentId = file.segmentId
    · exact .inl (h f hmem file hfile hf hpublished hid).symm
    · exact .inr ⟨hmem, hid⟩
  · rintro (rfl | ⟨hmem, -⟩)
    · exact hfile
    · exact hmem

theorem mem_rename {destination : SegmentExtension} (hfile : file ∈ directory) : f ∈ directory.rename file.segmentId
      file.extension destination ↔ f = { file with extension := destination } ∨
        (f ∈ directory ∧ f.name ≠ file.name) ∧ f.name ≠ (file.segmentId, destination) := by
  have hfind : directory.find? (file.segmentId, file.extension) = some file := Relation.find?_eq_some.2 ⟨hfile, rfl⟩
  rw [rename, hfind]
  simp only [Relation.mem_upsert, Relation.mem_delete, decide_eq_false_iff_not]
  rfl

theorem replaced_quarantine (h : directory.UniqueIds) (hfile : file ∈ directory) (hpublished : file.IsPublished) :
    Replaced file.segmentId none directory (quarantine file directory) := by
  intro f hf
  rw [quarantine, mem_rename hfile]
  constructor
  · rintro (rfl | ⟨⟨hmem, hname⟩, -⟩)
    · exact absurd rfl hf
    · exact .inr ⟨hmem, (h.name_ne_iff hfile hpublished hmem hf).1 hname⟩
  · rintro (hnone | ⟨hmem, hid⟩)
    · cases hnone
    · refine .inr ⟨⟨hmem, (h.name_ne_iff hfile hpublished hmem hf).2 hid⟩, fun hname => ?_⟩
      exact hid (congrArg Prod.fst hname)

theorem replaced_seal (h : Replaced file.segmentId (some file) directory directory') (hopen : file.extension = .opened) :
    Replaced file.segmentId (some { file with extension := .sealed }) directory
      (directory'.rename file.segmentId .opened .sealed) := by
  have hpublished : file.IsPublished := by rw [SegmentFile.IsPublished, hopen]; decide
  have hfile : file ∈ directory' := (h file hpublished).2 (.inl rfl)
  intro f hf
  rw [← hopen, mem_rename hfile, Option.some.injEq, eq_comm, h f hf]
  refine or_congr_right ?_
  constructor
  · rintro ⟨⟨hmem | hmem, hname⟩, -⟩
    · exact absurd (congrArg SegmentFile.name (Option.some.inj hmem).symm) hname
    · exact hmem
  · rintro ⟨hmem, hid⟩
    exact ⟨⟨.inr ⟨hmem, hid⟩, fun hname => hid (congrArg Prod.fst hname)⟩, fun hname => hid (congrArg Prod.fst hname)⟩

end Directory

/-- The length of the recovered file is a file length. -/
def Analysis.Fits (analysis : Analysis) : Prop := (checkedAdd analysis.recordEnd sealedFooterLen).isSome

section

variable {crc : Crc32} {file : SegmentFile} {analysis : Analysis} {directory directory' : Directory}
  {normalized : NormalizedSegment}

theorem normalizeFile_spec (h : normalizeFile crc file analysis directory = .ok (directory', normalized))
    (hanalysis : analyzeFile crc file = .ok analysis) (hunique : directory.UniqueIds) (hfile : file ∈ directory)
    (hpublished : file.IsPublished) :
    Directory.Replaced file.segmentId (settledFile crc file) directory directory' ∧
      normalized.registration = analysis.registration ∧ normalized.records = analysis.records ∧ analysis.Fits := by
  simp only [normalizeFile, Results.bind_eq_ok, Results.pure_eq_ok, Prod.mk.injEq, okOr_eq_ok] at h
  obtain ⟨_, hfits, rfl, rfl⟩ := h
  refine ⟨?_, rfl, rfl, Option.isSome_iff_exists.2 ⟨_, hfits⟩⟩
  -- the file after the footer is written, under the name it had
  let written : SegmentFile := { file with bytes := analysis.settledBytes crc file.bytes }
  have hwritten : Directory.Replaced written.segmentId (some written) directory
      (if !analysis.footerIsExact then directory.rewrite file analysis.recordEnd (analysis.footer.encode crc)
        else directory) := by
    cases hexact : analysis.footerIsExact with
    | true =>
      have hbytes : analysis.settledBytes crc file.bytes = file.bytes := by simp [Analysis.settledBytes, hexact]
      simp only [written, hbytes]
      exact Directory.replaced_self hunique hfile hpublished
    | false =>
      have hbytes : analysis.settledBytes crc file.bytes = file.bytes.take analysis.recordEnd ++ analysis.footer.encode crc := by
        simp [Analysis.settledBytes, hexact]
      simp only [written, hbytes]
      exact Directory.replaced_rewrite hunique hfile hpublished
  rw [settledFile_of_ok hanalysis]
  split
  · rename_i hopen
    exact Directory.replaced_seal hwritten hopen
  · rename_i hopen
    have hsealed : file.extension = .sealed := by
      cases hextension : file.extension with
      | opened => exact absurd hextension hopen
      | sealed => rfl
      | quarantined => exact absurd hextension hpublished
    rw [← hsealed]
    exact hwritten

end

end Krometrail

/-!
## What a pass leaves in the index

The loop of `recover` goes through the segments by ascending identifier.  `Progress` says what holds when it has gone
through some of them; in particular which frames have a row then (`frameExists`), the one thing that a segment's turn
takes from the rows of other segments.
-/

namespace Krometrail

open Relations

section

variable {crc : Crc32} {file f : SegmentFile} {directory directory' : Directory} {pass pass' : SealPass}
  {segmentId : SegmentId} {kept : Option SegmentFile}

theorem id_settledFile (h : settledFile crc file = some f) : f.segmentId = file.segmentId ∧ f.extension = .sealed := by
  obtain ⟨analysis, -, rfl⟩ := settledFile_eq_some.1 h
  exact ⟨rfl, rfl⟩

theorem Directory.Replaced.uniqueIds (h : Directory.Replaced segmentId kept directory directory')
    (hkept : ∀ f, kept = some f → f.segmentId = segmentId) (hunique : directory.UniqueIds) : directory'.UniqueIds := by
  intro f hf g hg hf' hg' hid
  rcases (h f hf').1 hf with hf | ⟨hf, hne⟩
  · rcases (h g hg').1 hg with hg | ⟨-, hne⟩
    · exact Option.some.inj (hf.symm.trans hg)
    · exact absurd (hid.symm.trans (hkept f hf)) hne
  · rcases (h g hg').1 hg with hg | ⟨hg, -⟩
    · exact absurd (hid.trans (hkept g hg)) hne
    · exact hunique f hf g hg hf' hg' hid

theorem sealOpen_spec (h : sealOpen crc pass file = .ok pass') (hunique : pass.directory.UniqueIds)
    (hfile : file ∈ pass.directory) (hpublished : file.IsPublished) :
    Directory.Replaced file.segmentId (settledFile crc file) pass.directory pass'.directory := by
  unfold sealOpen at h
  split at h
  · rename_i analysis hanalysis
    simp only [Results.bind_eq_ok, Results.pure_eq_ok] at h
    obtain ⟨⟨_, _⟩, hnormalize, _, -, rfl⟩ := h
    exact (normalizeFile_spec hnormalize hanalysis hunique hfile hpublished).1
  · rename_i hanalysis
    cases h
    have hnone : settledFile crc file = none := by rw [settledFile, hanalysis]
    rw [hnone]
    exact Directory.replaced_quarantine hunique hfile hpublished
  · cases h

/-- After sealing, the published files are the recovered files of those that were open, and those that were sealed. -/
theorem mem_directory_of_seal {report : RecoveryReport} (hunique : directory.UniqueIds)
    (h : (directory.published.filter fun file => file.extension = .opened).foldlM (sealOpen crc)
      ⟨directory, report, [], []⟩ = .ok pass) (hf : f.IsPublished) :
    f ∈ pass.directory ↔ (∃ g ∈ directory, g.extension = .opened ∧ settledFile crc g = some f) ∨
      f ∈ directory ∧ f.extension = .sealed := by
  have hmem : ∀ g, g ∈ directory.published.filter (fun file => file.extension = .opened) ↔
      g ∈ directory ∧ g.extension = .opened := by
    intro g
    rw [List.mem_filter, Directory.mem_published, decide_eq_true_eq, and_assoc]
    exact and_congr_right fun _ => and_iff_right_of_imp fun hopen => by rw [SegmentFile.IsPublished, hopen]; decide
  have hids : ((directory.published.filter fun file => file.extension = .opened).map (·.segmentId)).Nodup := by
    refine List.Nodup.sublist (List.filter_sublist.map _) ?_
    have hok : directory.discover = .ok directory.published := Directory.discover_eq_ok.2 ⟨hunique, rfl⟩
    unfold Directory.discover at hok
    split at hok
    · assumption
    · cases hok
  suffices H : pass.directory.UniqueIds ∧ ∀ f : SegmentFile, f.IsPublished →
      (f ∈ pass.directory ↔
        (∃ g ∈ directory.published.filter (fun file => file.extension = .opened), settledFile crc g = some f) ∨
          f ∈ directory ∧ ∀ g ∈ directory.published.filter (fun file => file.extension = .opened),
            f.segmentId ≠ g.segmentId) by
    rw [H.2 f hf]
    refine or_congr ?_ (and_congr_right fun hfmem => ?_)
    · simp only [hmem, and_assoc]
    · constructor
      · intro hall
        cases hextension : f.extension with
        | opened => exact absurd rfl (hall f ((hmem f).2 ⟨hfmem, hextension⟩))
        | sealed => rfl
        | quarantined => exact absurd hextension hf
      · rintro hsealed g hg hid
        obtain ⟨hg, hopen⟩ := (hmem g).1 hg
        obtain rfl := hunique f hfmem g hg hf (by rw [SegmentFile.IsPublished, hopen]; decide) hid
        cases hsealed.symm.trans hopen
  refine Results.foldlM_prefix (P := fun before pass => pass.directory.UniqueIds ∧ ∀ f : SegmentFile, f.IsPublished →
    (f ∈ pass.directory ↔ (∃ g ∈ before, settledFile crc g = some f) ∨
      f ∈ directory ∧ ∀ g ∈ before, f.segmentId ≠ g.segmentId)) ?_ ⟨hunique, by simp⟩ h
  rintro before file after pass₁ pass₂ hsplit ⟨hunique₁, hfiles⟩ hstep
  obtain ⟨hfile, hopen⟩ := (hmem file).1 (by rw [hsplit]; simp)
  have hpublished : file.IsPublished := by rw [SegmentFile.IsPublished, hopen]; decide
  have hfresh : ∀ g ∈ before, file.segmentId ≠ g.segmentId := by
    intro g hg hid
    rw [hsplit, List.map_append, List.map_cons] at hids
    exact (List.nodup_append.1 hids).2.2 _ (List.mem_map_of_mem hg) _ (List.mem_cons_self) hid.symm
  have hreplaced := sealOpen_spec hstep hunique₁ ((hfiles file hpublished).2 (.inr ⟨hfile, hfresh⟩)) hpublished
  refine ⟨hreplaced.uniqueIds (fun f hf => (id_settledFile hf).1) hunique₁, fun f hf => ?_⟩
  rw [hreplaced f hf, hfiles f hf]
  constructor
  · rintro (hsettled | ⟨⟨g, hg, hsettled⟩ | ⟨hmem, hall⟩, hne⟩)
    · exact .inl ⟨file, by simp, hsettled⟩
    · exact .inl ⟨g, by simp [hg], hsettled⟩
    · refine .inr ⟨hmem, fun g hg => ?_⟩
      rcases List.mem_append.1 hg with hg | hg
      · exact hall g hg
      · rwa [List.mem_singleton.1 hg]
  · rintro (⟨g, hg, hsettled⟩ | ⟨hmem, hall⟩)
    · rcases List.mem_append.1 hg with hg | hg
      · refine .inr ⟨.inl ⟨g, hg, hsettled⟩, ?_⟩
        rw [(id_settledFile hsettled).1]
        exact (hfresh g hg).symm
      · rw [List.mem_singleton.1 hg] at hsettled
        exact .inl hsettled
    · exact .inr ⟨.inr ⟨hmem, fun g hg => hall g (by simp [hg])⟩, hall file (by simp)⟩

end

def Survey.recovered (crc : Crc32) (survey : Survey) (segmentId : SegmentId) : Option Analysis :=
  (survey.file segmentId).bind fun file => (analyzeFile crc file).toOption

/-- A segment has been gone through: its rows are those of what is recovered of it. -/
structure Visited (recovered : Option Analysis) (segmentId : SegmentId) (index index' : SqliteIndex) : Prop where
  elsewhere : SqliteIndex.SameElsewhere segmentId index index'
  agreeing : ∀ row ∈ index'.frames, row.segmentId = segmentId → ∃ analysis ∈ recovered, row.agrees analysis.records = true
  indexed : ∀ analysis ∈ recovered, ∀ record ∈ analysis.records, index'.frameExists record.frame.metadata.id = true
  registered : ∀ analysis ∈ recovered, index'.Registered analysis.registration
  rows : ∀ row ∈ index'.segments, row.registration.segmentId = segmentId →
    ∃ analysis ∈ recovered, row.registration = analysis.registration
  segments : ∀ row : SegmentRow, row.registration.segmentId ≠ segmentId → (row ∈ index'.segments ↔ row ∈ index.segments)
  fits : ∀ analysis ∈ recovered, analysis.Fits

section

variable {crc : Crc32} {now : Int} {survey : Survey} {segmentId : SegmentId} {root root' : RecordingRoot}
  {report report' : RecoveryReport} {index : SqliteIndex} {file : SegmentFile} {analysis : Analysis}

theorem visited_removeIndexSegment : Visited none segmentId index (index.removeIndexSegment segmentId).1 := by
  have hframes : ∀ row, row ∈ (index.removeIndexSegment segmentId).1.frames ↔ row ∈ index.frames ∧ row.segmentId ≠ segmentId := by
    intro row
    change row ∈ ((index.removeFrameRows segmentId none).1.removeSegment segmentId).frames ↔ _
    rw [SqliteIndex.frames_removeSegment, SqliteIndex.mem_frames_removeFrameRows]
    simp
  have hsegments : ∀ row, row ∈ (index.removeIndexSegment segmentId).1.segments ↔
      row ∈ index.segments ∧ row.registration.segmentId ≠ segmentId := by
    intro row
    change row ∈ ((index.removeFrameRows segmentId none).1.removeSegment segmentId).segments ↔ _
    rw [SqliteIndex.mem_segments_removeSegment, SqliteIndex.segments_removeFrameRows]
  refine ⟨fun row hrow => by simp [hframes, hrow], fun row hrow hid => ?_, nofun, nofun, fun row hrow hid => ?_,
    fun row hrow => by simp [hsegments, hrow], nofun⟩
  · exact absurd hid ((hframes row).1 hrow).2
  · exact absurd hid ((hsegments row).1 hrow).2

theorem toOption_ok {ε α : Type} {a : α} : (Except.ok a : Except ε α).toOption = some a := rfl

theorem reconcileId_spec (h : reconcileId crc now survey segmentId root report = .ok (root', report'))
    (hunique : root.directory.UniqueIds)
    (hfile : ∀ file, survey.file segmentId = some file →
      file ∈ root.directory ∧ file.IsPublished ∧ file.segmentId = segmentId)
    (hnone : survey.file segmentId = none → ∀ f ∈ root.directory, f.IsPublished → f.segmentId ≠ segmentId)
    (hstored : survey.registration segmentId = (root.index.segments.find? segmentId).map (·.registration)) :
    Directory.Replaced segmentId ((survey.file segmentId).bind (settledFile crc)) root.directory root'.directory ∧
      Visited (survey.recovered crc segmentId) segmentId root.index root'.index := by
  unfold reconcileId at h
  unfold Survey.recovered
  cases hfound : survey.file segmentId with
  | none =>
    rw [hfound] at h
    obtain ⟨rfl, -⟩ := Prod.mk.inj (Except.ok.inj h)
    refine ⟨fun f hf => ?_, visited_removeIndexSegment⟩
    constructor
    · exact fun hmem => .inr ⟨hmem, hnone hfound f hmem hf⟩
    · rintro (hkept | ⟨hmem, -⟩)
      · cases hkept
      · exact hmem
  | some file =>
    rw [hfound] at h
    obtain ⟨hmem, hpublished, rfl⟩ := hfile file hfound
    cases hanalysis : analyzeFile crc file with
    | error error =>
      simp only [hanalysis] at h
      cases error with
      | operational _ => cases h
      | corruptHeader =>
        obtain ⟨rfl, -⟩ := Prod.mk.inj (Except.ok.inj h)
        have hnone : settledFile crc file = none := by rw [settledFile, hanalysis]
        rw [Option.bind_some, Option.bind_some, hnone, hanalysis]
        exact ⟨Directory.replaced_quarantine hunique hmem hpublished, visited_removeIndexSegment⟩
    | ok analysis =>
      simp only [hanalysis, Results.bind_eq_ok, Results.pure_eq_ok, Prod.mk.injEq] at h
      obtain ⟨⟨directory, normalized⟩, hnormalize, _, -, ⟨index', _⟩, hreconcile, rfl, -⟩ := h
      obtain ⟨hreplaced, hregistration, hrecords, hfits⟩ := normalizeFile_spec hnormalize hanalysis hunique hmem hpublished
      have hanalyzed := analyzed_of_analyzeFile hanalysis
      have hid : normalized.registration.segmentId = file.segmentId := by
        rw [hregistration]
        exact hanalyzed.segmentId
      have hspec := SqliteIndex.reconcileSegment_spec (by
        have hoffsets := hanalyzed.consecutive.nodup_offsets
        rw [List.map_map] at hoffsets
        dsimp only
        rw [hrecords]
        exact hoffsets) (by
        dsimp only
        rw [hid, hstored]) hreconcile
      dsimp only at hspec hid
      rw [Option.bind_some, Option.bind_some, hanalysis, toOption_ok]
      refine ⟨hreplaced, ?_, ?_, ?_, ?_, ?_, ?_, ?_⟩
      · exact hid ▸ hspec.elsewhere
      · intro row hrow hrowid
        refine ⟨analysis, rfl, ?_⟩
        have := hspec.agreeing row hrow (hrowid.trans hid.symm)
        rwa [hrecords] at this
      · rintro _ ⟨⟩ record hrecord
        exact hspec.indexed record (hrecords ▸ hrecord)
      · rintro _ ⟨⟩
        exact hregistration ▸ hspec.registered
      · intro row hrow hrowid
        obtain ⟨row', hrow', hregistered⟩ := hspec.registered
        have hsame : row = row' := by
          refine Relation.eq_of_key hrow hrow' ?_
          rw [hrowid, hregistered]
          exact hid.symm
        exact ⟨analysis, rfl, hsame ▸ hregistered.trans hregistration⟩
      · exact hid ▸ hspec.segments
      · rintro _ ⟨⟩
        exact hfits

end

/-! ### The loop -/

/-- What the survey says of the directory and the index that the loop begins with. -/
structure Surveyed (survey : Survey) (directory : Directory) (index : SqliteIndex) : Prop where
  uniqueIds : directory.UniqueIds
  disk : ∀ f, f ∈ survey.disk ↔ f ∈ directory ∧ f.IsPublished
  stored : survey.stored = index.segments.rows

/-- A record of the frame is recovered of the segment. -/
def Survey.Records (crc : Crc32) (survey : Survey) (segmentId : SegmentId) (frameId : FrameId) : Prop :=
  ∃ analysis ∈ survey.recovered crc segmentId, ∃ record ∈ analysis.records, record.frame.metadata.id = frameId

/-- The loop has gone through the segments `before`. -/
structure Progress (crc : Crc32) (survey : Survey) (directory : Directory) (index : SqliteIndex) (before : List SegmentId)
    (root : RecordingRoot) : Prop where
  uniqueIds : root.directory.UniqueIds
  files : ∀ f : SegmentFile, f.IsPublished → (f ∈ root.directory ↔
    (∃ segmentId ∈ before, (survey.file segmentId).bind (settledFile crc) = some f) ∨
      f ∈ directory ∧ f.segmentId ∉ before)
  segments : ∀ row : SegmentRow, row.registration.segmentId ∉ before → (row ∈ root.index.segments ↔ row ∈ index.segments)
  rows : ∀ row ∈ root.index.segments, row.registration.segmentId ∈ before →
    ∃ analysis ∈ survey.recovered crc row.registration.segmentId, row.registration = analysis.registration
  registered : ∀ segmentId ∈ before, ∀ analysis ∈ survey.recovered crc segmentId,
    root.index.Registered analysis.registration
  fits : ∀ segmentId ∈ before, ∀ analysis ∈ survey.recovered crc segmentId, analysis.Fits
  waiting : ∀ row : FrameRow, row.segmentId ∉ before → (row ∈ root.index.frames ↔ row ∈ index.frames)
  agreeing : ∀ row ∈ root.index.frames, row.segmentId ∈ before →
    ∃ analysis ∈ survey.recovered crc row.segmentId, row.agrees analysis.records = true
  /-- A frame has a row while the row that it had at first waits for its turn, and behind that turn as soon as a segment
  that holds a record of it has had its own. -/
  frameExists : ∀ frameId, root.index.frameExists frameId = true ↔
    (∃ row ∈ index.frames, row.frameId = frameId ∧ row.segmentId ∉ before) ∨
      ∃ segmentId ∈ before, survey.Records crc segmentId frameId ∧
        ∀ row ∈ index.frames, row.frameId = frameId → row.segmentId ≤ segmentId

section

variable {crc : Crc32} {now : SegmentId → Int} {survey : Survey} {directory : Directory} {index : SqliteIndex}
  {before after : List SegmentId} {segmentId : SegmentId} {root root' : RecordingRoot} {report report' : RecoveryReport}
  {file : SegmentFile}

theorem mem_segmentIds : segmentId ∈ survey.segmentIds ↔ (∃ file ∈ survey.disk, file.segmentId = segmentId) ∨
    (∃ row ∈ survey.stored, row.registration.segmentId = segmentId) ∨ segmentId ∈ survey.quarantined := by
  rw [Survey.segmentIds, List.mem_insertionSort, List.mem_dedup, List.mem_append, List.mem_append, List.mem_map,
    List.mem_map, or_assoc]

theorem pairwise_segmentIds (survey : Survey) : survey.segmentIds.Pairwise (· < ·) := by
  have hle : survey.segmentIds.Pairwise (· ≤ ·) := List.pairwise_insertionSort _ _
  have hne : survey.segmentIds.Pairwise (· ≠ ·) := by
    rw [Survey.segmentIds]
    exact (List.perm_insertionSort _ _).nodup_iff.2 (List.nodup_dedup _)
  exact hle.imp₂ (fun _ _ hle hne => lt_of_le_of_ne hle hne) hne

theorem Surveyed.file_eq_some (h : Surveyed survey directory index) :
    survey.file segmentId = some file ↔ file ∈ directory ∧ file.IsPublished ∧ file.segmentId = segmentId := by
  constructor
  · intro hfind
    have hmem := List.mem_of_find?_eq_some hfind
    obtain ⟨hfile, hpublished⟩ := (h.disk file).1 hmem
    exact ⟨hfile, hpublished, by simpa using List.find?_some hfind⟩
  · rintro ⟨hfile, hpublished, rfl⟩
    cases hfind : survey.file file.segmentId with
    | none =>
      have := List.find?_eq_none.1 hfind file ((h.disk file).2 ⟨hfile, hpublished⟩)
      simp at this
    | some file' =>
      obtain ⟨hfile', hpublished'⟩ := (h.disk file').1 (List.mem_of_find?_eq_some hfind)
      have hid : file'.segmentId = file.segmentId := by simpa using List.find?_some hfind
      rw [h.uniqueIds file' hfile' file hfile hpublished' hpublished hid]

theorem Progress.start (h : directory.UniqueIds) : Progress crc survey directory index [] ⟨directory, index⟩ where
  uniqueIds := h
  files := by simp
  segments := by simp
  rows := by simp
  registered := by simp
  fits := by simp
  waiting := by simp
  agreeing := by simp
  frameExists := by simp [SqliteIndex.frameExists_iff]

theorem Progress.frameExists_step (h : Progress crc survey directory index before root) {index' : SqliteIndex}
    (hvisited : Visited (survey.recovered crc segmentId) segmentId root.index index')
    (hoffsets : ∀ analysis ∈ survey.recovered crc segmentId, (analysis.records.map (·.span.byteOffset)).Nodup)
    (hlt : ∀ segmentId' ∈ before, segmentId' < segmentId) (frameId : FrameId) : index'.frameExists frameId = true ↔
    (∃ row ∈ index.frames, row.frameId = frameId ∧ row.segmentId ∉ before ++ [segmentId]) ∨
      ∃ segmentId' ∈ before ++ [segmentId], survey.Records crc segmentId' frameId ∧
        ∀ row ∈ index.frames, row.frameId = frameId → row.segmentId ≤ segmentId' := by
  have hnot : ∀ {segmentId'}, segmentId' ∉ before ++ [segmentId] ↔ segmentId' ∉ before ∧ segmentId' ≠ segmentId := by
    simp
  rw [SqliteIndex.frameExists_iff]
  constructor
  · rintro ⟨row, hrow, rfl⟩
    by_cases hid : row.segmentId = segmentId
    · obtain ⟨analysis, hanalysis, hagrees⟩ := hvisited.agreeing row hrow hid
      obtain ⟨record, hrecord, hof⟩ := (agrees_iff (hoffsets analysis hanalysis) hid).1 hagrees
      by_cases hall : ∀ row' ∈ index.frames, row'.frameId = row.frameId → row'.segmentId ≤ segmentId
      · exact .inr ⟨segmentId, by simp, ⟨analysis, hanalysis, record, hrecord, hof.2.2.1.symm⟩, hall⟩
      · push Not at hall
        obtain ⟨row', hrow', hframe, hbehind⟩ := hall
        refine .inl ⟨row', hrow', hframe, hnot.2 ⟨fun hbefore => ?_, hbehind.ne'⟩⟩
        exact lt_asymm hbehind (hlt _ hbefore)
    · have hmem := (hvisited.elsewhere row hid).1 hrow
      rcases (h.frameExists row.frameId).1 (SqliteIndex.frameExists_iff.2 ⟨row, hmem, rfl⟩) with
        ⟨row', hrow', hframe, hwaits⟩ | ⟨segmentId', hbefore, hrecords, hall⟩
      · obtain rfl := Relation.eq_of_key ((h.waiting row' hwaits).2 hrow') hmem hframe
        exact .inl ⟨row', hrow', rfl, hnot.2 ⟨hwaits, hid⟩⟩
      · exact .inr ⟨segmentId', List.mem_append_left _ hbefore, hrecords, hall⟩
  · rintro (⟨row, hrow, rfl, hwaits⟩ | ⟨segmentId', hmem, hrecords, hall⟩)
    · obtain ⟨hwaits, hid⟩ := hnot.1 hwaits
      exact ⟨row, (hvisited.elsewhere row hid).2 ((h.waiting row hwaits).2 hrow), rfl⟩
    · rcases List.mem_append.1 hmem with hbefore | hself
      · obtain ⟨row, hrow, rfl⟩ := SqliteIndex.frameExists_iff.1
          ((h.frameExists frameId).2 (.inr ⟨segmentId', hbefore, hrecords, hall⟩))
        refine ⟨row, (hvisited.elsewhere row fun hid => ?_).2 hrow, rfl⟩
        have hfresh : row.segmentId ∉ before := fun hbefore => absurd (hlt _ hbefore) (hid ▸ lt_irrefl _)
        have hle := hall row ((h.waiting row hfresh).1 hrow) rfl
        exact absurd (hlt segmentId' hbefore) (not_lt.2 (hid ▸ hle))
      · obtain rfl := List.mem_singleton.1 hself
        obtain ⟨analysis, hanalysis, record, hrecord, rfl⟩ := hrecords
        exact SqliteIndex.frameExists_iff.1 (hvisited.indexed analysis hanalysis record hrecord)

theorem recovered_offsets {analysis : Analysis} (h : analysis ∈ survey.recovered crc segmentId) :
    (analysis.records.map (·.span.byteOffset)).Nodup := by
  obtain ⟨file, -, hanalysis⟩ := Option.bind_eq_some_iff.1 h
  cases hresult : analyzeFile crc file with
  | error _ =>
    rw [hresult] at hanalysis
    cases hanalysis
  | ok analysis' =>
    rw [hresult] at hanalysis
    cases hanalysis
    have hoffsets := (analyzed_of_analyzeFile hresult).consecutive.nodup_offsets
    rwa [List.map_map] at hoffsets

theorem Progress.step (h : Progress crc survey directory index before root) (hsurvey : Surveyed survey directory index)
    (hlt : ∀ segmentId' ∈ before, segmentId' < segmentId)
    (hrun : reconcileId crc (now segmentId) survey segmentId root report = .ok (root', report')) :
    Progress crc survey directory index (before ++ [segmentId]) root' := by
  have hfresh : segmentId ∉ before := fun hmem => lt_irrefl _ (hlt _ hmem)
  have hnot : ∀ {segmentId'}, segmentId' ∉ before ++ [segmentId] ↔ segmentId' ∉ before ∧ segmentId' ≠ segmentId := by
    simp
  have hfind : index.segments.find? segmentId = root.index.segments.find? segmentId :=
    Relation.find?_congr fun row hrow => (h.segments row (hrow ▸ hfresh)).symm
  obtain ⟨hreplaced, hvisited⟩ := reconcileId_spec hrun h.uniqueIds
    (by
      intro file hfile
      obtain ⟨hmem, hpublished, rfl⟩ := hsurvey.file_eq_some.1 hfile
      exact ⟨(h.files file hpublished).2 (.inr ⟨hmem, hfresh⟩), hpublished, rfl⟩)
    (by
      rintro hnone f hf hpublished rfl
      rcases (h.files f hpublished).1 hf with ⟨segmentId', hbefore, hsettled⟩ | ⟨hmem, -⟩
      · obtain ⟨file, hfile, hsettled⟩ := Option.bind_eq_some_iff.1 hsettled
        have hid := (id_settledFile hsettled).1.trans (hsurvey.file_eq_some.1 hfile).2.2
        exact hfresh (hid ▸ hbefore)
      · exact absurd ((hsurvey.file_eq_some.2 ⟨hmem, hpublished, rfl⟩).symm.trans hnone) nofun)
    (by rw [← hfind, Survey.registration, hsurvey.stored]; rfl)
  have hkept : ∀ f, (survey.file segmentId).bind (settledFile crc) = some f → f.segmentId = segmentId := by
    intro f hf
    obtain ⟨file, hfile, hsettled⟩ := Option.bind_eq_some_iff.1 hf
    exact (id_settledFile hsettled).1.trans (hsurvey.file_eq_some.1 hfile).2.2
  refine ⟨hreplaced.uniqueIds hkept h.uniqueIds, ?_, ?_, ?_, ?_, ?_, ?_, ?_,
    h.frameExists_step hvisited (fun analysis => recovered_offsets) hlt⟩
  · intro f hf
    rw [hreplaced f hf, h.files f hf, hnot]
    constructor
    · rintro (hsettled | ⟨⟨segmentId', hbefore, hsettled⟩ | ⟨hmem, hwaits⟩, hne⟩)
      · exact .inl ⟨segmentId, by simp, hsettled⟩
      · exact .inl ⟨segmentId', by simp [hbefore], hsettled⟩
      · exact .inr ⟨hmem, hwaits, hne⟩
    · rintro (⟨segmentId', hmem, hsettled⟩ | ⟨hmem, hwaits, hne⟩)
      · rcases List.mem_append.1 hmem with hbefore | hself
        · refine .inr ⟨.inl ⟨segmentId', hbefore, hsettled⟩, ?_⟩
          obtain ⟨file, hfile, hsettled⟩ := Option.bind_eq_some_iff.1 hsettled
          rw [(id_settledFile hsettled).1, (hsurvey.file_eq_some.1 hfile).2.2]
          exact (hlt segmentId' hbefore).ne
        · obtain rfl := List.mem_singleton.1 hself
          exact .inl hsettled
      · exact .inr ⟨.inr ⟨hmem, hwaits⟩, hne⟩
  · intro row hrow
    obtain ⟨hwaits, hne⟩ := hnot.1 hrow
    rw [hvisited.segments row hne, h.segments row hwaits]
  · intro row hrow hmem
    by_cases hid : row.registration.segmentId = segmentId
    · rw [hid]
      exact hvisited.rows row hrow hid
    · have hbefore : row.registration.segmentId ∈ before := by simpa [hid] using hmem
      exact h.rows row ((hvisited.segments row hid).1 hrow) hbefore
  · intro segmentId' hmem analysis hanalysis
    rcases List.mem_append.1 hmem with hbefore | hself
    · obtain ⟨row, hrow, hregistration⟩ := h.registered segmentId' hbefore analysis hanalysis
      refine ⟨row, (hvisited.segments row ?_).2 hrow, hregistration⟩
      obtain ⟨file, hfile, hresult⟩ := Option.bind_eq_some_iff.1 hanalysis
      cases hok : analyzeFile crc file with
      | error _ =>
        rw [hok] at hresult
        cases hresult
      | ok analysis' =>
        rw [hok] at hresult
        cases hresult
        have hid : row.registration.segmentId = segmentId' := by
          rw [hregistration, ← (hsurvey.file_eq_some.1 hfile).2.2]
          exact (analyzed_of_analyzeFile hok).segmentId
        rw [hid]
        exact (hlt segmentId' hbefore).ne
    · obtain rfl := List.mem_singleton.1 hself
      exact hvisited.registered analysis hanalysis
  · intro segmentId' hmem analysis hanalysis
    rcases List.mem_append.1 hmem with hbefore | hself
    · exact h.fits segmentId' hbefore analysis hanalysis
    · obtain rfl := List.mem_singleton.1 hself
      exact hvisited.fits analysis hanalysis
  · intro row hrow
    obtain ⟨hwaits, hne⟩ := hnot.1 hrow
    rw [hvisited.elsewhere row hne, h.waiting row hwaits]
  · intro row hrow hmem
    by_cases hid : row.segmentId = segmentId
    · rw [hid]
      exact hvisited.agreeing row hrow hid
    · have hbefore : row.segmentId ∈ before := by simpa [hid] using hmem
      exact h.agreeing row ((hvisited.elsewhere row hid).1 hrow) hbefore

theorem progress_of_foldlM (hsurvey : Surveyed survey directory index)
    (h : survey.segmentIds.foldlM (fun (root, report) segmentId =>
      reconcileId crc (now segmentId) survey segmentId root report) (⟨directory, index⟩, report) = .ok (root', report')) :
    Progress crc survey directory index survey.segmentIds root' := by
  refine Results.foldlM_prefix (P := fun before state => Progress crc survey directory index before state.1) ?_
    (Progress.start hsurvey.uniqueIds) h
  rintro before segmentId after ⟨root₁, _⟩ ⟨root₂, _⟩ hsplit hprogress hstep
  have hsorted := pairwise_segmentIds survey
  rw [hsplit, List.pairwise_append] at hsorted
  exact hprogress.step hsurvey (fun segmentId' hbefore => hsorted.2.2 _ hbefore _ List.mem_cons_self) hstep

end

end Krometrail
