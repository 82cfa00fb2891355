import Krometrail.Segments.Writer

/-!
# What the operations of the segment writer do

One lemma for each operation of the worker: what it leaves on the disk and what it answers, whatever its file
operations come to.
-/

namespace Krometrail

open Stateful

namespace Disk

variable {disk disk' disk'' : Disk} {segmentId : SegmentId} {name : SegmentFileName} {bytes : List UInt8}

theorem files_append_self : (disk.append segmentId bytes).files ⟨segmentId, .opened⟩ =
    (disk.files ⟨segmentId, .opened⟩).map (· ++ bytes) := by
  simp [append]

theorem files_append_of_ne (h : name ≠ ⟨segmentId, .opened⟩) :
    (disk.append segmentId bytes).files name = disk.files name := by
  simp [append, Function.update_of_ne h]

theorem files_rename_sealed : (disk.rename segmentId).files ⟨segmentId, .sealed⟩ = disk.files ⟨segmentId, .opened⟩ := by
  simp [rename]

theorem files_rename_of_ne (h : name.segmentId ≠ segmentId) : (disk.rename segmentId).files name = disk.files name := by
  have hopened : name ≠ ⟨segmentId, .opened⟩ := fun heq => h (heq ▸ rfl)
  have hsealed : name ≠ ⟨segmentId, .sealed⟩ := fun heq => h (heq ▸ rfl)
  simp [rename, Function.update_of_ne hopened, Function.update_of_ne hsealed]

/-- At most the file of one open segment changes: it gets longer, and it may get its sealed name. -/
structure Grows (segmentId : SegmentId) (disk disk' : Disk) : Prop where
  others : ∀ name, name.segmentId ≠ segmentId → disk'.files name = disk.files name
  kept : ∃ state bytes, disk'.files ⟨segmentId, state⟩ = (disk.files ⟨segmentId, .opened⟩).map (· ++ bytes)

theorem grows_append : Grows segmentId disk (disk.append segmentId bytes) where
  others _ hne := files_append_of_ne fun heq => hne (heq ▸ rfl)
  kept := ⟨.opened, bytes, files_append_self⟩

theorem grows_rename_append (segmentId : SegmentId) (disk : Disk) (bytes : List UInt8) (rename : RenameOutcome) :
    Grows segmentId disk (rename.apply segmentId (disk.append segmentId bytes)) := by
  have hrenamed : Grows segmentId disk ((disk.append segmentId bytes).rename segmentId) := by
    refine ⟨fun name hne => ?_, .sealed, bytes, ?_⟩
    · rw [files_rename_of_ne hne, grows_append.others name hne]
    · rw [files_rename_sealed, files_append_self]
  cases rename with
  | renamed => exact ⟨hrenamed.others, hrenamed.kept⟩
  | displaced => exact hrenamed
  | failed kind => exact grows_append

/-- Files are created under names that are free, and written to. -/
structure OnlyCreates (disk disk' : Disk) : Prop where
  files : ∀ name, name.state = .sealed ∨ disk.files name ≠ none → disk'.files name = disk.files name
  published : disk'.published = disk.published

theorem OnlyCreates.refl (disk : Disk) : OnlyCreates disk disk := ⟨fun _ _ => rfl, rfl⟩

theorem onlyCreates_append (bytes : List UInt8) (h : disk.files ⟨segmentId, .opened⟩ = none) :
    OnlyCreates disk ((disk.create segmentId).append segmentId bytes) := by
  refine ⟨fun name hname => ?_, rfl⟩
  have hne : name ≠ ⟨segmentId, .opened⟩ := by
    rintro rfl
    rcases hname with hname | hname
    · cases hname
    · exact hname h
  rw [files_append_of_ne hne]
  exact Function.update_of_ne hne _ _

theorem files_create_append :
    ((disk.create segmentId).append segmentId bytes).files ⟨segmentId, .opened⟩ = some bytes := by
  rw [files_append_self]
  simp [create]

end Disk

@[simp] theorem ends_check {σ : Type} {result : IoResult} {error : ErrorKind → KrometrailError} {s : σ}
    {Q : Unit → σ → Prop} {E : KrometrailError → σ → Prop} : Ends (check result error s) Q E ↔
      (result = .ok () → Q () s) ∧ ∀ kind, result = .error kind → E (error kind) s := by
  cases result with
  | ok value => simp [check]
  | error kind => simp [check]

@[simp] theorem ends_orThrow {σ α : Type} {value : Option α} {error : KrometrailError} {s : σ} {Q : α → σ → Prop}
    {E : KrometrailError → σ → Prop} :
    Ends (orThrow value error s) Q E ↔ (∀ a, value = some a → Q a s) ∧ (value = none → E error s) := by
  cases value with
  | none => simp [orThrow]
  | some a => simp [orThrow]

variable {crc : Crc32} {disk : Disk} {E : KrometrailError → Disk → Prop} {frame : EncodedFrame}

/-- What a publication answers: the registration when the file has its sealed name, and a failure that leaves the
writer usable otherwise. -/
theorem ends_publishSegment {io : SealOutcomes} {segmentId : SegmentId} {registration : SegmentRegistration}
    {Q : SegmentRegistration → Disk → Prop}
    (hrenamed : io.rename = .renamed → io.directorySync = .ok () → Q registration (io.rename.apply segmentId disk))
    (hreconciled : io.rename.result = .error .notFound → sealedPublicationIsComplete crc io.inspection
      ((io.rename.apply segmentId disk).files ⟨segmentId, .sealed⟩) segmentId = true →
        Q registration (io.rename.apply segmentId disk))
    (hfailed : ∀ error, error.classified.isWriterTerminal = false → (io.rename = .renamed → io.directorySync ≠ .ok ()) →
      (io.rename.result = .error .notFound → sealedPublicationIsComplete crc io.inspection
        ((io.rename.apply segmentId disk).files ⟨segmentId, .sealed⟩) segmentId = false) →
      E error (io.rename.apply segmentId disk)) :
    Ends (publishSegment crc io segmentId registration disk) Q E := by
  unfold publishSegment
  rw [ends_bind, ends_modify]
  cases hresult : io.rename.result with
  | ok value =>
    have hrename : io.rename = .renamed := by
      cases hio : io.rename with
      | renamed => rfl
      | displaced => simp [hio, RenameOutcome.result] at hresult
      | failed kind => simp [hio, RenameOutcome.result] at hresult
    simp only [ends_bind, ends_check, ends_pure]
    refine ⟨hrenamed hrename, fun kind hkind => hfailed _ rfl (fun _ => ?_) fun hnotFound => ?_⟩
    · simp [hkind]
    · rw [hresult] at hnotFound
      cases hnotFound
  | error kind =>
    have hnotRenamed : io.rename = .renamed → io.directorySync ≠ .ok () := by
      intro heq
      rw [heq] at hresult
      cases hresult
    cases kind with
    | notFound =>
      simp only [ends_bind, ends_get]
      split
      · rename_i hcomplete
        exact hreconciled hresult hcomplete
      · rename_i hincomplete
        exact hfailed _ rfl hnotRenamed fun _ => by simpa using hincomplete
    | _ => exact hfailed _ rfl hnotRenamed fun hnotFound => by simp [hresult] at hnotFound

theorem sealSegment_grows (crc : Crc32) (io : SealOutcomes) (segment : OpenSegment) (disk : Disk) :
    Ends (sealSegment crc io segment disk) (fun _ => Disk.Grows segment.header.segmentId disk)
      (fun _ => Disk.Grows segment.header.segmentId disk) := by
  unfold sealSegment
  simp only [ends_bind, ends_modify, ends_check, ends_orThrow]
  refine ⟨fun _ => ⟨fun _ => ⟨fun fileLen _ => ?_, fun _ => Disk.grows_append⟩, fun _ _ => Disk.grows_append⟩,
    fun _ _ => Disk.grows_append⟩
  have hgrows := Disk.grows_rename_append segment.header.segmentId disk
    (io.footer.reached (segment.buffered ++ segment.footer.encode crc)) io.rename
  exact ends_publishSegment (fun _ _ => hgrows) (fun _ _ => hgrows) fun _ _ _ _ => hgrows

theorem ends_createOpenFile {attempts : List CreateAttempt} {Q : SegmentId → Disk → Prop}
    (hcreated : ∀ attempt ∈ attempts, disk.files ⟨attempt.segmentId, .opened⟩ = none →
      Q attempt.segmentId (disk.create attempt.segmentId))
    (hfailed : ∀ error, error.classified.isWriterTerminal = true → E error disk) : Ends (createOpenFile attempts disk) Q E := by
  induction attempts with
  | nil => exact hfailed _ rfl
  | cons attempt attempts ih =>
    have hrest := ih fun attempt hattempt => hcreated attempt (List.mem_cons_of_mem _ hattempt)
    unfold createOpenFile
    rw [ends_bind, ends_get]
    cases hopen : attempt.open disk with
    | ok value =>
      have hfree : disk.files ⟨attempt.segmentId, .opened⟩ = none := by
        unfold CreateAttempt.open at hopen
        split at hopen
        · cases hopen
        · rename_i hnone
          simpa using hnone
      exact hcreated attempt List.mem_cons_self hfree
    | error kind =>
      cases kind with
      | alreadyExists => exact hrest
      | _ => exact hfailed _ rfl

theorem ends_openSegment {rotation : RotationConfig} {io : OpenOutcomes} {Q : OpenSegment → Disk → Prop}
    (hopened : ∀ turn, disk.files ⟨(io.attempts turn).segmentId, .opened⟩ = none →
      let header := openHeader rotation (io.attempts turn).segmentId frame
      Q ⟨header, [], segmentHeaderLen, 0, 0, frame.metadata.sessionTime, frame.metadata.sessionTime,
          frame.metadata.observedTime⟩
        ((disk.create (io.attempts turn).segmentId).append (io.attempts turn).segmentId (header.encode crc)))
    (hfailed : ∀ error disk', error.classified.isWriterTerminal = true → disk.OnlyCreates disk' → E error disk') :
    Ends (openSegment crc rotation io frame disk) Q E := by
  unfold openSegment
  rw [ends_bind]
  refine ends_createOpenFile (fun attempt hattempt hfree => ?_) fun error hterminal => hfailed error disk hterminal (.refl disk)
  obtain ⟨turn, rfl⟩ := List.mem_ofFn.1 hattempt
  have hcreates := fun bytes => Disk.onlyCreates_append bytes hfree
  simp only [ends_bind, ends_modify, ends_check, ends_pure]
  refine ⟨fun hheader => ⟨fun _ => ⟨fun _ => ?_, ?_⟩, ?_⟩, ?_⟩
  · have hwritten : io.header = .written := by
      cases hio : io.header with
      | written => rfl
      | failed kind count => simp [hio, WriteOutcome.result] at hheader
    rw [hwritten]
    exact hopened turn hfree
  · exact fun _ _ => hfailed _ _ rfl (hcreates _)
  · exact fun _ _ => hfailed _ _ rfl (hcreates _)
  · exact fun _ _ => hfailed _ _ rfl (hcreates _)

/-- The segment after a record of `frame` is in its file. -/
def OpenSegment.counting (segment : OpenSegment) (frame : EncodedFrame) (recordLen : Nat) : OpenSegment :=
  { segment with
    buffered := [], fileLen := segment.fileLen + recordLen, recordCount := segment.recordCount + 1
    totalPayload := segment.totalPayload + frame.bytes.length
    lastSessionTime := frame.metadata.sessionTime, lastObservedTime := frame.metadata.observedTime }

/-- An append adds the record of the frame to the file and to what the segment counts, and it answers the address that
the file had reached.  When it fails the writer is not usable any more, and the file got at most longer. -/
theorem ends_append {outcome : WriteOutcome} {segment : OpenSegment} {Q : FrameAddress → OpenSegment × Disk → Prop}
    {E : KrometrailError → OpenSegment × Disk → Prop}
    (hwritten : ∀ record, encodeFrameRecord crc frame = .ok record → outcome = .written →
      Q ⟨segment.header.segmentId, segment.fileLen⟩
        (segment.counting frame record.length, disk.append segment.header.segmentId (segment.buffered ++ record)))
    (hfailed : ∀ error segment' bytes, error.classified.isWriterTerminal = true → segment'.header = segment.header →
      E error (segment', disk.append segment.header.segmentId bytes)) :
    Ends (OpenSegment.append crc outcome frame (segment, disk)) Q E := by
  have hunchanged : disk.append segment.header.segmentId [] = disk := by
    simp [Disk.append]
  unfold OpenSegment.append
  simp only [ends_bind, ends_orThrow, ends_get]
  refine ⟨fun record hrecord => ?_, fun _ => ?_⟩
  · have hencode : encodeFrameRecord crc frame = .ok record := by
      cases h : encodeFrameRecord crc frame with
      | error error => simp [h, Except.toOption] at hrecord
      | ok record' => simpa [h, Except.toOption] using hrecord
    unfold OpenSegment.write
    simp only [ends_bind, ends_modify, ends_check]
    refine ⟨fun hresult => ⟨fun fileLen hfileLen => ⟨fun recordCount hrecordCount => ⟨fun totalPayload htotal => ?_, ?_⟩, ?_⟩,
      ?_⟩, ?_⟩
    · have houtcome : outcome = .written := by
        cases outcome with
        | written => rfl
        | failed kind count => simp [WriteOutcome.result] at hresult
      obtain ⟨-, rfl⟩ := checkedAdd_eq_some.1 hfileLen
      obtain ⟨-, rfl⟩ := checkedAdd_eq_some.1 hrecordCount
      obtain ⟨-, rfl⟩ := checkedAdd_eq_some.1 htotal
      have h := hwritten record hencode houtcome
      subst houtcome
      exact h
    · exact fun _ => hfailed _ _ _ rfl rfl
    · exact fun _ => hfailed _ _ _ rfl rfl
    · exact fun _ => hfailed _ _ _ rfl rfl
    · exact fun _ _ => hfailed _ _ _ rfl rfl
  · have h := hfailed (storeError .frameRecordAppend .invalidData .writerTerminal "frame record encoding failed") segment []
      rfl rfl
    rwa [hunchanged] at h

/-- A command is refused by a writer that has failed; otherwise it is the operation, and a failure that the writer does
not survive is recorded. -/
theorem ends_execute {α : Type} {operation : Worker α} {state : WorkerState} {Q : α → WorkerState → Prop}
    {E : KrometrailError → WorkerState → Prop} (hrefused : ∀ error, state.terminalError = some error → E error state)
    (hoperation : state.terminalError = none → Ends (operation state) Q fun error state' =>
      E error.classified (if error.classified.isWriterTerminal then
        { state' with terminalError := some error.classified } else state')) :
    Ends (WorkerState.execute operation state) Q E := by
  unfold WorkerState.execute
  cases hterminal : state.terminalError with
  | some error => exact hrefused error hterminal
  | none =>
    have hends := hoperation hterminal
    cases hrun : operation state with
    | ok value state' =>
      rw [hrun] at hends
      exact hends
    | error error state' =>
      rw [hrun] at hends
      exact hends

theorem append_others {io : AppendOutcomes} {state : WorkerState} {key : SegmentKey} (hkey : key ≠ frame.key) :
    Ends (WorkerState.append crc io frame state) (fun _ state' => state'.openSegments key = state.openSegments key)
      (fun _ state' => state'.openSegments key = state.openSegments key) := by
  have hsealed : ∀ segment, Ends (WorkerState.sealEntry crc io.sealing frame.key segment state)
      (fun _ state' => state'.openSegments key = state.openSegments key)
      (fun _ state' => state'.openSegments key = state.openSegments key) := by
    intro segment
    unfold WorkerState.sealEntry onDisk
    rw [ends_bind, ends_modify, ends_zoom]
    refine (sealSegment_grows crc io.sealing segment _).mono (fun _ _ _ => ?_) fun _ _ _ => ?_
    · exact Function.update_of_ne hkey _ _
    · exact Function.update_of_ne hkey _ _
  have hrotated : Ends (WorkerState.rotate crc io.sealing frame state)
      (fun _ state' => state'.openSegments key = state.openSegments key)
      (fun _ state' => state'.openSegments key = state.openSegments key) := by
    unfold WorkerState.rotate
    rw [ends_bind, ends_get]
    cases (state.openSegments frame.key).filter (·.shouldRotate frame state.rotation) with
    | some segment =>
      refine ends_bind.2 ?_
      exact hsealed segment
    | none => rfl
  unfold WorkerState.append
  rw [ends_bind]
  refine hrotated.mono (fun sealedSegment state₁ h₁ => ?_) fun _ _ h => h
  have hopened : Ends (WorkerState.openEntry crc io.opening frame state₁)
      (fun _ state' => state'.openSegments key = state.openSegments key)
      (fun _ state' => state'.openSegments key = state.openSegments key) := by
    unfold WorkerState.openEntry
    rw [ends_bind, ends_get]
    cases state₁.openSegments frame.key with
    | some segment => exact h₁
    | none =>
      simp only [ends_bind, onDisk, ends_zoom, ends_modify, ends_pure]
      refine ends_openSegment (fun _ _ => ?_) fun _ _ _ _ => h₁
      exact (Function.update_of_ne hkey _ _).trans h₁
  rw [ends_bind]
  refine hopened.mono (fun segment state₂ h₂ => ?_) fun _ _ h => h
  unfold onSegment
  rw [ends_zoom, ends_bind]
  refine ends_append (fun _ _ _ => ?_) fun _ _ _ _ _ => ?_
  · exact (Function.update_of_ne hkey _ _).trans h₂
  · exact (Function.update_of_ne hkey _ _).trans h₂

end Krometrail
