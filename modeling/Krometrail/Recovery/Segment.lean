import Krometrail.Recovery.Recover

/-!
# What reconciling a segment leaves

After `reconcileSegment` the row of the segment says what was recovered from its file, each of its frame rows is of a
record of the file, the frame of every record has a row somewhere, and the rows of other segments are as before.
-/

namespace Krometrail

open Relations Results

/-- The row says where the record is and whose it is. -/
def FrameRow.Of (segmentId : SegmentId) (record : RecoveredRecord) (row : FrameRow) : Prop :=
  row.segmentId = segmentId ∧ row.byteOffset = record.span.byteOffset ∧ row.frameId = record.frame.metadata.id ∧
    row.sessionId = record.frame.metadata.sessionId ∧ row.targetId = record.frame.metadata.targetId

section

variable {records : List RecoveredRecord} {row : FrameRow} {segmentId : SegmentId}

theorem agrees_iff (hoffsets : (records.map (·.span.byteOffset)).Nodup) (hsegment : row.segmentId = segmentId) :
    row.agrees records = true ↔ ∃ record ∈ records, row.Of segmentId record := by
  unfold FrameRow.agrees
  constructor
  · intro h
    cases hfind : records.find? (fun record => record.span.byteOffset = row.byteOffset) with
    | none => simp [hfind] at h
    | some record =>
      have hoffset : record.span.byteOffset = row.byteOffset := by simpa using List.find?_some hfind
      have hids : row.frameId = record.frame.metadata.id ∧ row.sessionId = record.frame.metadata.sessionId ∧
          row.targetId = record.frame.metadata.targetId := by simpa [hfind] using h
      exact ⟨record, List.mem_of_find?_eq_some hfind, hsegment, hoffset.symm, hids⟩
  · rintro ⟨record, hrecord, -, hoffset, hids⟩
    have hfind : records.find? (fun record => record.span.byteOffset = row.byteOffset) = some record := by
      cases hfound : records.find? (fun record => record.span.byteOffset = row.byteOffset) with
      | none =>
        have := List.find?_eq_none.1 hfound record hrecord
        simp [hoffset] at this
      | some record' =>
        have hoffset' : record'.span.byteOffset = row.byteOffset := by simpa using List.find?_some hfound
        rw [List.inj_on_of_nodup_map hoffsets (List.mem_of_find?_eq_some hfound) hrecord (hoffset'.trans hoffset)]
    rw [hfind]
    simpa using hids

end

/-- The rows of the other segments are the same. -/
def SqliteIndex.SameElsewhere (segmentId : SegmentId) (index index' : SqliteIndex) : Prop :=
  ∀ row : FrameRow, row.segmentId ≠ segmentId → (row ∈ index'.frames ↔ row ∈ index.frames)

namespace SqliteIndex

section

variable {now : Int} {stored : Option SegmentRegistration} {registration : SegmentRegistration}
  {normalized : NormalizedSegment} {index index' : SqliteIndex} {segmentId : SegmentId} {fromOffset : Option Nat}
  {record : RecoveredRecord} {missing : List RecoveredRecord}

theorem frameExists_iff {frameId : FrameId} : index.frameExists frameId = true ↔ ∃ row ∈ index.frames, row.frameId = frameId := by
  simp [frameExists]

theorem removeFrameRows_sameElsewhere : SameElsewhere segmentId index (index.removeFrameRows segmentId fromOffset).1 := by
  intro row hrow
  rw [mem_frames_removeFrameRows]
  simp [FrameRow.isIn, hrow]

theorem mem_removeFrameRows_from {offset : Nat} {row : FrameRow} (hrow : row.segmentId = segmentId) :
    row ∈ (index.removeFrameRows segmentId (some offset)).1.frames ↔ row ∈ index.frames ∧ row.byteOffset < offset := by
  rw [mem_frames_removeFrameRows]
  simp [FrameRow.isIn, hrow]

theorem not_mem_removeFrameRows_none {row : FrameRow} (hrow : row.segmentId = segmentId) :
    row ∉ (index.removeFrameRows segmentId none).1.frames := by
  rw [mem_frames_removeFrameRows]
  simp [hrow]

/-- What is left of a segment behind the removal of what its file does not bear out. -/
structure Dropped (stored : Option SegmentRegistration) (normalized : NormalizedSegment) (index index' : SqliteIndex)
    (retained : List Nat) : Prop where
  elsewhere : SameElsewhere normalized.registration.segmentId index index'
  agreeing : ∀ row ∈ index'.frames, row.segmentId = normalized.registration.segmentId → row.agrees normalized.records = true
  kept : ∀ row ∈ index'.frames, row ∈ index.frames
  retained : ∀ offset, offset ∈ retained ↔ ∃ row ∈ index'.frames, row.segmentId = normalized.registration.segmentId ∧
    row.byteOffset = offset
  segments : ∀ row, row ∈ index'.segments ↔ row ∈ index.segments ∧
    (immutableMismatch stored normalized.registration = true → row.registration.segmentId ≠ normalized.registration.segmentId)

theorem dropped_all : Dropped stored normalized index
    (if immutableMismatch stored normalized.registration then
      (index.removeFrameRows normalized.registration.segmentId none).1.removeSegment normalized.registration.segmentId
    else (index.removeFrameRows normalized.registration.segmentId none).1) [] := by
  have hframes : (if immutableMismatch stored normalized.registration then
      (index.removeFrameRows normalized.registration.segmentId none).1.removeSegment normalized.registration.segmentId
    else (index.removeFrameRows normalized.registration.segmentId none).1).frames =
      (index.removeFrameRows normalized.registration.segmentId none).1.frames := by
    split
    · exact frames_removeSegment
    · rfl
  refine ⟨?_, ?_, ?_, ?_, ?_⟩
  · intro row hrow
    rw [hframes]
    exact removeFrameRows_sameElsewhere row hrow
  · intro row hrow hsegment
    rw [hframes] at hrow
    exact absurd hrow (not_mem_removeFrameRows_none hsegment)
  · intro row hrow
    rw [hframes, mem_frames_removeFrameRows] at hrow
    exact hrow.1
  · intro offset
    simp only [hframes, List.not_mem_nil, false_iff, not_exists, not_and]
    exact fun row hrow hsegment => absurd hrow (not_mem_removeFrameRows_none hsegment)
  · intro row
    split
    · rename_i himmutable
      simp [himmutable]
    · rename_i himmutable
      simp [himmutable]

theorem dropped_dropMismatched :
    Dropped stored normalized index (index.dropMismatched stored normalized).1 (index.dropMismatched stored normalized).2.1 := by
  unfold dropMismatched
  dsimp only
  split
  · split
    · rename_i offset hrepair
      split
      · rename_i htail
        obtain ⟨himmutable, hrows⟩ := Bool.and_eq_true_iff.1 htail
        have hrows' : ∀ row ∈ index.frames, row.segmentId = normalized.registration.segmentId → row.byteOffset < offset →
            row.agrees normalized.records = true := by
          intro row hrow hsegment hlt
          have := List.all_eq_true.1 hrows row (mem_framesOf.2 ⟨hrow, hsegment⟩)
          rcases Bool.or_eq_true_iff.1 this with hle | hagrees
          · exact absurd (of_decide_eq_true hle) (by omega)
          · exact hagrees
        refine ⟨removeFrameRows_sameElsewhere, ?_, ?_, ?_, ?_⟩
        · intro row hrow hsegment
          obtain ⟨hmem, hlt⟩ := (mem_removeFrameRows_from hsegment).1 hrow
          exact hrows' row hmem hsegment hlt
        · exact fun row hrow => (mem_frames_removeFrameRows.1 hrow).1
        · intro retained
          simp only [List.mem_filter, List.mem_map, mem_framesOf, decide_eq_true_eq]
          constructor
          · rintro ⟨⟨row, ⟨hrow, hsegment⟩, rfl⟩, hlt⟩
            exact ⟨row, (mem_removeFrameRows_from hsegment).2 ⟨hrow, hlt⟩, hsegment, rfl⟩
          · rintro ⟨row, hrow, hsegment, rfl⟩
            obtain ⟨hmem, hlt⟩ := (mem_removeFrameRows_from hsegment).1 hrow
            exact ⟨⟨row, ⟨hmem, hsegment⟩, rfl⟩, hlt⟩
        · intro row
          simp only [Bool.not_eq_true'] at himmutable
          simp [himmutable]
      · exact dropped_all
    · exact dropped_all
  · rename_i hmatch
    simp only [Bool.or_eq_true, not_or, Bool.not_eq_true, List.any_eq_false, Bool.not_eq_false', mem_framesOf] at hmatch
    obtain ⟨himmutable, hrows⟩ := hmatch
    refine ⟨fun _ _ => Iff.rfl, fun row hrow hsegment => ?_, fun _ => id, fun offset => ?_, fun row => ?_⟩
    · simpa using hrows row ⟨hrow, hsegment⟩
    · simp only [List.mem_map, mem_framesOf, and_assoc]
    · simp [himmutable]

/-- The segment has the row of the registration. -/
def Registered (registration : SegmentRegistration) (index : SqliteIndex) : Prop :=
  ∃ row ∈ index.segments, row.registration = registration

theorem segments_registerSegment_again (h : index.Registered registration) :
    (index.registerSegment now registration).1.segments = index.segments := by
  obtain ⟨row, hrow, rfl⟩ := h
  have hfind : index.segments.find? row.registration.segmentId = some row := Relation.find?_eq_some.2 ⟨hrow, rfl⟩
  have hsame : index.registeredRow now row.registration = row := by rw [registeredRow, hfind]
  rw [segments_registerSegment, hsame, Relation.upsert_eq_self hrow]

theorem indexFrame_spec {frame : EncodedFrame} {address : FrameAddress} {delta : SegmentUsageDelta}
    (hregistered : index.Registered registration)
    (h : index.indexFrame now frame ⟨address, registration, none⟩ = .ok (index', delta)) :
    index'.segments = index.segments ∧
      ∀ row, row ∈ index'.frames ↔ row = frameRow frame address ∨ row ∈ index.frames := by
  simp only [indexFrame, bind_eq_ok] at h
  obtain ⟨_, -, h⟩ := h
  split at h
  · cases h
  simp only [bind_eq_ok, okOr_eq_ok, insertFrame_eq_some, pure_eq_ok, Prod.mk.injEq] at h
  obtain ⟨_, ⟨hnew, rfl⟩, rfl, -⟩ := h
  refine ⟨segments_registerSegment_again hregistered, fun row => ?_⟩
  rw [frames_appendObservation, Relation.mem_upsert]
  exact or_congr_right (and_iff_left_of_imp fun hrow => (hnew row hrow).1)

/-- What the loop over the missing records leaves. -/
structure Upserted (registration : SegmentRegistration) (missing : List RecoveredRecord) (index index' : SqliteIndex) :
    Prop where
  segments : index'.segments = index.segments
  kept : ∀ row ∈ index.frames, row ∈ index'.frames
  added : ∀ row ∈ index'.frames, row ∈ index.frames ∨ ∃ record ∈ missing, row.Of registration.segmentId record
  indexed : ∀ record ∈ missing, index'.frameExists record.frame.metadata.id = true

theorem upsertRecoveredFrame_spec {count : Nat} (hregistered : index.Registered registration)
    (h : index.upsertRecoveredFrame now registration record = .ok (index', count)) :
    Upserted registration [record] index index' := by
  unfold upsertRecoveredFrame at h
  split at h
  · rename_i hexists
    simp only [pure_eq_ok, Prod.mk.injEq] at h
    obtain ⟨rfl, -⟩ := h
    exact ⟨rfl, fun _ => id, fun _ => .inl, by simpa using hexists⟩
  · simp only [bind_eq_ok, pure_eq_ok, Prod.mk.injEq] at h
    obtain ⟨⟨_, _⟩, h, rfl, -⟩ := h
    obtain ⟨hsegments, hframes⟩ := indexFrame_spec hregistered h
    refine ⟨hsegments, fun row hrow => (hframes row).2 (.inr hrow), fun row hrow => ?_, ?_⟩
    · rcases (hframes row).1 hrow with rfl | hrow
      · exact .inr ⟨record, by simp, rfl, rfl, rfl, rfl, rfl⟩
      · exact .inl hrow
    · intro record' hrecord'
      obtain rfl := List.mem_singleton.1 hrecord'
      exact frameExists_iff.2 ⟨_, (hframes _).2 (.inl rfl), rfl⟩

theorem upsertRecovered_spec {count : Nat} (hregistered : index.Registered registration)
    (h : index.upsertRecovered now registration missing = .ok (index', count)) :
    Upserted registration missing index index' := by
  refine foldlM_prefix (P := fun before state => Upserted registration before index state.1) ?_ ?_ h
  · rintro before record after ⟨index₁, _⟩ ⟨index₂, _⟩ - hbefore hstep
    simp only [bind_eq_ok, pure_eq_ok, Prod.mk.injEq] at hstep
    obtain ⟨⟨_, _⟩, hstep, rfl, -⟩ := hstep
    have hregistered₁ : index₁.Registered registration := by
      obtain ⟨row, hrow, hrow'⟩ := hregistered
      exact ⟨row, hbefore.segments ▸ hrow, hrow'⟩
    have hrecord := upsertRecoveredFrame_spec hregistered₁ hstep
    refine ⟨hrecord.segments.trans hbefore.segments, fun row hrow => hrecord.kept row (hbefore.kept row hrow),
      fun row hrow => ?_, fun record' hrecord' => ?_⟩
    · rcases hrecord.added row hrow with hrow | ⟨record', hmem, hof⟩
      · rcases hbefore.added row hrow with hrow | ⟨record', hmem, hof⟩
        · exact .inl hrow
        · exact .inr ⟨record', List.mem_append_left _ hmem, hof⟩
      · exact .inr ⟨record', List.mem_append_right _ hmem, hof⟩
    · rcases List.mem_append.1 hrecord' with hmem | hmem
      · obtain ⟨row, hrow, hid⟩ := frameExists_iff.1 (hbefore.indexed record' hmem)
        exact frameExists_iff.2 ⟨row, hrecord.kept row hrow, hid⟩
      · exact hrecord.indexed record' hmem
  · exact ⟨rfl, fun _ => id, fun _ => .inl, fun record hrecord => absurd hrecord List.not_mem_nil⟩

structure Reconciled (normalized : NormalizedSegment) (index index' : SqliteIndex) : Prop where
  elsewhere : SameElsewhere normalized.registration.segmentId index index'
  agreeing : ∀ row ∈ index'.frames, row.segmentId = normalized.registration.segmentId → row.agrees normalized.records = true
  indexed : ∀ record ∈ normalized.records, index'.frameExists record.frame.metadata.id = true
  registered : index'.Registered normalized.registration
  segments : ∀ row : SegmentRow, row.registration.segmentId ≠ normalized.registration.segmentId →
    (row ∈ index'.segments ↔ row ∈ index.segments)

theorem immutableMismatch_eq_false {stored : SegmentRegistration} (h : immutableMismatch (some stored) registration = false) :
    stored.sessionId = registration.sessionId ∧ stored.targetId = registration.targetId ∧
      stored.startTime = registration.startTime := by
  simp only [immutableMismatch, Option.any_some, ne_eq, decide_eq_false_iff_not, not_or, not_not] at h
  exact h.2

theorem Dropped.indexed {retained : List Nat} (hdropped : Dropped stored normalized index index' retained)
    (hoffsets : (normalized.records.map (·.span.byteOffset)).Nodup) (hrecord : record ∈ normalized.records)
    (hretained : record.span.byteOffset ∈ retained) : index'.frameExists record.frame.metadata.id = true := by
  obtain ⟨row, hrow, hsegment, hoffset⟩ := (hdropped.retained _).1 hretained
  obtain ⟨record', hrecord', -, hoffset', hid, -⟩ := (agrees_iff hoffsets hsegment).1 (hdropped.agreeing row hrow hsegment)
  obtain rfl : record' = record := List.inj_on_of_nodup_map hoffsets hrecord' hrecord (hoffset'.symm.trans hoffset)
  exact frameExists_iff.2 ⟨row, hrow, hid⟩

theorem reconcileSegment_spec {report report' : RecoveryReport}
    (hoffsets : (normalized.records.map (·.span.byteOffset)).Nodup)
    (hstored : stored = (index.segments.find? normalized.registration.segmentId).map (·.registration))
    (h : index.reconcileSegment now stored normalized report = .ok (index', report')) : Reconciled normalized index index' := by
  have hdropped : Dropped stored normalized index _ _ := dropped_dropMismatched
  unfold reconcileSegment at h
  generalize index.dropMismatched stored normalized = dropped at h hdropped
  obtain ⟨index₁, retained, removed⟩ := dropped
  dsimp only at h hdropped
  -- a row of the segment that is left has the fields that registering keeps
  have hkept : ∀ row ∈ index₁.segments, row.registration.segmentId = normalized.registration.segmentId →
      row.registration.sessionId = normalized.registration.sessionId ∧
        row.registration.targetId = normalized.registration.targetId ∧
        row.registration.startTime = normalized.registration.startTime := by
    intro row hrow hid
    obtain ⟨hmem, himmutable⟩ := (hdropped.segments row).1 hrow
    rw [hstored, Relation.find?_eq_some.2 ⟨hmem, hid⟩] at himmutable
    exact immutableMismatch_eq_false (Bool.eq_false_iff.2 fun hmismatch => himmutable hmismatch hid)
  have hindexed : ∀ record ∈ normalized.records,
      record ∉ normalized.records.filter (fun record =>
        !retained.contains record.span.byteOffset && !index₁.frameExists record.frame.metadata.id) →
      index₁.frameExists record.frame.metadata.id = true := by
    intro record hrecord hmissing
    by_cases hretained : record.span.byteOffset ∈ retained
    · exact hdropped.indexed hoffsets hrecord hretained
    · simpa [hrecord, hretained] using hmissing
  split at h
  · rename_i hmatches
    obtain ⟨hsame, hmissing⟩ := hmatches
    simp only [pure_eq_ok, Prod.mk.injEq] at h
    obtain ⟨rfl, -⟩ := h
    have himmutable : immutableMismatch stored normalized.registration = false := by simp [hsame, immutableMismatch]
    have hsegments : ∀ row, row ∈ index₁.segments ↔ row ∈ index.segments := by
      intro row
      simpa [himmutable] using hdropped.segments row
    refine ⟨hdropped.elsewhere, hdropped.agreeing, fun record hrecord => hindexed record hrecord (by rw [hmissing]; exact List.not_mem_nil), ?_,
      fun row _ => hsegments row⟩
    obtain ⟨row, hfind, hrow⟩ := Option.map_eq_some_iff.1 (hstored.symm.trans hsame)
    exact ⟨row, (hsegments row).2 (Relation.find?_eq_some.1 hfind).1, hrow⟩
  · simp only [bind_eq_ok, pure_eq_ok, Prod.mk.injEq] at h
    obtain ⟨⟨_, _⟩, h, rfl, -⟩ := h
    have hregistered : (index₁.registerSegment now normalized.registration).1.Registered normalized.registration := by
      refine ⟨index₁.registeredRow now normalized.registration, ?_, registration_registeredRow hkept⟩
      rw [segments_registerSegment, Relation.mem_upsert]
      exact .inl rfl
    have hupserted := upsertRecovered_spec hregistered h
    refine ⟨fun row hrow => ?_, fun row hrow hsegment => ?_, fun record hrecord => ?_, ?_, fun row hrow => ?_⟩
    · rw [← hdropped.elsewhere row hrow]
      constructor
      · intro hmem
        rcases hupserted.added row hmem with hmem | ⟨record, -, hof⟩
        · exact hmem
        · exact absurd hof.1 hrow
      · exact hupserted.kept row
    · rcases hupserted.added row hrow with hmem | ⟨record, hrecord, hof⟩
      · exact hdropped.agreeing row hmem hsegment
      · exact (agrees_iff hoffsets hsegment).2 ⟨record, (List.mem_filter.1 hrecord).1, hof⟩
    · by_cases hmissing : record ∈ normalized.records.filter (fun record =>
          !retained.contains record.span.byteOffset && !index₁.frameExists record.frame.metadata.id)
      · exact hupserted.indexed record hmissing
      · obtain ⟨row, hmem, hid⟩ := frameExists_iff.1 (hindexed record hrecord hmissing)
        exact frameExists_iff.2 ⟨row, hupserted.kept row hmem, hid⟩
    · obtain ⟨row, hmem, hrow⟩ := hregistered
      exact ⟨row, hupserted.segments ▸ hmem, hrow⟩
    · rw [hupserted.segments, segments_registerSegment, Relation.mem_upsert, segmentId_registeredRow, hdropped.segments]
      constructor
      · rintro (rfl | ⟨⟨hmem, -⟩, -⟩)
        · exact absurd segmentId_registeredRow hrow
        · exact hmem
      · exact fun hmem => .inr ⟨⟨hmem, fun _ => hrow⟩, hrow⟩

theorem reconcileSegment_settled {report : RecoveryReport} (hstored : stored = some normalized.registration)
    (hagreeing : ∀ row ∈ index.frames, row.segmentId = normalized.registration.segmentId → row.agrees normalized.records = true)
    (hindexed : ∀ record ∈ normalized.records, index.frameExists record.frame.metadata.id = true) :
    index.reconcileSegment now stored normalized report = .ok (index, report) := by
  have hdrop : index.dropMismatched stored normalized =
      (index, (index.framesOf normalized.registration.segmentId).map (·.byteOffset), 0) := by
    have himmutable : immutableMismatch stored normalized.registration = false := by simp [hstored, immutableMismatch]
    have hrows : (index.framesOf normalized.registration.segmentId).any (fun row => !row.agrees normalized.records) = false := by
      rw [List.any_eq_false]
      intro row hrow
      obtain ⟨hmem, hsegment⟩ := mem_framesOf.1 hrow
      simp [hagreeing row hmem hsegment]
    simp [dropMismatched, himmutable, hrows]
  have hmissing : normalized.records.filter (fun record =>
      !((index.framesOf normalized.registration.segmentId).map (·.byteOffset)).contains record.span.byteOffset &&
        !index.frameExists record.frame.metadata.id) = [] := by
    rw [List.filter_eq_nil_iff]
    intro record hrecord
    simp [hindexed record hrecord]
  rw [reconcileSegment, hdrop]
  exact if_pos ⟨hstored, hmissing⟩

end

end SqliteIndex

end Krometrail
