import Krometrail.Segments.WriterSteps

/-!
# The invariant of the segment writer

`WorkerState.Sound` says what the worker keeps about its open segments and the frames it has accepted: every open
segment stands under the session and the target of its header, no two share a file, the file of a segment begins with
its header and the records of the frames accepted for it, and as long as the writer is live it holds nothing else and
the counters of the segment are right.  Every command keeps it, whatever its file operations come to
(`Sound.handle`).
-/

namespace Krometrail

open Stateful Runs

/-- A frame with the address that was answered for it. -/
abbrev Accepted : Type := EncodedFrame × FrameAddress

/-- The frames that are in a segment, in order. -/
def framesOf (segmentId : SegmentId) (entries : List Accepted) : List EncodedFrame :=
  (entries.filter (·.2.segmentId = segmentId)).map Prod.fst

/-- The bytes of a segment file without a footer. -/
def segmentContents (crc : Crc32) (header : SegmentHeader) (frames : List EncodedFrame) : List UInt8 :=
  header.encode crc ++ recordBytes crc frames

/-- The file of an open segment holds the records of `frames`, and the segment counts exactly these. -/
structure OpenSegment.Counts (crc : Crc32) (disk : Disk) (frames : List EncodedFrame) (segment : OpenSegment) : Prop where
  file : disk.files ⟨segment.header.segmentId, .opened⟩ = some (segmentContents crc segment.header frames)
  fileLen : segment.fileLen = (segmentContents crc segment.header frames).length
  recordCount : segment.recordCount = frames.length
  totalPayload : segment.totalPayload = (frames.map (·.bytes.length)).sum
  buffered : segment.buffered = []

structure OpenSegment.Sound (crc : Crc32) (disk : Disk) (frames : List EncodedFrame) (live : Prop) (segment : OpenSegment) :
    Prop where
  unsealed : disk.files ⟨segment.header.segmentId, .sealed⟩ = none
  started : ∀ first ∈ frames.head?, segment.header.startSessionTime = first.metadata.sessionTime
  written : ∃ rest, disk.files ⟨segment.header.segmentId, .opened⟩ =
    some (segmentContents crc segment.header frames ++ rest)
  counts : live → segment.Counts crc disk frames

namespace WorkerState

structure Sound (crc : Crc32) (rotation : RotationConfig) (entries : List Accepted) (live : Prop) (state : WorkerState) :
    Prop where
  rotation_eq : state.rotation = rotation
  keyed : ∀ key segment, state.openSegments key = some segment →
    (segment.header.sessionId, segment.header.targetId) = key
  apart : ∀ key key' segment segment', state.openSegments key = some segment → state.openSegments key' = some segment' →
    segment.header.segmentId = segment'.header.segmentId → key = key'
  segments : ∀ key segment, state.openSegments key = some segment →
    segment.Sound crc state.disk (framesOf segment.header.segmentId entries) live
  stored : ∀ segmentId, framesOf segmentId entries ≠ [] → ∃ header name rest,
    state.disk.files ⟨segmentId, name⟩ = some (segmentContents crc header (framesOf segmentId entries) ++ rest)

end WorkerState

/-- A frame accepted behind `entries` stands behind the records of its segment, and behind the first of them it is
within the bounds of the rotation. -/
structure Placed (rotation : RotationConfig) (entries : List Accepted) (accepted : Accepted) : Prop where
  encodable : accepted.1.Encodable
  byteOffset : accepted.2.byteOffset = regionEnd segmentHeaderLen (framesOf accepted.2.segmentId entries)
  rotated : ∀ first ∈ (framesOf accepted.2.segmentId entries).head?,
    accepted.1.metadata.sessionTime.nanos.toNat - first.metadata.sessionTime.nanos.toNat < rotation.maxDurationNanos ∧
      accepted.2.byteOffset < rotation.maxSize.toNat

section

variable {crc : Crc32} {rotation : RotationConfig} {entries : List Accepted} {live live' : Prop} {state : WorkerState}
  {key : SegmentKey} {segment : OpenSegment} {disk : Disk} {frame : EncodedFrame} {address : FrameAddress}

theorem length_segmentContents (header : SegmentHeader) (frames : List EncodedFrame) :
    (segmentContents crc header frames).length = regionEnd segmentHeaderLen frames := by
  rw [segmentContents, List.length_append, SegmentHeader.length_encode, length_recordBytes]

theorem framesOf_concat_self {segmentId : SegmentId} {byteOffset : Nat} :
    framesOf segmentId (entries ++ [(frame, ⟨segmentId, byteOffset⟩)]) = framesOf segmentId entries ++ [frame] := by
  simp [framesOf]

theorem framesOf_concat_of_ne {segmentId : SegmentId} (h : address.segmentId ≠ segmentId) :
    framesOf segmentId (entries ++ [(frame, address)]) = framesOf segmentId entries := by
  simp [framesOf, h]

theorem OpenSegment.Sound.congr {disk' : Disk} {frames : List EncodedFrame} (h : segment.Sound crc disk frames live)
    (hfiles : ∀ name, disk'.files ⟨segment.header.segmentId, name⟩ = disk.files ⟨segment.header.segmentId, name⟩) :
    segment.Sound crc disk' frames live where
  unsealed := by rw [hfiles, h.unsealed]
  started := h.started
  written := by
    obtain ⟨rest, hrest⟩ := h.written
    exact ⟨rest, by rw [hfiles, hrest]⟩
  counts hlive :=
    have hcounts := h.counts hlive
    ⟨by rw [hfiles, hcounts.file], hcounts.fileLen, hcounts.recordCount, hcounts.totalPayload, hcounts.buffered⟩

namespace WorkerState.Sound

theorem mono (h : state.Sound crc rotation entries live) (hlive : live' → live) :
    state.Sound crc rotation entries live' where
  rotation_eq := h.rotation_eq
  keyed := h.keyed
  apart := h.apart
  segments key segment hsegment :=
    have hsound := h.segments key segment hsegment
    ⟨hsound.unsealed, hsound.started, hsound.written, fun hlive' => hsound.counts (hlive hlive')⟩
  stored := h.stored

theorem removed (h : state.Sound crc rotation entries live) (hsegment : state.openSegments key = some segment)
    (hgrows : Disk.Grows segment.header.segmentId state.disk disk) :
    ((state.remove key).withDisk disk).Sound crc rotation entries live := by
  have hopen : ∀ key' segment', ((state.remove key).withDisk disk).openSegments key' = some segment' →
      key' ≠ key ∧ state.openSegments key' = some segment' := by
    intro key' segment' hsegment'
    change Function.update state.openSegments key none key' = some segment' at hsegment'
    by_cases hkey : key' = key
    · subst hkey
      simp at hsegment'
    · rw [Function.update_of_ne hkey] at hsegment'
      exact ⟨hkey, hsegment'⟩
  refine ⟨h.rotation_eq, fun key' segment' hsegment' => h.keyed key' segment' (hopen key' segment' hsegment').2, ?_, ?_, ?_⟩
  · intro key₁ key₂ segment₁ segment₂ h₁ h₂
    exact h.apart key₁ key₂ segment₁ segment₂ (hopen _ _ h₁).2 (hopen _ _ h₂).2
  · intro key' segment' hsegment'
    obtain ⟨hkey, hsegment'⟩ := hopen key' segment' hsegment'
    have hne : segment'.header.segmentId ≠ segment.header.segmentId := fun heq =>
      hkey (h.apart key' key segment' segment hsegment' hsegment heq)
    exact (h.segments key' segment' hsegment').congr fun name => hgrows.others _ hne
  · intro segmentId hframes
    by_cases hid : segmentId = segment.header.segmentId
    · obtain ⟨rest, hrest⟩ := (h.segments key segment hsegment).written
      obtain ⟨name, bytes, hkept⟩ := hgrows.kept
      subst hid
      refine ⟨segment.header, name, rest ++ bytes, ?_⟩
      rw [← List.append_assoc]
      exact hkept.trans (congrArg (Option.map _) hrest)
    · obtain ⟨header, name, rest, hfile⟩ := h.stored segmentId hframes
      exact ⟨header, name, rest, (hgrows.others ⟨segmentId, name⟩ hid).trans hfile⟩

theorem onlyCreates (h : state.Sound crc rotation entries live) (hcreates : state.disk.OnlyCreates disk) :
    (state.withDisk disk).Sound crc rotation entries live where
  rotation_eq := h.rotation_eq
  keyed := h.keyed
  apart := h.apart
  segments key segment hsegment := by
    have hsound := h.segments key segment hsegment
    refine hsound.congr fun name => ?_
    cases name with
    | sealed => exact hcreates.files _ (.inl rfl)
    | opened =>
      obtain ⟨rest, hrest⟩ := hsound.written
      exact hcreates.files _ (.inr (by rw [hrest]; exact nofun))
  stored segmentId hframes := by
    obtain ⟨header, name, rest, hfile⟩ := h.stored segmentId hframes
    exact ⟨header, name, rest, (hcreates.files _ (.inr (by rw [hfile]; exact nofun))).trans hfile⟩

theorem framesOf_eq_nil (h : state.Sound crc rotation entries live) {segmentId : SegmentId}
    (hfree : ∀ name, state.disk.files ⟨segmentId, name⟩ = none) : framesOf segmentId entries = [] := by
  by_contra hframes
  obtain ⟨header, name, rest, hfile⟩ := h.stored segmentId hframes
  rw [hfree name] at hfile
  cases hfile

theorem opened (h : state.Sound crc rotation entries live) (header : SegmentHeader)
    (hkey : (header.sessionId, header.targetId) = key) (hfree : ∀ name, state.disk.files ⟨header.segmentId, name⟩ = none)
    (time lastTime : SessionTime) (observed : ObservedTime) :
    ((state.withDisk ((state.disk.create header.segmentId).append header.segmentId (header.encode crc))).insert key
      ⟨header, [], segmentHeaderLen, 0, 0, time, lastTime, observed⟩).Sound crc rotation entries live := by
  set disk := (state.disk.create header.segmentId).append header.segmentId (header.encode crc) with hdisk
  have hcreates : state.disk.OnlyCreates disk := Disk.onlyCreates_append _ (hfree .opened)
  have hkept := h.onlyCreates hcreates
  have hframes := h.framesOf_eq_nil hfree
  have hother : ∀ key' segment', state.openSegments key' = some segment' →
      segment'.header.segmentId ≠ header.segmentId := by
    intro key' segment' hsegment' heq
    obtain ⟨rest, hrest⟩ := (h.segments key' segment' hsegment').written
    rw [heq, hfree .opened] at hrest
    cases hrest
  have hopen : ∀ key' segment', ((state.withDisk disk).insert key
      ⟨header, [], segmentHeaderLen, 0, 0, time, lastTime, observed⟩).openSegments key' = some segment' →
      key' = key ∧ segment' = ⟨header, [], segmentHeaderLen, 0, 0, time, lastTime, observed⟩ ∨
        state.openSegments key' = some segment' := by
    intro key' segment' hsegment'
    change Function.update state.openSegments key _ key' = some segment' at hsegment'
    by_cases hkey' : key' = key
    · subst hkey'
      rw [Function.update_self] at hsegment'
      exact .inl ⟨rfl, (Option.some.inj hsegment').symm⟩
    · rw [Function.update_of_ne hkey'] at hsegment'
      exact .inr hsegment'
  refine ⟨h.rotation_eq, ?_, ?_, ?_, hkept.stored⟩
  · intro key' segment' hsegment'
    rcases hopen key' segment' hsegment' with ⟨rfl, rfl⟩ | hsegment'
    · exact hkey
    · exact h.keyed key' segment' hsegment'
  · intro key₁ key₂ segment₁ segment₂ h₁ h₂ heq
    rcases hopen key₁ segment₁ h₁ with ⟨rfl, rfl⟩ | hold₁
    · rcases hopen key₂ segment₂ h₂ with ⟨rfl, -⟩ | hold₂
      · rfl
      · exact absurd heq.symm (hother key₂ segment₂ hold₂)
    · rcases hopen key₂ segment₂ h₂ with ⟨rfl, rfl⟩ | hold₂
      · exact absurd heq (hother key₁ segment₁ hold₁)
      · exact h.apart key₁ key₂ segment₁ segment₂ hold₁ hold₂ heq
  · intro key' segment' hsegment'
    rcases hopen key' segment' hsegment' with ⟨rfl, rfl⟩ | hsegment'
    · have hfile : disk.files ⟨header.segmentId, .opened⟩ = some (segmentContents crc header []) := by
        rw [hdisk, Disk.files_create_append, segmentContents, recordBytes, List.flatMap_nil, List.append_nil]
      refine ⟨?_, ?_, ⟨[], ?_⟩, fun _ => ⟨?_, ?_, ?_, ?_, rfl⟩⟩
      · exact (hcreates.files _ (.inl rfl)).trans (hfree .sealed)
      · simp [hframes]
      · simpa [hframes] using hfile
      · simpa [hframes] using hfile
      · simp [hframes, length_segmentContents, regionEnd]
      · simp [hframes]
      · simp [hframes]
    · exact hkept.segments key' segment' hsegment'

/-- The other open segments do not notice what happens to the entry of `key`, to its file and to its frames. -/
theorem replaced (h : state.Sound crc rotation entries live) (hsegment : state.openSegments key = some segment)
    {segment' : OpenSegment} {entries' : List Accepted} (hheader : segment'.header = segment.header)
    (hgrows : Disk.Grows segment.header.segmentId state.disk disk) (hlive : live' → live)
    (hframes : ∀ segmentId, segmentId ≠ segment.header.segmentId → framesOf segmentId entries' = framesOf segmentId entries)
    (hsound : segment'.Sound crc disk (framesOf segment.header.segmentId entries') live') :
    ((state.withDisk disk).insert key segment').Sound crc rotation entries' live' := by
  have hopen : ∀ key' opened, ((state.withDisk disk).insert key segment').openSegments key' = some opened →
      key' = key ∧ opened = segment' ∨ key' ≠ key ∧ state.openSegments key' = some opened := by
    intro key' opened hopened
    rw [openSegments_insert, openSegments_withDisk] at hopened
    by_cases hkey' : key' = key
    · subst hkey'
      rw [Function.update_self] at hopened
      exact .inl ⟨rfl, (Option.some.inj hopened).symm⟩
    · rw [Function.update_of_ne hkey'] at hopened
      exact .inr ⟨hkey', hopened⟩
  -- every entry has the header that the entry of its key had before
  have hbefore : ∀ key' opened, ((state.withDisk disk).insert key segment').openSegments key' = some opened →
      ∃ opened', state.openSegments key' = some opened' ∧ opened.header = opened'.header := by
    intro key' opened hopened
    rcases hopen key' opened hopened with ⟨rfl, rfl⟩ | ⟨-, hopened⟩
    · exact ⟨segment, hsegment, hheader⟩
    · exact ⟨opened, hopened, rfl⟩
  refine ⟨h.rotation_eq, ?_, ?_, ?_, ?_⟩
  · intro key' opened hopened
    obtain ⟨opened', hopened', heq⟩ := hbefore key' opened hopened
    rw [heq]
    exact h.keyed key' opened' hopened'
  · intro key₁ key₂ opened₁ opened₂ h₁ h₂ heq
    obtain ⟨before₁, hbefore₁, heq₁⟩ := hbefore key₁ opened₁ h₁
    obtain ⟨before₂, hbefore₂, heq₂⟩ := hbefore key₂ opened₂ h₂
    exact h.apart key₁ key₂ before₁ before₂ hbefore₁ hbefore₂ (by rw [← heq₁, ← heq₂, heq])
  · intro key' opened hopened
    rcases hopen key' opened hopened with ⟨rfl, rfl⟩ | ⟨hkey', hopened⟩
    · rw [disk_insert, disk_withDisk, hheader]
      exact hsound
    · have hne : opened.header.segmentId ≠ segment.header.segmentId := fun heq =>
        hkey' (h.apart key' key opened segment hopened hsegment heq)
      rw [disk_insert, disk_withDisk, hframes _ hne]
      have hkept := (h.segments key' opened hopened).congr fun name => hgrows.others ⟨_, name⟩ hne
      exact ⟨hkept.unsealed, hkept.started, hkept.written, fun hlive' => hkept.counts (hlive hlive')⟩
  · intro segmentId hne
    by_cases hid : segmentId = segment.header.segmentId
    · subst hid
      obtain ⟨rest, hrest⟩ := hsound.written
      rw [hheader] at hrest
      exact ⟨segment.header, .opened, rest, hrest⟩
    · rw [hframes segmentId hid] at hne ⊢
      obtain ⟨header, name, rest, hfile⟩ := h.stored segmentId hne
      exact ⟨header, name, rest, (hgrows.others ⟨segmentId, name⟩ hid).trans hfile⟩

theorem torn (h : state.Sound crc rotation entries live) (hsegment : state.openSegments key = some segment)
    {segment' : OpenSegment} (hheader : segment'.header = segment.header) (bytes : List UInt8) :
    ((state.withDisk (state.disk.append segment.header.segmentId bytes)).insert key segment').Sound crc rotation entries
      False := by
  have hsound := h.segments key segment hsegment
  refine h.replaced hsegment hheader Disk.grows_append False.elim (fun _ _ => rfl) ⟨?_, ?_, ?_, False.elim⟩
  · rw [hheader, Disk.files_append_of_ne (by simp), hsound.unsealed]
  · rw [hheader]
    exact hsound.started
  · obtain ⟨rest, hrest⟩ := hsound.written
    refine ⟨rest ++ bytes, ?_⟩
    rw [hheader, Disk.files_append_self, hrest, Option.map_some, List.append_assoc]

theorem appended (h : state.Sound crc rotation entries True) (hsegment : state.openSegments frame.key = some segment)
    (hstart : framesOf segment.header.segmentId entries = [] →
      segment.header.startSessionTime = frame.metadata.sessionTime)
    {record : List UInt8} (hrecord : encodeFrameRecord crc frame = .ok record) :
    ((state.withDisk (state.disk.append segment.header.segmentId (segment.buffered ++ record))).insert frame.key
      (segment.counting frame record.length)).Sound crc rotation
        (entries ++ [(frame, ⟨segment.header.segmentId, segment.fileLen⟩)]) True := by
  have hsound := h.segments frame.key segment hsegment
  have hcounts := hsound.counts trivial
  obtain ⟨hencodable, rfl⟩ := encodeFrameRecord_eq_bytes.1 hrecord
  have hcontents : segmentContents crc segment.header (framesOf segment.header.segmentId entries ++ [frame]) =
      segmentContents crc segment.header (framesOf segment.header.segmentId entries) ++ frame.record.bytes crc := by
    rw [segmentContents, recordBytes_append, ← List.append_assoc]
    exact congrArg (_ ++ ·) (List.append_nil _)
  have hfile : (state.disk.append segment.header.segmentId (segment.buffered ++ frame.record.bytes crc)).files
      ⟨segment.header.segmentId, .opened⟩ =
        some (segmentContents crc segment.header (framesOf segment.header.segmentId entries ++ [frame])) := by
    rw [Disk.files_append_self, hcounts.file, hcounts.buffered, Option.map_some, hcontents, List.nil_append]
  refine h.replaced hsegment rfl Disk.grows_append id ?_ ?_
  · intro segmentId hne
    exact framesOf_concat_of_ne (Ne.symm hne)
  · rw [framesOf_concat_self]
    refine ⟨?_, ?_, ⟨[], by rw [List.append_nil]; exact hfile⟩, fun _ => ⟨hfile, ?_, ?_, ?_, rfl⟩⟩
    · exact (Disk.files_append_of_ne (by simp)).trans hsound.unsealed
    · intro first hfirst
      cases hframes : framesOf segment.header.segmentId entries with
      | nil =>
        rw [hframes] at hfirst
        obtain rfl : frame = first := by simpa using hfirst
        exact hstart hframes
      | cons head tail =>
        refine hsound.started first ?_
        rw [hframes] at hfirst ⊢
        exact hfirst
    · change segment.fileLen + _ = (segmentContents crc segment.header _).length
      rw [hcontents, List.length_append, hcounts.fileLen]
    · change segment.recordCount + 1 = _
      rw [hcounts.recordCount, List.length_append, List.length_singleton]
    · change segment.totalPayload + frame.bytes.length = _
      rw [hcounts.totalPayload, List.map_append, List.sum_append, List.map_singleton, List.sum_singleton]

theorem placed (h : state.Sound crc rotation entries True) (hsegment : state.openSegments frame.key = some segment)
    (hrotate : segment.shouldRotate frame rotation = false) (hencodable : frame.Encodable) :
    Placed rotation entries (frame, ⟨segment.header.segmentId, segment.fileLen⟩) := by
  have hsound := h.segments frame.key segment hsegment
  have hcounts := hsound.counts trivial
  refine ⟨hencodable, hcounts.fileLen.trans (length_segmentContents _ _), ?_⟩
  intro first hfirst
  have hcount : segment.recordCount ≠ 0 := by
    rw [hcounts.recordCount]
    intro hnil
    rw [List.length_eq_zero_iff.1 hnil] at hfirst
    cases hfirst
  rw [OpenSegment.shouldRotate, if_neg hcount, Bool.or_eq_false_iff, decide_eq_false_iff_not, decide_eq_false_iff_not,
    hsound.started first hfirst] at hrotate
  exact ⟨not_le.1 hrotate.1, not_le.1 hrotate.2⟩

end WorkerState.Sound

/-- Between two commands of a live writer every open segment has a frame. -/
structure WorkerState.Settled (crc : Crc32) (rotation : RotationConfig) (entries : List Accepted) (live : Prop)
    (state : WorkerState) : Prop extends state.Sound crc rotation entries live where
  occupied : live → ∀ key segment, state.openSegments key = some segment →
    framesOf segment.header.segmentId entries ≠ []

theorem WorkerState.Settled.mono (h : state.Settled crc rotation entries live) (hlive : live' → live) :
    state.Settled crc rotation entries live' :=
  ⟨h.toSound.mono hlive, fun hlive' => h.occupied (hlive hlive')⟩

theorem WorkerState.Settled.removed (h : state.Settled crc rotation entries live)
    (hsegment : state.openSegments key = some segment) (hgrows : Disk.Grows segment.header.segmentId state.disk disk) :
    ((state.remove key).withDisk disk).Settled crc rotation entries live := by
  refine ⟨h.toSound.removed hsegment hgrows, fun hlive key' segment' hsegment' => ?_⟩
  rw [openSegments_withDisk, openSegments_remove] at hsegment'
  by_cases hkey : key' = key
  · subst hkey
    simp at hsegment'
  · rw [Function.update_of_ne hkey] at hsegment'
    exact h.occupied hlive key' segment' hsegment'

theorem settled_sealEntry {io : SealOutcomes} (h : state.Settled crc rotation entries live)
    (hsegment : state.openSegments key = some segment) :
    Ends (WorkerState.sealEntry crc io key segment state)
      (fun _ state' => state'.Settled crc rotation entries live ∧ state'.openSegments key = none ∧
        ∀ name, name.segmentId ≠ segment.header.segmentId → state'.disk.files name = state.disk.files name)
      (fun _ state' => state'.Settled crc rotation entries live) := by
  unfold WorkerState.sealEntry onDisk
  rw [ends_bind, ends_modify, ends_zoom]
  refine (sealSegment_grows crc io segment state.disk).mono (fun _ disk hgrows => ?_) fun _ disk hgrows => ?_
  · refine ⟨h.removed hsegment hgrows, ?_, hgrows.others⟩
    rw [WorkerState.openSegments_withDisk, WorkerState.openSegments_remove, Function.update_self]
  · exact h.removed hsegment hgrows

theorem settled_flushKeys {io : SegmentKey → SealOutcomes} {keys : List SegmentKey}
    (h : state.Settled crc rotation entries live) :
    Ends (WorkerState.flushKeys crc io keys state) (fun _ state' => state'.Settled crc rotation entries live)
      (fun error state' => state'.Settled crc rotation entries (error.classified.isWriterTerminal = false ∧ live)) := by
  refine (ends_each (I := fun _ state' => state'.Settled crc rotation entries live) h ?_).mono
    (fun _ _ hdone => ?_) fun _ _ hfailed => hfailed
  · intro _ key _ _ state' _ _ hstate'
    unfold WorkerState.flushKey
    rw [ends_bind, ends_get, ends_bind, ends_orThrow]
    refine ⟨fun segment hsegment => ?_, fun _ => hstate'.mono And.right⟩
    exact (settled_sealEntry hstate' hsegment).mono (fun _ _ hsealed => hsealed.1) fun _ _ hsealed =>
      hsealed.mono And.right
  · obtain ⟨_, _, _, hstate'⟩ := hdone
    exact hstate'

theorem settled_rotate {io : SealOutcomes} (h : state.Settled crc rotation entries True) :
    Ends (WorkerState.rotate crc io frame state)
      (fun _ state' => state'.Settled crc rotation entries True ∧
        (∀ segment, state'.openSegments frame.key = some segment → segment.shouldRotate frame rotation = false) ∧
        ∀ name, (∀ segment ∈ state.openSegments frame.key, segment.header.segmentId ≠ name.segmentId) →
          state'.disk.files name = state.disk.files name)
      (fun _ state' => state'.Settled crc rotation entries True) := by
  unfold WorkerState.rotate
  rw [ends_bind, ends_get]
  cases hfilter : (state.openSegments frame.key).filter (·.shouldRotate frame state.rotation) with
  | none =>
    refine ⟨h, fun segment hsegment => ?_, fun _ _ => rfl⟩
    rw [hsegment, Option.filter_eq_none_iff] at hfilter
    simpa [h.rotation_eq] using hfilter segment rfl
  | some segment =>
    obtain ⟨hsegment, -⟩ := Option.filter_eq_some_iff.1 hfilter
    change Ends ((WorkerState.sealEntry crc io frame.key segment >>= fun registration => pure (some registration)) state) _ _
    rw [ends_bind]
    refine (settled_sealEntry h hsegment).mono (fun registration state' hsealed => ?_) fun _ _ hfailed => hfailed
    obtain ⟨hstate', hnone, hothers⟩ := hsealed
    refine ⟨hstate', fun segment' hsegment' => ?_, fun name hname => hothers name (Ne.symm (hname segment hsegment))⟩
    rw [hnone] at hsegment'
    cases hsegment'

theorem sound_openEntry {io : OpenOutcomes} (h : state.Settled crc rotation entries True)
    (hrotate : ∀ segment, state.openSegments frame.key = some segment → segment.shouldRotate frame rotation = false)
    (hfresh : ∀ turn, state.disk.files ⟨(io.attempts turn).segmentId, .sealed⟩ = none) :
    Ends (WorkerState.openEntry crc io frame state)
      (fun segment state' => state'.Sound crc rotation entries True ∧ state'.openSegments frame.key = some segment ∧
        segment.shouldRotate frame rotation = false ∧
        (framesOf segment.header.segmentId entries = [] →
          segment.header.startSessionTime = frame.metadata.sessionTime) ∧
        ∀ key segment', key ≠ frame.key → state'.openSegments key = some segment' →
          framesOf segment'.header.segmentId entries ≠ [])
      (fun error state' => error.classified.isWriterTerminal = true ∧ state'.Sound crc rotation entries True) := by
  unfold WorkerState.openEntry
  rw [ends_bind, ends_get]
  cases hentry : state.openSegments frame.key with
  | some segment =>
    refine ⟨h.toSound, hentry, hrotate segment hentry, fun hnil => ?_, fun key segment' _ hsegment' => ?_⟩
    · exact absurd hnil (h.occupied trivial frame.key segment hentry)
    · exact h.occupied trivial key segment' hsegment'
  | none =>
    simp only [ends_bind, onDisk, ends_zoom]
    refine ends_openSegment (fun turn hfree => ?_) fun error disk hterminal hcreates => ?_
    · have hfiles : ∀ name, state.disk.files ⟨(io.attempts turn).segmentId, name⟩ = none := by
        intro name
        cases name with
        | opened => exact hfree
        | sealed => exact hfresh turn
      have hopened := h.toSound.opened (openHeader state.rotation (io.attempts turn).segmentId frame) rfl hfiles
        frame.metadata.sessionTime frame.metadata.sessionTime frame.metadata.observedTime
      simp only [ends_modify, ends_pure]
      refine ⟨hopened, ?_, rfl, fun _ => rfl, fun key segment' hne hsegment' => ?_⟩
      · rw [WorkerState.openSegments_insert, Function.update_self]
      · rw [WorkerState.openSegments_insert, Function.update_of_ne hne, WorkerState.openSegments_withDisk] at hsegment'
        exact h.occupied trivial key segment' hsegment'
    · exact ⟨hterminal, h.toSound.onlyCreates hcreates⟩

theorem settled_append {io : AppendOutcomes} (h : state.Settled crc rotation entries True)
    (hfresh : FreshIds state (.append frame io)) :
    Ends (WorkerState.append crc io frame state)
      (fun commit state' => state'.Settled crc rotation (entries ++ [(frame, commit.address)]) True ∧
        Placed rotation entries (frame, commit.address))
      (fun error state' => state'.Settled crc rotation entries (error.classified.isWriterTerminal = false)) := by
  unfold WorkerState.append
  rw [ends_bind]
  refine (settled_rotate h).mono (fun sealedSegment state₁ hrotated => ?_) fun _ _ hfailed => hfailed.mono fun _ => trivial
  obtain ⟨hstate₁, hrotate, hfiles⟩ := hrotated
  have hfresh₁ : ∀ turn, state₁.disk.files ⟨(io.opening.attempts turn).segmentId, .sealed⟩ = none := by
    intro turn
    rw [hfiles _ fun segment hsegment => (hfresh turn).2 segment hsegment]
    exact (hfresh turn).1
  rw [ends_bind]
  refine (sound_openEntry hstate₁ hrotate hfresh₁).mono (fun segment state₂ hopened => ?_) fun error state₂ hfailed => ?_
  · obtain ⟨hstate₂, hsegment, htakes, hstart, hothers⟩ := hopened
    unfold onSegment
    rw [ends_zoom, ends_bind]
    refine ends_append (fun record hrecord _ => ?_) fun error segment' bytes hterminal hheader => ?_
    · have happended := hstate₂.appended hsegment hstart hrecord
      have hplaced := hstate₂.placed hsegment htakes (encodeFrameRecord_eq_bytes.1 hrecord).1
      refine ⟨⟨happended, fun _ key segment' hsegment' => ?_⟩, hplaced⟩
      rw [WorkerState.openSegments_insert, WorkerState.openSegments_withDisk] at hsegment'
      by_cases hkey : key = frame.key
      · subst hkey
        rw [Function.update_self] at hsegment'
        cases hsegment'
        change framesOf segment.header.segmentId _ ≠ []
        rw [framesOf_concat_self]
        exact List.append_ne_nil_of_right_ne_nil _ (List.cons_ne_nil _ _)
      · rw [Function.update_of_ne hkey] at hsegment'
        intro hnil
        refine hothers key segment' hkey hsegment' (List.eq_nil_of_subset_nil fun first hfirst => ?_)
        rw [← hnil]
        simp only [framesOf, List.filter_append, List.map_append, List.mem_append]
        exact .inl hfirst
    · exact ⟨(hstate₂.torn hsegment hheader bytes).mono (by rw [hterminal]; exact nofun), by rw [hterminal]; exact nofun⟩
  · exact ⟨hfailed.2.mono fun _ => trivial, by rw [hfailed.1]; exact nofun⟩

end

end Krometrail
