import Krometrail.Artifacts.EpochGaps
import Krometrail.Artifacts.Rows
import Krometrail.Lib.Failures
import Krometrail.Lib.Picks
import Krometrail.Vision.Sampling

/-!
# Bounded plans

A plan with too many frames is cut to an evenly spaced sample of them.  The sample keeps a requested frame, each frame keeps
its place in the retained source, and gaps and markers are clamped to the span of the sample, so that a sequence can be
built of the sample where one can be built of the plan.
-/

namespace Krometrail.Epochs

open Cache (SourceFingerprint Sha256Digest)
open Picks Results
open Sorting
open Vision (selectIndices)

structure VisualEpoch where
  index : Nat
  frameIds : List FrameId
  image : PixelDimensions
  viewport : PixelDimensions
  deviceScaleFactor : DeviceScaleFactor

/-- An `EpochPlan` with what it says of its sources. -/
structure SourcePlan where
  descriptor : VisualEpoch
  sourceFingerprints : List Publications.Source
  cacheSources : List SourceFingerprint
  frames : List EncodedFrame
  markers : List ArtifactMarker
  gaps : List DeclaredGap
  decodedBytes : Nat
  sourceFrameIds : List FrameId
  sourceIndices : List Nat
  sourceRange : SessionRange

def fromFrame (sha256 : List UInt8 → Sha256Digest) (frame : EncodedFrame) : SourceFingerprint :=
  { frameId := frame.metadata.id, captureOrdinal := frame.metadata.captureOrdinal.value
    sessionTimeNanos := frame.metadata.sessionTime.nanos, format := frame.metadata.format
    imageWidth := frame.metadata.image.width, imageHeight := frame.metadata.image.height
    viewportWidth := frame.metadata.viewport.width, viewportHeight := frame.metadata.viewport.height
    deviceScaleBits := frame.metadata.deviceScaleFactor.bits, encodedSha256 := sha256 frame.bytes }

def storeFingerprint (source : SourceFingerprint) : Publications.Source := ⟨source.frameId, source.encodedSha256⟩

/-- The rest of `plan_epoch`; no planned epoch is without frames. -/
def SourcePlan.ofEpoch (sha256 : List UInt8 → Sha256Digest) (plan : EpochPlan) : Option SourcePlan :=
  plan.frames.head?.map fun first =>
    { descriptor :=
        { index := plan.index, frameIds := plan.frames.map (·.metadata.id), image := first.metadata.image,
          viewport := first.metadata.viewport, deviceScaleFactor := first.metadata.deviceScaleFactor }
      sourceFingerprints := (plan.frames.map (fromFrame sha256)).map storeFingerprint
      cacheSources := plan.frames.map (fromFrame sha256)
      frames := plan.frames
      markers := plan.markers
      gaps := plan.gaps
      decodedBytes := plan.decodedBytes
      sourceFrameIds := plan.frames.map (·.metadata.id)
      sourceIndices := List.range plan.frames.length
      sourceRange := plan.sourceRange }

def hexByte (byte : UInt8) : List Char := [Nat.digitChar (byte.toNat / 16), Nat.digitChar (byte.toNat % 16)]

/-- A frame id as it is displayed. -/
def hyphenated (id : FrameId) : String :=
  let hex (start count : Nat) := String.ofList (((id.uuid.bytes.drop start).take count).flatMap hexByte)
  hex 0 4 ++ "-" ++ hex 4 2 ++ "-" ++ hex 6 2 ++ "-" ++ hex 8 2 ++ "-" ++ hex 10 6

/-- `max_by_key`: the last of the greatest. -/
def lastMax {α : Type} (key : α → Nat) (l : List α) : Option α :=
  l.foldl (fun best a => match best with
    | none => some a
    | some b => if key b ≤ key a then some a else some b) none

/-- The indices of the sample: those of `select_indices`, one of them replaced by that of a requested frame. -/
def SourcePlan.boundedIndices (plan : SourcePlan) (maxFrames : Nat) (includeFrameId : Option FrameId) : Result (List Nat) :=
  let indices := selectIndices plan.frames.length maxFrames
  match includeFrameId.bind fun frameId => (plan.frames.findIdx? fun frame => decide (frame.metadata.id = frameId)).map (·, frameId) with
  | none => .ok indices
  | some (index, frameId) =>
    if index ∈ indices then .ok indices
    else
      -- the position is behind its candidate
      let candidates := indices.zipIdx.filter fun candidate =>
        decide (maxFrames < 3 ∨ candidate.1 ≠ 0 ∧ candidate.1 ≠ plan.frames.length - 1)
      match lastMax (·.1) candidates with
      | none => .error ((generationError ("bounded artifact selection could not retain frame " ++ hyphenated frameId)).withRecovery
          "retry with a larger tile limit or a locator within the selected frames")
      | some (_, replace) => .ok (sortByKey id (indices.set replace index))

def clampMarkers (markers : List ArtifactMarker) (start stop : SessionTime) : List ArtifactMarker :=
  markers.filter fun marker => decide (start ≤ marker.sessionTime ∧ marker.sessionTime ≤ stop)

/-- `clamp_declared_gaps`, in the order of the clamped starts. -/
def clampDeclaredGaps (gaps : List DeclaredGap) (start stop : SessionTime) : Result (List DeclaredGap) := do
  let clamped ← gaps.mapM fun gap => do
    let range ← (SessionRange.new (clampRange gap.range start stop).1 (clampRange gap.range start stop).2).mapError fun _ =>
      visionError "time range start must not follow its end"
    return { gap with range }
  return sortByKey (·.range.fst) clamped

/-- The sum of the decoded lengths. -/
def totalDecoded (overflow : KrometrailError) (frames : List EncodedFrame) : Result Nat :=
  frames.foldlM (fun total frame => do okOr (checkedAdd total (← decodedLen frame)) overflow) 0

/-- `bounded_plan`; an index is never out of bounds. -/
def SourcePlan.bounded (plan : SourcePlan) (maxFrames : Nat) (includeFrameId : Option FrameId) : Result SourcePlan :=
  if plan.frames.length ≤ maxFrames then .ok plan
  else do
    let indices ← plan.boundedIndices maxFrames includeFrameId
    let frames := pick plan.frames indices
    let bytes ← totalDecoded (limitError "bounded decoded bytes overflow") frames
    match frames.head?, frames.getLast? with
    | some first, some last => do
      let gaps ← clampDeclaredGaps plan.gaps (time first) (time last)
      return { plan with
        frames
        sourceFingerprints := pick plan.sourceFingerprints indices
        cacheSources := pick plan.cacheSources indices
        decodedBytes := bytes
        markers := clampMarkers plan.markers (time first) (time last)
        gaps
        sourceIndices := pick plan.sourceIndices indices }
    -- a sample of at least one frame is never empty; without one the process panics here
    | _, _ => .error (generationError "bounded artifact selection is non-empty")

/-! ### Sequences -/

/-- A decoded frame, always in straight RGBA. -/
structure DecodedFrame where
  id : FrameId
  timestamp : SessionTime
  dimensions : PixelDimensions
  pixels : List UInt8

/-- `decode_frame`; `pixels` stands for its checks of the size, the image codec and the expansion to RGBA. -/
def decodeFrame (pixels : EncodedFrame → Result (List UInt8)) (frame : EncodedFrame) : Result DecodedFrame := do
  let rgba ← pixels frame
  return { id := frame.metadata.id, timestamp := time frame, dimensions := frame.metadata.image, pixels := rgba }

/-- A sequence without a region and a mask, which `decode_plan` does not declare. -/
structure FrameSequence where
  frames : List DecodedFrame
  markers : List ArtifactMarker
  gaps : List DeclaredGap
  sourceFrameIds : List FrameId
  sourceIndices : Option (List Nat)
  sourceRange : Option SessionRange

/-- The checks of the frames in `assemble`. -/
def validateFrames (dimensions : PixelDimensions) : List DecodedFrame → List DecodedFrame → Result Unit
  | _, [] => .ok ()
  | earlier, frame :: rest => do
    refuse (∃ prior ∈ earlier, prior.id = frame.id) (visionError "frame identifiers must be unique")
    refuse (∃ prior ∈ earlier.getLast?, frame.timestamp < prior.timestamp)
      (visionError "frame timestamps must be nondecreasing")
    refuse (frame.dimensions ≠ dimensions) (visionError "all frames must use common dimensions and pixel format")
    validateFrames dimensions (earlier ++ [frame]) rest

/-- `FrameSequence::new`: the source is the frames. -/
def FrameSequence.new (frames : List DecodedFrame) (markers : List ArtifactMarker) (gaps : List DeclaredGap) :
    Result FrameSequence :=
  match frames.head?, frames.getLast? with
  | some first, some last => do
    validateFrames first.dimensions [] frames
    let range ← (SessionRange.new first.timestamp last.timestamp).mapError fun _ =>
      visionError "time range start must not follow its end"
    validateMarkers range [] markers
    validateGaps range [] gaps
    return { frames, markers, gaps, sourceFrameIds := frames.map (·.id), sourceIndices := none, sourceRange := none }
  | _, _ => .error (visionError "frame sequence must not be empty")

/-- The check of a decoded frame against its declared source. -/
def checkSource (sourceFrameIds : List FrameId) (item : Nat × DecodedFrame) : Result Unit :=
  match sourceFrameIds[item.1]? with
  | none => .error (visionError "source index lies outside the retained source frames")
  | some id => refuse (id ≠ item.2.id) (visionError "decoded frame does not match its declared source frame")

/-- `validate_source_provenance`, for declared indices and range. -/
def validateSourceProvenance (frames : List DecodedFrame) (sourceFrameIds : List FrameId) (indices : List Nat)
    (sourceRange : SessionRange) : Result Unit := do
  refuse (indices.length ≠ frames.length) (visionError "source indices must identify every decoded frame")
  refuse (¬ sourceFrameIds.Nodup) (visionError "source frame identifiers must be unique")
  refuse (¬ indices.IsChain (· < ·)) (visionError "source indices must be strictly increasing")
  let _ ← (indices.zip frames).mapM (checkSource sourceFrameIds)
  refuse (¬ (∃ first ∈ frames.head?, first.timestamp ∈ sourceRange) ∨ ¬ ∃ last ∈ frames.getLast?, last.timestamp ∈ sourceRange)
    (visionError "the declared source range must contain the decoded frame range")

def FrameSequence.withSourceProvenance (sequence : FrameSequence) (sourceFrameIds : List FrameId) (sourceIndices : List Nat)
    (sourceRange : SessionRange) : Result FrameSequence := do
  validateSourceProvenance sequence.frames sourceFrameIds sourceIndices sourceRange
  validateMarkers sourceRange [] sequence.markers
  validateGaps sourceRange [] sequence.gaps
  return { sequence with sourceFrameIds, sourceIndices := some sourceIndices, sourceRange := some sourceRange }

/-- `decode_plan`, not cancelled. -/
def decodePlan (pixels : EncodedFrame → Result (List UInt8)) (plan : SourcePlan) : Result FrameSequence := do
  let decoded ← plan.frames.mapM (decodeFrame pixels)
  let sequence ← FrameSequence.new decoded plan.markers plan.gaps
  sequence.withSourceProvenance plan.sourceFrameIds plan.sourceIndices plan.sourceRange

section Places

variable {plan : SourcePlan} {maxFrames : Nat} {includeFrameId : Option FrameId}

theorem foldl_lastMax {α : Type} (key : α → Nat) (l : List α) (b : α) :
    ∃ a, l.foldl (fun best a => match best with
      | none => some a
      | some b => if key b ≤ key a then some a else some b) (some b) = some a ∧ (a = b ∨ a ∈ l) := by
  induction l generalizing b with
  | nil => exact ⟨b, rfl, .inl rfl⟩
  | cons c l ih =>
    rw [List.foldl_cons]
    dsimp only
    split
    · obtain ⟨a, ha, hmem⟩ := ih c
      exact ⟨a, ha, .inr (List.mem_cons.2 hmem)⟩
    · obtain ⟨a, ha, hmem⟩ := ih b
      exact ⟨a, ha, hmem.imp_right (List.mem_cons_of_mem c)⟩

theorem lastMax_mem {α : Type} (key : α → Nat) {l : List α} (h : l ≠ []) : ∃ a, lastMax key l = some a ∧ a ∈ l := by
  obtain ⟨b, l, rfl⟩ := List.exists_cons_of_ne_nil h
  obtain ⟨a, ha, hmem⟩ := foldl_lastMax key l b
  exact ⟨a, ha, List.mem_cons.2 hmem⟩

variable {indices : List Nat}

theorem exists_inner {count : Nat} (hincreasing : indices.Pairwise (· < ·)) (hlt : ∀ i ∈ indices, i < count)
    (hlength : 3 ≤ indices.length) : ∃ i ∈ indices, i ≠ 0 ∧ i ≠ count - 1 := by
  have h01 := List.pairwise_iff_getElem.1 hincreasing 0 1 (by omega) (by omega) (by omega)
  have h12 := List.pairwise_iff_getElem.1 hincreasing 1 2 (by omega) (by omega) (by omega)
  have h2 := hlt indices[2] (List.getElem_mem _)
  exact ⟨indices[1], List.getElem_mem _, by omega, by omega⟩

/-- What the sampled indices promise. -/
structure Sampled (plan : SourcePlan) (maxFrames : Nat) (includeFrameId : Option FrameId) (indices : List Nat) : Prop where
  length : indices.length = maxFrames
  increasing : indices.Pairwise (· < ·)
  lt : ∀ i ∈ indices, i < plan.frames.length
  endpoints : 3 ≤ maxFrames → 0 ∈ indices ∧ plan.frames.length - 1 ∈ indices
  includes : ∀ frameId ∈ includeFrameId, (∃ frame ∈ plan.frames, frame.metadata.id = frameId) →
    ∃ i ∈ indices, ∃ frame, plan.frames[i]? = some frame ∧ frame.metadata.id = frameId

theorem replaced_spec {count index candidate place : Nat} (hincreasing : indices.Pairwise (· < ·))
    (hlt : ∀ i ∈ indices, i < count) (hindex : index < count) (hfresh : index ∉ indices)
    (hplace : indices[place]? = some candidate) :
    (sortByKey id (indices.set place index)).length = indices.length ∧
      (sortByKey id (indices.set place index)).Pairwise (· < ·) ∧
      (∀ i ∈ sortByKey id (indices.set place index), i < count) ∧ index ∈ sortByKey id (indices.set place index) ∧
      ∀ i ∈ indices, i ≠ candidate → i ∈ sortByKey id (indices.set place index) := by
  obtain ⟨hbound, rfl⟩ := List.getElem?_eq_some_iff.1 hplace
  have hperm := perm_sortByKey id (indices.set place index)
  have hnodup : (indices.set place index).Nodup := by
    have hdistinct : indices.Nodup := hincreasing.imp fun hlt => hlt.ne
    exact hdistinct.set hfresh
  refine ⟨by rw [hperm.length_eq, List.length_set], ?_, fun i hi => ?_, ?_, fun i hi hne => ?_⟩
  · have hboth := (pairwise_sortByKey id (indices.set place index)).and (hperm.nodup_iff.2 hnodup)
    exact hboth.imp fun hle => lt_of_le_of_ne hle.1 hle.2
  · rcases List.mem_or_eq_of_mem_set (mem_sortByKey.1 hi) with hold | rfl
    · exact hlt i hold
    · exact hindex
  · exact mem_sortByKey.2 (List.mem_set hbound index)
  · obtain ⟨other, hother, rfl⟩ := List.mem_iff_getElem.1 hi
    refine mem_sortByKey.2 (List.mem_iff_getElem.2 ⟨other, by rw [List.length_set]; exact hother, ?_⟩)
    rw [List.getElem_set_ne]
    rintro rfl
    exact hne rfl

theorem exists_candidate (hincreasing : indices.Pairwise (· < ·)) (hlt : ∀ i ∈ indices, i < plan.frames.length)
    (hlength : indices.length = maxFrames) (hbudget : 1 ≤ maxFrames) :
    ∃ candidate place, lastMax (·.1) (indices.zipIdx.filter fun candidate =>
        decide (maxFrames < 3 ∨ candidate.1 ≠ 0 ∧ candidate.1 ≠ plan.frames.length - 1)) = some (candidate, place) ∧
      indices[place]? = some candidate ∧ (3 ≤ maxFrames → candidate ≠ 0 ∧ candidate ≠ plan.frames.length - 1) := by
  have hsome : ∃ i ∈ indices, maxFrames < 3 ∨ i ≠ 0 ∧ i ≠ plan.frames.length - 1 := by
    by_cases hsmall : maxFrames < 3
    · exact ⟨indices[0], List.getElem_mem _, .inl hsmall⟩
    · obtain ⟨i, hi, hinner⟩ := exists_inner hincreasing hlt (by omega)
      exact ⟨i, hi, .inr hinner⟩
  obtain ⟨i, hi, hinner⟩ := hsome
  obtain ⟨place, hplace⟩ := List.mem_iff_getElem?.1 hi
  have hcandidates : (indices.zipIdx.filter fun candidate =>
      decide (maxFrames < 3 ∨ candidate.1 ≠ 0 ∧ candidate.1 ≠ plan.frames.length - 1)) ≠ [] :=
    List.ne_nil_of_mem (List.mem_filter.2 ⟨List.mk_mem_zipIdx_iff_getElem?.2 hplace, decide_eq_true hinner⟩)
  obtain ⟨⟨candidate, place'⟩, hmax, hmem⟩ := lastMax_mem (·.1) hcandidates
  obtain ⟨hzip, hallowed⟩ := List.mem_filter.1 hmem
  refine ⟨candidate, place', hmax, List.mk_mem_zipIdx_iff_getElem?.1 hzip, fun hthree => ?_⟩
  exact (of_decide_eq_true hallowed).resolve_left (by omega)

theorem boundedIndices_spec (plan : SourcePlan) (includeFrameId : Option FrameId) (hmore : maxFrames < plan.frames.length) (hbudget : 1 ≤ maxFrames) :
    ∃ indices, plan.boundedIndices maxFrames includeFrameId = .ok indices ∧ Sampled plan maxFrames includeFrameId indices := by
  obtain ⟨hlength, hincreasing, hlt, hendpoints, -⟩ :=
    Vision.evenlySpaced_selectIndices (show 1 ≤ plan.frames.length by omega) hbudget
  rw [min_eq_right hmore.le] at hlength
  simp only [SourcePlan.boundedIndices]
  cases includeFrameId with
  | none => exact ⟨_, rfl, hlength, hincreasing, hlt, fun hthree => hendpoints (by omega), nofun⟩
  | some frameId =>
    rw [Option.bind_some]
    cases hfind : plan.frames.findIdx? fun frame => decide (frame.metadata.id = frameId) with
    | none =>
      refine ⟨_, rfl, hlength, hincreasing, hlt, fun hthree => hendpoints (by omega), ?_⟩
      rintro _ ⟨⟩ ⟨frame, hframe, hid⟩
      simpa [hid] using List.findIdx?_eq_none_iff.1 hfind frame hframe
    | some index =>
      obtain ⟨hindex, hfound, -⟩ := List.findIdx?_eq_some_iff_getElem.1 hfind
      have hincluded : ∃ frame, plan.frames[index]? = some frame ∧ frame.metadata.id = frameId :=
        ⟨_, List.getElem?_eq_getElem hindex, of_decide_eq_true hfound⟩
      rw [Option.map_some]
      dsimp only
      split
      · rename_i hmem
        refine ⟨_, rfl, hlength, hincreasing, hlt, fun hthree => hendpoints (by omega), ?_⟩
        rintro _ ⟨⟩ -
        exact ⟨index, hmem, hincluded⟩
      · rename_i hfresh
        obtain ⟨candidate, place, hmax, hplace, hinner⟩ := exists_candidate hincreasing hlt hlength hbudget
        obtain ⟨hlength', hincreasing', hlt', hmem', hkept⟩ := replaced_spec hincreasing hlt hindex hfresh hplace
        rw [hmax]
        refine ⟨_, rfl, hlength'.trans hlength, hincreasing', hlt', fun hthree => ?_, ?_⟩
        · obtain ⟨hfirst, hlast⟩ := hendpoints (by omega)
          obtain ⟨hnotFirst, hnotLast⟩ := hinner hthree
          exact ⟨hkept 0 hfirst hnotFirst.symm, hkept _ hlast hnotLast.symm⟩
        · rintro _ ⟨⟩ -
          exact ⟨index, hmem', hincluded⟩

end Places

/-! ### Clamping -/

theorem isChain_key {α κ : Type} [LinearOrder κ] (key : α → κ) {l : List α} :
    (l.IsChain fun a b => key a ≤ key b) ↔ l.Pairwise fun a b => key a ≤ key b :=
  have : IsTrans α fun a b => key a ≤ key b := ⟨fun _ _ _ => le_trans⟩
  List.isChain_iff_pairwise

section Clamping

variable {start stop : SessionTime}

theorem clampRange_eq (range : SessionRange) (h : start ≤ stop) :
    clampRange range start stop = (max start (min range.fst stop), max start (min range.snd stop)) := by
  unfold clampRange
  split
  · rename_i hbefore
    rw [max_eq_left (min_le_of_left_le (range.fst_le_snd.trans hbefore.le)), max_eq_left (min_le_of_left_le hbefore.le)]
  · rename_i hbefore
    split
    · rename_i hbehind
      rw [min_eq_right hbehind.le, min_eq_right (hbehind.le.trans range.fst_le_snd), max_eq_right h]
    · rename_i hbehind
      rw [min_eq_left (not_lt.1 hbehind), max_comm, max_eq_right (le_min (not_lt.1 hbefore) h)]

theorem clamp_le {a b : SessionTime} (h : a ≤ b) : max start (min a stop) ≤ max start (min b stop) :=
  max_le_max le_rfl (min_le_min h le_rfl)

/-- A gap and the gap with its clamped range. -/
def ClampedTo (start stop : SessionTime) (gap clamped : DeclaredGap) : Prop :=
  clamped.id = gap.id ∧ clamped.range.fst = max start (min gap.range.fst stop) ∧
    clamped.range.snd = max start (min gap.range.snd stop)

/-- What `validate_gaps` accepts. -/
structure ValidGaps (range : SessionRange) (gaps : List DeclaredGap) : Prop where
  ids : (gaps.map (·.id)).Nodup
  apart : gaps.IsChain fun prior gap => prior.range.fst ≤ gap.range.fst ∧ prior.range.snd ≤ gap.range.fst
  inside : ∀ gap ∈ gaps, gap.range.fst ∈ range ∧ gap.range.snd ∈ range

/-- What `validate_markers` accepts. -/
structure ValidMarkers (range : SessionRange) (markers : List ArtifactMarker) : Prop where
  ids : (markers.map (·.id)).Nodup
  ordered : markers.IsChain fun prior marker => prior.sessionTime ≤ marker.sessionTime
  inside : ∀ marker ∈ markers, marker.sessionTime ∈ range

theorem validateGaps_eq_ok {range : SessionRange} {gaps : List DeclaredGap} :
    validateGaps range [] gaps = .ok () ↔ ValidGaps range gaps := by
  rw [Failures.scan_eq_ok (·.id) (fun prior gap : DeclaredGap => prior.range.fst ≤ gap.range.fst ∧ prior.range.snd ≤ gap.range.fst)
    (fun gap => gap.range.fst ∈ range ∧ gap.range.snd ∈ range) (fun _ => rfl)]
  · exact ⟨fun h => ⟨h.1, h.2.1, h.2.2⟩, fun h => ⟨h.ids, h.apart, h.inside⟩⟩
  · intro before gap rest
    simp only [validateGaps, bind_eq_ok, refuse_eq_ok, not_exists, not_and, not_or, not_not, not_lt, exists_const]
    constructor
    · rintro ⟨hids, hordered, hapart, hinside, hrest⟩
      exact ⟨⟨hids, fun prior hprior => ⟨hordered prior hprior, hapart prior hprior⟩, hinside⟩, hrest⟩
    · rintro ⟨⟨hids, hrelated, hinside⟩, hrest⟩
      exact ⟨hids, fun prior hprior => (hrelated prior hprior).1, fun prior hprior => (hrelated prior hprior).2, hinside, hrest⟩

theorem validateMarkers_eq_ok {range : SessionRange} {markers : List ArtifactMarker} :
    validateMarkers range [] markers = .ok () ↔ ValidMarkers range markers := by
  rw [Failures.scan_eq_ok (·.id) (fun prior marker : ArtifactMarker => prior.sessionTime ≤ marker.sessionTime)
    (fun marker => marker.sessionTime ∈ range) (fun _ => rfl)]
  · exact ⟨fun h => ⟨h.1, h.2.1, h.2.2⟩, fun h => ⟨h.ids, h.ordered, h.inside⟩⟩
  · intro before marker rest
    simp only [validateMarkers, bind_eq_ok, refuse_eq_ok, not_exists, not_and, not_not, not_lt, exists_const]
    constructor
    · rintro ⟨hids, hordered, hinside, hrest⟩
      exact ⟨⟨hids, hordered, hinside⟩, hrest⟩
    · rintro ⟨⟨hids, hordered, hinside⟩, hrest⟩
      exact ⟨hids, hordered, hinside, hrest⟩

theorem clampedTo_apart {gaps clamped : List DeclaredGap} (h : List.Forall₂ (ClampedTo start stop) gaps clamped)
    (hapart : gaps.IsChain fun prior gap => prior.range.fst ≤ gap.range.fst ∧ prior.range.snd ≤ gap.range.fst) :
    clamped.IsChain fun prior gap => prior.range.fst ≤ gap.range.fst ∧ prior.range.snd ≤ gap.range.fst := by
  induction h with
  | nil => exact List.isChain_nil
  | cons hgap hrest ih =>
    cases hrest with
    | nil => exact List.isChain_singleton _
    | cons hnext hrest' =>
      rw [List.isChain_cons_cons] at hapart ⊢
      refine ⟨?_, ih hapart.2⟩
      rw [hgap.2.1, hgap.2.2, hnext.2.1]
      exact ⟨clamp_le hapart.1.1, clamp_le hapart.1.2⟩

theorem clampedTo_ids {gaps clamped : List DeclaredGap} (h : List.Forall₂ (ClampedTo start stop) gaps clamped) :
    clamped.map (·.id) = gaps.map (·.id) := by
  induction h with
  | nil => rfl
  | cons hgap _ ih => rw [List.map_cons, List.map_cons, hgap.1, ih]

theorem clampDeclaredGaps_ok (gaps : List DeclaredGap) (h : start ≤ stop) :
    ∃ clamped, List.Forall₂ (ClampedTo start stop) gaps clamped ∧
      clampDeclaredGaps gaps start stop = .ok (sortByKey (·.range.fst) clamped) := by
  suffices H : ∃ clamped, List.Forall₂ (ClampedTo start stop) gaps clamped ∧ (gaps.mapM fun gap => do
      let range ← (SessionRange.new (clampRange gap.range start stop).1 (clampRange gap.range start stop).2).mapError fun _ =>
        visionError "time range start must not follow its end"
      return ({ gap with range } : DeclaredGap) : Result (List DeclaredGap)) = .ok clamped by
    obtain ⟨clamped, hclamped, hrun⟩ := H
    exact ⟨clamped, hclamped, by rw [clampDeclaredGaps, hrun]; rfl⟩
  induction gaps with
  | nil => exact ⟨[], .nil, rfl⟩
  | cons gap gaps ih =>
    obtain ⟨clamped, hclamped, hrun⟩ := ih
    have hle := (clampRange_mem gap.range h).1
    have hrange : SessionRange.new (clampRange gap.range start stop).1 (clampRange gap.range start stop).2 =
        .ok ⟨clampRange gap.range start stop, hle⟩ := dif_pos hle
    refine ⟨{ gap with range := ⟨clampRange gap.range start stop, hle⟩ } :: clamped, .cons ⟨rfl, ?_, ?_⟩ hclamped, ?_⟩
    · exact congrArg Prod.fst (clampRange_eq gap.range h)
    · exact congrArg Prod.snd (clampRange_eq gap.range h)
    · rw [List.mapM_cons, hrun, hrange]
      rfl

theorem ValidGaps.clamped {range : SessionRange} {gaps clamped : List DeclaredGap} (h : ValidGaps range gaps)
    (hclamped : List.Forall₂ (ClampedTo start stop) gaps clamped) {outer : SessionRange}
    (hinside : start ∈ outer ∧ stop ∈ outer) : ValidGaps outer (sortByKey (·.range.fst) clamped) := by
  have hapart := clampedTo_apart hclamped h.apart
  have hsorted : sortByKey (·.range.fst) clamped = clamped := by
    have hstarts : clamped.Pairwise fun prior gap => prior.range.fst ≤ gap.range.fst :=
      (isChain_key _).1 (hapart.imp fun _ _ hrelated => hrelated.1)
    exact hstarts.insertionSort_eq
  rw [hsorted]
  refine ⟨clampedTo_ids hclamped ▸ h.ids, hapart, fun gap hgap => ?_⟩
  obtain ⟨source, -, -, hfirst, hlast⟩ : ∃ source ∈ gaps, ClampedTo start stop source gap := by
    obtain ⟨i, hi, rfl⟩ := List.mem_iff_getElem.1 hgap
    have hlength := hclamped.length_eq
    exact ⟨gaps[i], List.getElem_mem _, (List.forall₂_iff_get.1 hclamped).2 i (by omega) hi⟩
  rw [NonemptyInterval.mem_def, NonemptyInterval.mem_def] at hinside ⊢
  rw [hfirst, hlast]
  exact ⟨⟨hinside.1.1.trans (le_max_left _ _), max_le hinside.1.2 ((min_le_right _ _).trans hinside.2.2)⟩,
    hinside.1.1.trans (le_max_left _ _), max_le hinside.1.2 ((min_le_right _ _).trans hinside.2.2)⟩

theorem ValidMarkers.clamped {range outer : SessionRange} {markers : List ArtifactMarker} (h : ValidMarkers range markers)
    (hinside : start ∈ outer ∧ stop ∈ outer) : ValidMarkers outer (clampMarkers markers start stop) where
  ids := h.ids.sublist (List.filter_sublist.map _)
  ordered := ((isChain_key _).1 h.ordered |>.sublist List.filter_sublist).isChain
  inside := by
    intro marker hmarker
    obtain ⟨-, hspan⟩ := List.mem_filter.1 hmarker
    obtain ⟨hfirst, hlast⟩ := of_decide_eq_true hspan
    rw [NonemptyInterval.mem_def, NonemptyInterval.mem_def] at hinside
    exact NonemptyInterval.mem_def.2 ⟨hinside.1.1.trans hfirst, hlast.trans hinside.2.2⟩

end Clamping

section Building

variable {frames : List DecodedFrame} {markers : List ArtifactMarker} {gaps : List DeclaredGap}

/-- What the frame checks of `assemble` accept. -/
structure ValidFrames (dimensions : PixelDimensions) (frames : List DecodedFrame) : Prop where
  ids : (frames.map (·.id)).Nodup
  ordered : frames.IsChain fun prior frame => prior.timestamp ≤ frame.timestamp
  common : ∀ frame ∈ frames, frame.dimensions = dimensions

variable {dimensions : PixelDimensions}

theorem validateFrames_eq_ok : validateFrames dimensions [] frames = .ok () ↔ ValidFrames dimensions frames := by
  rw [Failures.scan_eq_ok (·.id) (fun prior frame : DecodedFrame => prior.timestamp ≤ frame.timestamp)
    (fun frame => frame.dimensions = dimensions) (fun _ => rfl)]
  · exact ⟨fun h => ⟨h.1, h.2.1, h.2.2⟩, fun h => ⟨h.ids, h.ordered, h.common⟩⟩
  · intro before frame rest
    simp only [validateFrames, bind_eq_ok, refuse_eq_ok, not_exists, not_and, not_not, not_lt, exists_const]
    constructor
    · rintro ⟨hids, hordered, hcommon, hrest⟩
      exact ⟨⟨hids, hordered, hcommon⟩, hrest⟩
    · rintro ⟨⟨hids, hordered, hcommon⟩, hrest⟩
      exact ⟨hids, hordered, hcommon, hrest⟩

theorem ValidFrames.pairwise (h : ValidFrames dimensions frames) :
    frames.Pairwise fun prior frame => prior.timestamp ≤ frame.timestamp :=
  (isChain_key _).1 h.ordered

theorem ValidFrames.sublist {some_ : List DecodedFrame} (h : ValidFrames dimensions frames) (hsub : some_.Sublist frames)
    : ValidFrames dimensions some_ where
  ids := h.ids.sublist (hsub.map _)
  ordered := (h.pairwise.sublist hsub).isChain
  common := fun frame hframe => h.common frame (hsub.subset hframe)

/-- The frames, their annotations and their sources fit together. -/
structure Constructible (frames : List DecodedFrame) (markers : List ArtifactMarker) (gaps : List DeclaredGap)
    (sourceFrameIds : List FrameId) (sourceIndices : List Nat) (sourceRange : SessionRange) (first last : DecodedFrame) : Prop where
  head : frames.head? = some first
  getLast : frames.getLast? = some last
  valid : ValidFrames first.dimensions frames
  decoded : ∃ range : SessionRange, range.fst = first.timestamp ∧ range.snd = last.timestamp ∧ ValidMarkers range markers ∧
    ValidGaps range gaps
  source : ValidMarkers sourceRange markers ∧ ValidGaps sourceRange gaps
  ids : sourceFrameIds.Nodup
  increasing : sourceIndices.IsChain (· < ·)
  places : List.Forall₂ (fun i (frame : DecodedFrame) => sourceFrameIds[i]? = some frame.id) sourceIndices frames
  inside : first.timestamp ∈ sourceRange ∧ last.timestamp ∈ sourceRange

theorem places_iff {sourceFrameIds : List FrameId} {indices : List Nat} :
    (indices.length = frames.length ∧ ∃ passed, (indices.zip frames).mapM (checkSource sourceFrameIds) = .ok passed) ↔
    List.Forall₂ (fun i (frame : DecodedFrame) => sourceFrameIds[i]? = some frame.id) indices frames := by
  induction indices generalizing frames with
  | nil =>
    cases frames with
    | nil => exact ⟨fun _ => .nil, fun _ => ⟨rfl, [], rfl⟩⟩
    | cons frame frames => simp
  | cons i indices ih =>
    cases frames with
    | nil => simp
    | cons frame frames =>
      rw [List.zip_cons_cons, List.forall₂_cons, ← ih]
      simp only [List.mapM_cons, bind_eq_ok, pure_eq_ok, List.length_cons, Nat.add_right_cancel_iff]
      constructor
      · rintro ⟨hlength, -, passed, hpassed, rest, hrest, rfl⟩
        refine ⟨?_, hlength, rest, hrest⟩
        unfold checkSource at hpassed
        split at hpassed
        · cases hpassed
        · rename_i id hid
          rw [hid, not_not.1 (refuse_eq_ok.1 hpassed)]
      · rintro ⟨hid, hlength, rest, hrest⟩
        refine ⟨hlength, _, (), ?_, rest, hrest, rfl⟩
        unfold checkSource
        rw [hid]
        exact refuse_eq_ok.2 (not_not.2 rfl)

theorem construct_iff {sourceFrameIds : List FrameId} {sourceIndices : List Nat} {sourceRange : SessionRange} :
    (∃ sequence, (do
      let sequence ← FrameSequence.new frames markers gaps
      sequence.withSourceProvenance sourceFrameIds sourceIndices sourceRange) = .ok sequence) ↔
    ∃ first last, Constructible frames markers gaps sourceFrameIds sourceIndices sourceRange first last := by
  constructor
  · rintro ⟨sequence, hbuilt⟩
    obtain ⟨plain, hplain, hsource⟩ := bind_eq_ok.1 hbuilt
    unfold FrameSequence.new at hplain
    split at hplain
    · rename_i first last hfirst hlast
      simp only [bind_eq_ok, mapError_eq_ok, pure_eq_ok] at hplain
      obtain ⟨_, hframes, range, hrange, _, hmarkers, _, hgaps, rfl⟩ := hplain
      simp only [FrameSequence.withSourceProvenance, validateSourceProvenance, bind_eq_ok, pure_eq_ok, refuse_eq_ok,
        not_or, not_not] at hsource
      obtain ⟨_, ⟨_, hlength, _, hids, _, hincreasing, passed, hpassed, ⟨first', hfirst', hin⟩, last', hlast', hin'⟩, _, hmarkers', _,
        hgaps', -⟩ := hsource
      obtain rfl : first = first' := Option.some.inj (hfirst.symm.trans hfirst')
      obtain rfl : last = last' := Option.some.inj (hlast.symm.trans hlast')
      obtain ⟨hfst, hsnd⟩ := SessionRange.new_eq_ok hrange
      exact ⟨first, last, hfirst, hlast, validateFrames_eq_ok.1 hframes,
        ⟨range, hfst, hsnd, validateMarkers_eq_ok.1 hmarkers, validateGaps_eq_ok.1 hgaps⟩,
        ⟨validateMarkers_eq_ok.1 hmarkers', validateGaps_eq_ok.1 hgaps'⟩, hids, hincreasing,
        places_iff.1 ⟨hlength, passed, hpassed⟩, hin, hin'⟩
    · cases hplain
  · rintro ⟨first, last, hfirst, hlast, hframes, ⟨range, hfst, hsnd, hmarkers, hgaps⟩, ⟨hmarkers', hgaps'⟩, hids, hincreasing,
      hplaces, hin, hin'⟩
    obtain ⟨hlength, passed, hpassed⟩ := places_iff.2 hplaces
    have hle : first.timestamp ≤ last.timestamp := hfst ▸ hsnd ▸ range.fst_le_snd
    have hrange : SessionRange.new first.timestamp last.timestamp = .ok range := by
      rw [SessionRange.new, dif_pos hle]
      exact congrArg Except.ok (NonemptyInterval.ext (Prod.ext hfst.symm hsnd.symm))
    have hplain : FrameSequence.new frames markers gaps =
        .ok ⟨frames, markers, gaps, frames.map (·.id), none, none⟩ := by
      simp only [FrameSequence.new, hfirst, hlast, validateFrames_eq_ok.2 hframes, hrange, validateMarkers_eq_ok.2 hmarkers,
        validateGaps_eq_ok.2 hgaps, Except.mapError, ok_bind]
      rfl
    have hsource : validateSourceProvenance frames sourceFrameIds sourceIndices sourceRange = .ok () := by
      simp only [validateSourceProvenance, bind_eq_ok, refuse_eq_ok, not_or, not_not]
      exact ⟨(), hlength, (), hids, (), hincreasing, passed, hpassed, ⟨first, hfirst, hin⟩, last, hlast, hin'⟩
    refine ⟨⟨frames, markers, gaps, sourceFrameIds, some sourceIndices, some sourceRange⟩, ?_⟩
    rw [hplain, ok_bind]
    simp only [FrameSequence.withSourceProvenance, hsource, validateMarkers_eq_ok.2 hmarkers', validateGaps_eq_ok.2 hgaps',
      ok_bind]
    rfl

end Building

/-! ### Planned and bounded plans -/

def decodedSize (frame : EncodedFrame) : Nat :=
  frame.metadata.image.width.toNat * frame.metadata.image.height.toNat * 4

/-- What planning and bounding keep of a plan. -/
structure SourcePlan.WellFormed (plan : SourcePlan) : Prop where
  frames_ne_nil : plan.frames ≠ []
  ordered : plan.frames.Pairwise fun a b => time a ≤ time b
  fingerprints : plan.sourceFingerprints.length = plan.frames.length
  cacheSources : plan.cacheSources.length = plan.frames.length
  increasing : plan.sourceIndices.Pairwise (· < ·)
  places : List.Forall₂ (fun i frame => plan.sourceFrameIds[i]? = some frame.metadata.id) plan.sourceIndices plan.frames
  decoded : (plan.frames.map decodedSize).sum ≤ u64Max

theorem decodedLen_eq_ok {frame : EncodedFrame} {n : Nat} : decodedLen frame = .ok n ↔ decodedSize frame ≤ u64Max ∧ decodedSize frame = n := by
  unfold decodedLen decodedSize okOr checkedMul
  split <;> simp_all

theorem totalDecoded_eq_ok {overflow : KrometrailError} {frames : List EncodedFrame} {n : Nat} :
    totalDecoded overflow frames = .ok n ↔ (frames.map decodedSize).sum ≤ u64Max ∧ (frames.map decodedSize).sum = n := by
  suffices H : ∀ total ≤ u64Max, (frames.foldlM (fun total frame => do
      okOr (checkedAdd total (← decodedLen frame)) overflow) total = .ok n ↔
      total + (frames.map decodedSize).sum ≤ u64Max ∧ total + (frames.map decodedSize).sum = n) by
    have hzero := H 0 (Nat.zero_le _)
    rwa [Nat.zero_add] at hzero
  induction frames with
  | nil =>
    intro total htotal
    simp [htotal]
  | cons frame frames ih =>
    intro total htotal
    simp only [List.foldlM_cons, bind_eq_ok, decodedLen_eq_ok, okOr_eq_ok, checkedAdd_eq_some, List.map_cons, List.sum_cons,
      ← Nat.add_assoc]
    constructor
    · rintro ⟨next, ⟨size, ⟨hsize, rfl⟩, hnext, rfl⟩, hrest⟩
      exact (ih _ hnext).1 hrest
    · rintro ⟨hfits, hsum⟩
      exact ⟨_, ⟨_, ⟨by omega, rfl⟩, by omega, rfl⟩, (ih _ (by omega)).2 ⟨hfits, hsum⟩⟩

theorem wellFormed_ofEpoch {range : ResolvedRange} {frames : List EncodedFrame} {markers : List ArtifactMarker}
    {limits : AdaptationLimits} {plans : List EpochPlan} {epoch : EpochPlan} {sha256 : List UInt8 → Sha256Digest} {plan : SourcePlan}
    (h : validateAndPlan range frames markers limits = .ok plans) (hepoch : epoch ∈ plans)
    (hplan : SourcePlan.ofEpoch sha256 epoch = some plan) : plan.WellFormed := by
  obtain ⟨-, hordered, -, hplans⟩ := validateAndPlan_eq_ok h
  obtain ⟨k, hk⟩ := List.mem_iff_getElem?.1 hepoch
  obtain ⟨span, positions, hspan, -, hmade⟩ := hplans k epoch hk
  have hframes : epoch.frames = span.frames := (planEpoch_eq_ok hmade).2.1
  have hdecoded : (epoch.frames.map decodedSize).sum ≤ u64Max := by
    simp only [planEpoch, bind_eq_ok] at hmade
    obtain ⟨bytes, hbytes, -⟩ := hmade
    rw [hframes]
    exact (totalDecoded_eq_ok.1 hbytes).1
  obtain ⟨first, -, rfl⟩ := Option.map_eq_some_iff.1 hplan
  refine ⟨hframes ▸ span.frames_ne_nil, ?_, by simp, by simp, List.pairwise_lt_range, ?_, hdecoded⟩
  · dsimp only
    rw [hframes]
    exact hordered span (List.mem_of_getElem? hspan)
  · dsimp only
    refine List.forall₂_iff_get.2 ⟨by simp, fun i hi hi' => ?_⟩
    rw [List.length_range] at hi
    simp [hi]

section Ends

variable {α β κ : Type} [LinearOrder κ]

variable {l : List α} {a : α}

theorem between_ends {key : α → κ} {first last : α} (h : l.Pairwise fun a b => key a ≤ key b) (hfirst : l.head? = some first)
    (hlast : l.getLast? = some last) (ha : a ∈ l) : key first ≤ key a ∧ key a ≤ key last := by
  constructor
  · obtain ⟨rest, rfl⟩ := List.head?_eq_some_iff.1 hfirst
    rcases List.mem_cons.1 ha with rfl | ha
    · exact le_rfl
    · exact List.rel_of_pairwise_cons h ha
  · obtain ⟨front, rfl⟩ := List.getLast?_eq_some_iff.1 hlast
    rcases List.mem_append.1 ha with ha | ha
    · exact (List.pairwise_append.1 h).2.2 a ha last (List.mem_singleton_self _)
    · rw [List.mem_singleton.1 ha]

theorem forall₂_head {R : α → β → Prop} {m : List β} (h : List.Forall₂ R l m) (ha : l.head? = some a) :
    ∃ b, m.head? = some b ∧ R a b := by
  cases h with
  | nil => cases ha
  | cons hab _ => exact ⟨_, rfl, Option.some.inj ha ▸ hab⟩

theorem forall₂_getLast {R : α → β → Prop} {m : List β} (h : List.Forall₂ R l m) (ha : l.getLast? = some a) :
    ∃ b, m.getLast? = some b ∧ R a b := by
  rw [← List.head?_reverse] at ha
  obtain ⟨b, hb, hab⟩ := forall₂_head (List.forall₂_reverse_iff.2 h) ha
  exact ⟨b, by rwa [← List.head?_reverse], hab⟩

end Ends

section Bounded

variable {plan : SourcePlan} {maxFrames : Nat} {includeFrameId : Option FrameId}

/-- What bounding makes of a plan, at the places of the sample. -/
structure BoundedTo (plan bounded : SourcePlan) (indices : List Nat) : Prop where
  frames : bounded.frames = pick plan.frames indices
  sourceFingerprints : bounded.sourceFingerprints = pick plan.sourceFingerprints indices
  cacheSources : bounded.cacheSources = pick plan.cacheSources indices
  sourceIndices : bounded.sourceIndices = pick plan.sourceIndices indices
  source : bounded.descriptor = plan.descriptor ∧ bounded.sourceFrameIds = plan.sourceFrameIds ∧ bounded.sourceRange = plan.sourceRange
  decoded : (bounded.frames.map decodedSize).sum = bounded.decodedBytes
  annotations : ∃ first last clamped, bounded.frames.head? = some first ∧ bounded.frames.getLast? = some last ∧
    bounded.markers = clampMarkers plan.markers (time first) (time last) ∧
    List.Forall₂ (ClampedTo (time first) (time last)) plan.gaps clamped ∧ bounded.gaps = sortByKey (·.range.fst) clamped

theorem sum_pick_le (l : List Nat) {indices : List Nat} (h : indices.Pairwise (· < ·)) : (pick l indices).sum ≤ l.sum :=
  (pick_sublist h).sum_le_sum fun _ _ => Nat.zero_le _

theorem bounded_spec (includeFrameId : Option FrameId) (h : plan.WellFormed) (hbudget : 1 ≤ maxFrames) (hmore : maxFrames < plan.frames.length) :
    ∃ indices bounded, plan.bounded maxFrames includeFrameId = .ok bounded ∧ Sampled plan maxFrames includeFrameId indices ∧
      BoundedTo plan bounded indices := by
  obtain ⟨indices, hindices, hsampled⟩ := boundedIndices_spec plan includeFrameId hmore hbudget
  have hlength : (pick plan.frames indices).length = maxFrames := (length_pick hsampled.lt).trans hsampled.length
  have hne : pick plan.frames indices ≠ [] := List.ne_nil_of_length_pos (by omega)
  obtain ⟨first, hfirst⟩ : ∃ first, (pick plan.frames indices).head? = some first := ⟨_, List.head?_eq_some_head hne⟩
  obtain ⟨last, hlast⟩ : ∃ last, (pick plan.frames indices).getLast? = some last := ⟨_, List.getLast?_eq_some_getLast hne⟩
  have hordered := h.ordered.sublist (pick_sublist hsampled.increasing)
  have hspan : time first ≤ time last := (between_ends hordered hfirst hlast (List.mem_of_mem_getLast? hlast)).1
  obtain ⟨clamped, hclamped, hgaps⟩ := clampDeclaredGaps_ok plan.gaps hspan
  have hsum : ((pick plan.frames indices).map decodedSize).sum ≤ u64Max := by
    rw [map_pick]
    exact (sum_pick_le _ hsampled.increasing).trans h.decoded
  have hbytes : totalDecoded (limitError "bounded decoded bytes overflow") (pick plan.frames indices) = .ok _ :=
    totalDecoded_eq_ok.2 ⟨hsum, rfl⟩
  have hrun : plan.bounded maxFrames includeFrameId = .ok
      { plan with
        frames := pick plan.frames indices
        sourceFingerprints := pick plan.sourceFingerprints indices
        cacheSources := pick plan.cacheSources indices
        decodedBytes := ((pick plan.frames indices).map decodedSize).sum
        markers := clampMarkers plan.markers (time first) (time last)
        gaps := sortByKey (·.range.fst) clamped
        sourceIndices := pick plan.sourceIndices indices } := by
    unfold SourcePlan.bounded
    rw [if_neg (by omega), hindices, ok_bind]
    simp only [hbytes, ok_bind, hfirst, hlast, hgaps]
    rfl
  exact ⟨indices, _, hrun, hsampled, rfl, rfl, rfl, rfl, ⟨rfl, rfl, rfl⟩, rfl, first, last, clamped, hfirst, hlast, rfl, hclamped, rfl⟩

variable {bounded : SourcePlan} {indices : List Nat}

theorem BoundedTo.wellFormed (h : BoundedTo plan bounded indices) (hplan : plan.WellFormed)
    (hsampled : Sampled plan maxFrames includeFrameId indices) : bounded.WellFormed := by
  obtain ⟨hframes, hfingerprints, hcache, hindices, ⟨-, hids, -⟩, -, first, -, -, hfirst, -⟩ := h
  have hlength := length_pick hsampled.lt
  refine ⟨fun hnil => ?_, ?_, ?_, ?_, ?_, ?_, ?_⟩
  · rw [hnil] at hfirst
    cases hfirst
  · rw [hframes]
    exact hplan.ordered.sublist (pick_sublist hsampled.increasing)
  · rw [hframes, hfingerprints, hlength, length_pick (hplan.fingerprints ▸ hsampled.lt)]
  · rw [hframes, hcache, hlength, length_pick (hplan.cacheSources ▸ hsampled.lt)]
  · rw [hindices]
    exact hplan.increasing.sublist (pick_sublist hsampled.increasing)
  · rw [hindices, hframes, hids]
    exact forall₂_pick hplan.places indices
  · rw [hframes, map_pick]
    exact (sum_pick_le _ hsampled.increasing).trans hplan.decoded

theorem mapM_decodeFrame {pixels : EncodedFrame → Result (List UInt8)} {frames : List EncodedFrame} {decoded : List DecodedFrame}
    (h : List.Forall₂ (fun frame image => decodeFrame pixels frame = .ok image) frames decoded) :
    frames.mapM (decodeFrame pixels) = .ok decoded := by
  induction h with
  | nil => rfl
  | cons hframe _ ih =>
    rw [List.mapM_cons, hframe, ih]
    rfl

theorem timestamp_decodeFrame {pixels : EncodedFrame → Result (List UInt8)} {frame : EncodedFrame} {image : DecodedFrame}
    (h : decodeFrame pixels frame = .ok image) : image.timestamp = time frame := by
  simp only [decodeFrame, bind_eq_ok, pure_eq_ok] at h
  obtain ⟨rgba, -, rfl⟩ := h
  rfl

theorem BoundedTo.decodePlan (h : BoundedTo plan bounded indices) (hsampled : Sampled plan maxFrames includeFrameId indices)
    {pixels : EncodedFrame → Result (List UInt8)} {sequence : FrameSequence} (hbuilt : decodePlan pixels plan = .ok sequence) :
    ∃ sequence', Epochs.decodePlan pixels bounded = .ok sequence' := by
  obtain ⟨decoded, hdecoded, hconstruct⟩ := bind_eq_ok.1 hbuilt
  have hrelated := mapM_eq_ok hdecoded
  obtain ⟨first, last, hc⟩ := construct_iff.1 ⟨sequence, hconstruct⟩
  obtain ⟨hframes, -, -, hindices, ⟨-, hids, hrange⟩, -, head, foot, clamped, hhead, hfoot, hmarkers, hclamped, hgaps⟩ := h
  -- the decoded frames of the sample
  have hsub := pick_sublist (l := decoded) hsampled.increasing
  have hpicked := forall₂_pick hrelated indices
  rw [← hframes] at hpicked
  obtain ⟨first', hfirst', hheadTime⟩ := forall₂_head hpicked hhead
  obtain ⟨last', hlast', hfootTime⟩ := forall₂_getLast hpicked hfoot
  have hstart := timestamp_decodeFrame hheadTime
  have hstop := timestamp_decodeFrame hfootTime
  have hbefore := between_ends hc.valid.pairwise hc.head hc.getLast (hsub.subset (List.mem_of_mem_head? hfirst'))
  have hbehind := between_ends hc.valid.pairwise hc.head hc.getLast (hsub.subset (List.mem_of_mem_getLast? hlast'))
  have hspan : first'.timestamp ≤ last'.timestamp :=
    (between_ends (hc.valid.pairwise.sublist hsub) hfirst' hlast' (List.mem_of_mem_getLast? hlast')).1
  have hdimensions : first'.dimensions = first.dimensions := hc.valid.common first' (hsub.subset (List.mem_of_mem_head? hfirst'))
  -- its span is in the span of the plan
  have hin : first'.timestamp ∈ plan.sourceRange ∧ last'.timestamp ∈ plan.sourceRange := by
    obtain ⟨hfirstIn, hlastIn⟩ := hc.inside
    rw [NonemptyInterval.mem_def] at hfirstIn hlastIn ⊢
    rw [NonemptyInterval.mem_def]
    exact ⟨⟨hfirstIn.1.trans hbefore.1, hbefore.2.trans hlastIn.2⟩, hfirstIn.1.trans hbehind.1, hbehind.2.trans hlastIn.2⟩
  have hown : ∀ time, time = first'.timestamp ∨ time = last'.timestamp →
      time ∈ (⟨(first'.timestamp, last'.timestamp), hspan⟩ : SessionRange) := by
    rintro _ (rfl | rfl)
    · exact NonemptyInterval.mem_def.2 ⟨le_rfl, hspan⟩
    · exact NonemptyInterval.mem_def.2 ⟨hspan, le_rfl⟩
  rw [← hstart, ← hstop] at hclamped
  rw [← hstart, ← hstop] at hmarkers
  have hvalid : ValidFrames first'.dimensions (pick decoded indices) := hdimensions ▸ hc.valid.sublist hsub
  obtain ⟨sequence', hbuilt'⟩ := construct_iff.2 ⟨first', last', hfirst', hlast', hvalid,
    ⟨⟨(first'.timestamp, last'.timestamp), hspan⟩, rfl, rfl, hc.source.1.clamped ⟨hown _ (.inl rfl), hown _ (.inr rfl)⟩,
      hc.source.2.clamped hclamped ⟨hown _ (.inl rfl), hown _ (.inr rfl)⟩⟩,
    ⟨hc.source.1.clamped hin, hc.source.2.clamped hclamped hin⟩, hc.ids,
    (List.isChain_iff_pairwise.1 hc.increasing |>.sublist (pick_sublist hsampled.increasing)).isChain,
    forall₂_pick hc.places indices, hin⟩
  refine ⟨sequence', ?_⟩
  unfold Epochs.decodePlan
  rw [mapM_decodeFrame hpicked, ok_bind, hmarkers, hgaps, hids, hindices, hrange]
  exact hbuilt'

end Bounded

/-- The epoch plans: those of planning, and those that bounding makes of one. -/
inductive Planned (sha256 : List UInt8 → Sha256Digest) : SourcePlan → Prop
  | planned {range : ResolvedRange} {frames : List EncodedFrame} {markers : List ArtifactMarker} {limits : AdaptationLimits}
      {plans : List EpochPlan} {epoch : EpochPlan} {plan : SourcePlan} (h : validateAndPlan range frames markers limits = .ok plans)
      (hepoch : epoch ∈ plans) (hplan : SourcePlan.ofEpoch sha256 epoch = some plan) : Planned sha256 plan
  | bounded {plan bounded : SourcePlan} {maxFrames : Nat} {includeFrameId : Option FrameId} (h : Planned sha256 plan)
      (hbudget : 1 ≤ maxFrames) (hbounded : plan.bounded maxFrames includeFrameId = .ok bounded) : Planned sha256 bounded

theorem Planned.wellFormed {sha256 : List UInt8 → Sha256Digest} {plan : SourcePlan} (h : Planned sha256 plan) : plan.WellFormed := by
  induction h with
  | planned hplans hepoch hplan => exact wellFormed_ofEpoch hplans hepoch hplan
  | @bounded plan bounded maxFrames includeFrameId _ hbudget hbounded ih =>
    by_cases hmore : maxFrames < plan.frames.length
    · obtain ⟨indices, bounded', hrun, hsampled, hto⟩ := bounded_spec includeFrameId ih hbudget hmore
      obtain rfl : bounded' = bounded := Except.ok.inj (hrun.symm.trans hbounded)
      exact hto.wellFormed ih hsampled
    · rw [SourcePlan.bounded, if_pos (not_lt.1 hmore)] at hbounded
      exact Except.ok.inj hbounded ▸ ih

/-- Sampling is bounded: the selected indices are evenly spaced, and every plan is bounded to a plan within the budget that
keeps the requested frame, takes each kept frame's source index along, and can be built where the plan can be. -/
theorem bounded_sampling :
    (∀ frameCount limit, 1 ≤ frameCount → 1 ≤ limit → Vision.EvenlySpaced frameCount limit (selectIndices frameCount limit)) ∧
    ∀ sha256 plan maxFrames includeFrameId, Planned sha256 plan → 1 ≤ maxFrames →
      ∃ (bounded : SourcePlan) (indices : List Nat), plan.bounded maxFrames includeFrameId = .ok bounded ∧
        bounded.frames.length = min plan.frames.length maxFrames ∧
        (∀ frameId ∈ includeFrameId, (∃ frame ∈ plan.frames, frame.metadata.id = frameId) →
          ∃ frame ∈ bounded.frames, frame.metadata.id = frameId) ∧
        (indices.Pairwise (· < ·) ∧ indices.length = bounded.frames.length ∧ ∀ k i : Nat, indices[k]? = some i →
          i < plan.frames.length ∧ bounded.frames[k]? = plan.frames[i]? ∧ bounded.sourceIndices[k]? = plan.sourceIndices[i]? ∧
            bounded.sourceFingerprints[k]? = plan.sourceFingerprints[i]? ∧ bounded.cacheSources[k]? = plan.cacheSources[i]?) ∧
        List.Forall₂ (fun i frame => bounded.sourceFrameIds[i]? = some frame.metadata.id) bounded.sourceIndices bounded.frames ∧
        ∀ pixels sequence, decodePlan pixels plan = .ok sequence → ∃ sequence', decodePlan pixels bounded = .ok sequence' := by
  refine ⟨fun _ _ => Vision.evenlySpaced_selectIndices, fun sha256 plan maxFrames includeFrameId hplanned hbudget => ?_⟩
  have hplan := hplanned.wellFormed
  by_cases hmore : maxFrames < plan.frames.length
  · obtain ⟨indices, bounded, hrun, hsampled, hto⟩ := bounded_spec includeFrameId hplan hbudget hmore
    have hlength := length_pick hsampled.lt
    refine ⟨bounded, indices, hrun, ?_, fun frameId hinclude hexists => ?_, ⟨hsampled.increasing, ?_, fun k i hi => ?_⟩,
      (hto.wellFormed hplan hsampled).places, fun pixels sequence => hto.decodePlan hsampled⟩
    · rw [hto.frames, hlength, hsampled.length, min_eq_right hmore.le]
    · obtain ⟨i, hi, frame, hframe, hid⟩ := hsampled.includes frameId hinclude hexists
      refine ⟨frame, ?_, hid⟩
      rw [hto.frames]
      exact mem_pick.2 ⟨i, hi, hframe⟩
    · rw [hto.frames, hlength]
    · have hindices : plan.sourceIndices.length = plan.frames.length := hplan.places.length_eq
      rw [hto.frames, hto.sourceIndices, hto.sourceFingerprints, hto.cacheSources, getElem?_pick hsampled.lt,
        getElem?_pick (hindices ▸ hsampled.lt), getElem?_pick (hplan.fingerprints ▸ hsampled.lt),
        getElem?_pick (hplan.cacheSources ▸ hsampled.lt), hi]
      exact ⟨hsampled.lt i (List.mem_of_getElem? hi), rfl, rfl, rfl, rfl⟩
  · rw [not_lt] at hmore
    refine ⟨plan, List.range plan.frames.length, if_pos hmore, (min_eq_left hmore).symm, fun _ _ hexists => hexists,
      ⟨List.pairwise_lt_range, List.length_range, fun k i hi => ?_⟩, hplan.places, fun _ sequence hbuilt => ⟨sequence, hbuilt⟩⟩
    obtain ⟨hk, rfl⟩ := List.getElem?_eq_some_iff.1 hi
    rw [List.length_range] at hk
    rw [List.getElem_range]
    exact ⟨hk, rfl, rfl, rfl, rfl⟩

def anySha256 (_ : List UInt8) : Sha256Digest := .filled 0

/-- Every frame is a black pixel or two. -/
def blackPixels (frame : EncodedFrame) : Result (List UInt8) :=
  .ok (List.replicate (frame.metadata.image.width.toNat * frame.metadata.image.height.toNat) [0, 0, 0, 255]).flatten

/-- One epoch of two frames, cut to its second one. -/
theorem bounded_sampling_second : ∃ plan bounded, Planned anySha256 plan ∧ plan.frames.length = 2 ∧
    plan.bounded 1 (some ⟨someUuid 4⟩) = .ok bounded ∧ bounded.frames.length = 1 ∧
    ∃ frame ∈ bounded.frames, frame.metadata.id = ⟨someUuid 4⟩ := by
  have hplanned : validateAndPlan resizedRange resizedFrames [] adaptationLimits = .ok _ := rfl
  have hplan : Planned anySha256 _ := .planned hplanned List.mem_cons_self rfl
  obtain ⟨bounded, -, hrun, hlength, hincludes, -⟩ := bounded_sampling.2 anySha256 _ 1 (some ⟨someUuid 4⟩) hplan le_rfl
  exact ⟨_, bounded, hplan, rfl, hrun, hlength, hincludes _ rfl (by decide)⟩

/-- A gap from 2 to 8, of another reason. -/
def earlyGap : CaptureGap := { resizeGap with id := ⟨someUuid 8⟩, range := ⟨⟨⟨2⟩, ⟨8⟩⟩, by decide⟩, reason := .targetHidden, endsBy := by decide }

def overlappingRange : ResolvedRange := { resizedRange with gaps := [earlyGap, resizeGap] }

/-- The gaps of the first epoch overlap, and within its budget it stays as it is: no sequence can be built of it. -/
theorem bounded_plan_overlapping : ∃ plan bounded, overlappingRange.validate = .ok () ∧ Planned anySha256 plan ∧
    plan.bounded 2 none = .ok bounded ∧
    decodePlan blackPixels bounded = .error (visionError "gap ranges must not overlap") := by
  have hplanned : validateAndPlan overlappingRange resizedFrames [] adaptationLimits = .ok _ := rfl
  exact ⟨_, _, rfl, .planned hplanned List.mem_cons_self rfl, rfl, rfl⟩

end Krometrail.Epochs
