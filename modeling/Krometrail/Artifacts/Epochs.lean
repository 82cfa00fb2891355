import Krometrail.Artifacts.Demand
import Krometrail.Lib.Results
import Krometrail.Lib.Sorting
import Krometrail.Timeline.Ranges

/-!
# Visual epochs

The frames of a resolved range are split where the picture changes its shape.  Each capture gap goes to one epoch and is
clipped to its span, the markers in the span go with it, and the sequence of the epoch checks both again.
-/

namespace Krometrail.Epochs

open Sorting (sortByKey)

def visionError (message : String) : KrometrailError := generationError ("frame sequence adaptation failed: " ++ message)

structure ArtifactMarker where
  id : String
  sessionTime : SessionTime
  kind : String
  label : String

structure DeclaredGap where
  id : GapId
  range : SessionRange
  reason : CaptureGapReason
  estimatedMissingFrames : Option Nat

structure AdaptationLimits where
  maxMarkers : Nat
  maxEncodedSourceBytes : Nat

structure EpochPlan where
  index : Nat
  frames : List EncodedFrame
  markers : List ArtifactMarker
  gaps : List DeclaredGap
  decodedBytes : Nat
  sourceRange : SessionRange

def decodedLen (frame : EncodedFrame) : Result Nat :=
  okOr (checkedMul (frame.metadata.image.width.toNat * frame.metadata.image.height.toNat) 4)
    (limitError "decoded frame byte count overflows")

/-- `same_visual_epoch`. -/
def sameEpoch (left right : EncodedFrame) : Bool :=
  decide (left.metadata.image = right.metadata.image ∧ left.metadata.viewport = right.metadata.viewport ∧
    left.metadata.deviceScaleFactor.bits = right.metadata.deviceScaleFactor.bits)

def time (frame : EncodedFrame) : SessionTime := frame.metadata.sessionTime

/-- The frames of one epoch. -/
structure Span where
  frames : List EncodedFrame
  frames_ne_nil : frames ≠ []

def Span.start (span : Span) : SessionTime := time (span.frames.head span.frames_ne_nil)

def Span.stop (span : Span) : SessionTime := time (span.frames.getLast span.frames_ne_nil)

def spans (frames : List EncodedFrame) : List Span :=
  (frames.splitBy sameEpoch).attach.map fun epoch => ⟨epoch.1, List.ne_nil_of_mem_splitBy epoch.2⟩

def Overlaps (gap : SessionRange) (span : Span) : Prop := gap.fst ≤ span.stop ∧ span.start ≤ gap.snd

instance (gap : SessionRange) (span : Span) : Decidable (Overlaps gap span) := inferInstanceAs (Decidable (_ ∧ _))

/-- `distance_to_span`. -/
def distance (gap : SessionRange) (span : Span) : Nat :=
  if gap.snd < span.start then span.start.nanos.toNat - gap.snd.nanos.toNat
  else if span.stop < gap.fst then gap.fst.nanos.toNat - span.stop.nanos.toNat
  else 0

/-- No span is nearer to the gap. -/
def Nearest (all : List Span) (gap : SessionRange) (span : Span) : Prop :=
  ∀ other ∈ all, distance gap span ≤ distance gap other

instance (all : List Span) (gap : SessionRange) (span : Span) : Decidable (Nearest all gap span) :=
  inferInstanceAs (Decidable (∀ _ ∈ _, _))

/-- The owner of a gap: the first span that it overlaps, else the first of the nearest ones. -/
def gapOwner (all : List Span) (gap : SessionRange) : Nat :=
  (all.findIdx? fun span => decide (Overlaps gap span)).getD (all.findIdx fun span => decide (Nearest all gap span))

/-- `assign_gap_owners`: the positions of the gaps of each span. -/
def assignGapOwners (gaps : List CaptureGap) (all : List Span) : List (List Nat) :=
  (List.range all.length).map fun k => (List.range gaps.length).filter fun position =>
    decide (∃ gap ∈ gaps[position]?, gapOwner all gap.range = k)

def clampRange (range : SessionRange) (start stop : SessionTime) : SessionTime × SessionTime :=
  if range.snd < start then (start, start)
  else if stop < range.fst then (stop, stop)
  else (max range.fst start, min range.snd stop)

/-- A gap with its clipped range. -/
def declaredGap (clipped : CaptureGap × SessionTime × SessionTime) : Result DeclaredGap := do
  let range ← (SessionRange.new clipped.2.1 clipped.2.2).mapError fun _ =>
    visionError "time range start must not follow its end"
  return { id := clipped.1.id, range, reason := clipped.1.reason,
           estimatedMissingFrames := clipped.1.estimatedMissingFrames }

/-- `clipped_gaps`, in the order of the clipped starts. -/
def clippedGaps (gaps : List CaptureGap) (positions : List Nat) (start stop : SessionTime) : Result (List DeclaredGap) :=
  (sortByKey (fun clipped => clipped.2.1)
    ((positions.filterMap (gaps[·]?)).map fun gap => (gap, clampRange gap.range start stop))).mapM declaredGap

/-- `clipped_markers`, in the order of their times. -/
def clippedMarkers (markers : List ArtifactMarker) (start stop : SessionTime) : List ArtifactMarker :=
  sortByKey (·.sessionTime) (markers.filter fun marker => decide (start ≤ marker.sessionTime ∧ marker.sessionTime ≤ stop))

def planEpoch (range : ResolvedRange) (markers : List ArtifactMarker) (index : Nat) (span : Span)
    (gapPositions : List Nat) : Result EpochPlan := do
  let decodedBytes ← span.frames.foldlM (fun total frame => do
    okOr (checkedAdd total (← decodedLen frame)) (limitError "epoch decoded bytes overflow")) 0
  refuse (index ≥ 2 ^ 32) (limitError "visual epoch count exceeds the result format")
  let gaps ← clippedGaps range.gaps gapPositions span.start span.stop
  let sourceRange ← (SessionRange.new span.start span.stop).mapError fun _ =>
    visionError "time range start must not follow its end"
  return { index, frames := span.frames, markers := clippedMarkers markers span.start span.stop, gaps, decodedBytes,
           sourceRange }

/-- The checks of a frame behind the one before it. -/
def checkFrames (range : ResolvedRange) : Option EncodedFrame → List (FrameId × EncodedFrame) → Result Unit
  | _, [] => .ok ()
  | previous, (expected, frame) :: rest => do
    refuse (frame.metadata.id ≠ expected ∨ frame.metadata.sessionId ≠ range.sessionId ∨
        frame.metadata.targetId ≠ range.targetId ∨ time frame ∉ range.resolvedRange ∨
        ∃ before ∈ previous, frame.metadata.captureOrdinal.value ≤ before.metadata.captureOrdinal.value ∨
          time frame < time before)
      (generationError "frame source order, scope, or metadata contradicts the resolved range")
    let _ ← decodedLen frame
    checkFrames range (some frame) rest

def encodedBytes (frames : List EncodedFrame) : Result Nat :=
  frames.foldlM (fun total frame => okOr (checkedAdd total frame.bytes.length) (limitError "encoded source bytes overflow")) 0

/-- `validate_and_plan`, not cancelled. -/
def validateAndPlan (range : ResolvedRange) (frames : List EncodedFrame) (markers : List ArtifactMarker)
    (limits : AdaptationLimits) : Result (List EpochPlan) := do
  refuse (frames.length ≠ range.frameIds.length ∨ frames = [])
    (generationError "frame source did not return the exact resolved frame set")
  refuse (markers.length > limits.maxMarkers) (limitError "artifact marker count exceeds the configured limit")
  let bytes ← encodedBytes frames
  refuse (bytes > limits.maxEncodedSourceBytes) (limitError "encoded source bytes exceed the configured limit")
  checkFrames range none (range.frameIds.zip frames)
  let all := spans frames
  let owners := assignGapOwners range.gaps all
  (all.zip owners).zipIdx.mapM fun item => planEpoch range markers item.2 item.1.1 item.1.2

def validateMarkers (range : SessionRange) : List ArtifactMarker → List ArtifactMarker → Result Unit
  | _, [] => .ok ()
  | earlier, marker :: rest => do
    refuse (∃ prior ∈ earlier, prior.id = marker.id) (visionError "marker identifiers must be unique")
    refuse (∃ prior ∈ earlier.getLast?, marker.sessionTime < prior.sessionTime)
      (visionError "marker timestamps must be nondecreasing")
    refuse (marker.sessionTime ∉ range) (visionError "marker timestamp lies outside the frame range")
    validateMarkers range (earlier ++ [marker]) rest

def validateGaps (range : SessionRange) : List DeclaredGap → List DeclaredGap → Result Unit
  | _, [] => .ok ()
  | earlier, gap :: rest => do
    refuse (∃ prior ∈ earlier, prior.id = gap.id) (visionError "gap identifiers must be unique")
    refuse (∃ prior ∈ earlier.getLast?, gap.range.fst < prior.range.fst)
      (visionError "gap ranges must be ordered by start time")
    refuse (∃ prior ∈ earlier.getLast?, gap.range.fst < prior.range.snd) (visionError "gap ranges must not overlap")
    refuse (gap.range.fst ∉ range ∨ gap.range.snd ∉ range) (visionError "gap range lies outside the frame range")
    validateGaps range (earlier ++ [gap]) rest

/-- The annotation checks of `decode_plan`. -/
def EpochPlan.validateAnnotations (plan : EpochPlan) : Result Unit := do
  validateMarkers plan.sourceRange [] plan.markers
  validateGaps plan.sourceRange [] plan.gaps

/-- A `ComparisonOutcome`; what is measured is left out. -/
inductive ComparisonOutcome
  | measured
  | gapBoundary (declaredGapCount : Nat)

/-- A gap meets the interval of two frames. -/
def Meets (gap : SessionRange) (earlier later : EncodedFrame) : Prop := gap.fst ≤ time later ∧ time earlier ≤ gap.snd

instance (gap : SessionRange) (earlier later : EncodedFrame) : Decidable (Meets gap earlier later) :=
  inferInstanceAs (Decidable (_ ∧ _))

def intersectingGapCount (gaps : List DeclaredGap) (earlier later : EncodedFrame) : Nat :=
  gaps.countP fun gap => decide (Meets gap.range earlier later)

/-- The gap test of `measure_pair`. -/
def measurePair (gaps : List DeclaredGap) (earlier later : EncodedFrame) : ComparisonOutcome :=
  if intersectingGapCount gaps earlier later = 0 then .measured
  else .gapBoundary (intersectingGapCount gaps earlier later)

end Krometrail.Epochs
