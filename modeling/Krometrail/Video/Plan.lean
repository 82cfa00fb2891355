import Krometrail.Lib.Results
import Krometrail.Lib.Sorting
import Krometrail.Timeline.Ranges

/-!
# Video presentation plans

Planning turns the frames and the gaps of an epoch into presentation segments, a frame for as long as it was on the screen
and a slate for each gap, and holds short slates and meaningful frames longer for a model.  Times are in nanoseconds.
-/

namespace Krometrail.Video

open Sorting (sortByKey)

def maxSourceNanos : Nat := 30000000000

def maxPresentationNanos : Nat := 60000000000

def maxVideoSourceFrames : Nat := 480

def maxVideoMeaningfulFrames : Nat := 12

def maxVideoPresentationSegments : Nat := 512

def minimumVisibleFrameNanos : Nat := 1000000

def terminalHoldNanos : Nat := 250000000

def modelMeaningfulHoldNanos : Nat := 1000000000

def modelGapHoldNanos : Nat := 500000000

def limitError (message : String) : KrometrailError := .new .resourceLimitExceeded message

inductive VideoPresentationPolicy
  | realTime
  | modelOptimized
  deriving DecidableEq

inductive VideoTimingBasis
  | recordedDelta | minimumVisibleFrame | terminalHold | recordedGap | modelMeaningfulHold | modelGapHold
  deriving DecidableEq

inductive VideoSegmentSource
  | sourceFrame (frameId : FrameId) (sessionTime : Nat)
  | gapSlate (gapIds : List GapId) (start stop : Nat)
  deriving DecidableEq

def VideoSegmentSource.validate : VideoSegmentSource → Result Unit
  | sourceFrame frameId _ => refuse (frameId.uuid.isNil = true) (invalid "video source frame id must be non-nil")
  | gapSlate gapIds start stop => do
    refuse (gapIds = [] ∨ gapIds.any (·.uuid.isNil) = true ∨ ¬ gapIds.Nodup)
      (invalid "video gap slates require unique non-nil contributing gap ids")
    refuse (stop ≤ start) (invalid "video gap slate source ranges must be non-empty")

structure DraftSegment where
  source : VideoSegmentSource
  durationNanos : Nat
  timingBasis : VideoTimingBasis
  deriving DecidableEq

/-- A `VideoPresentationSegment`, presented from `start` to `stop`. -/
structure VideoPresentationSegment where
  index : Nat
  source : VideoSegmentSource
  start : Nat
  stop : Nat
  timingBasis : VideoTimingBasis

def VideoPresentationSegment.draft (segment : VideoPresentationSegment) : DraftSegment :=
  ⟨segment.source, segment.stop - segment.start, segment.timingBasis⟩

/-- The time of a frame. -/
def nanos (frame : CapturedFrame) : Nat := frame.sessionTime.nanos.toNat

/-- A `VideoPlanInput`; of the epoch, its frame identifiers and geometry, and of the output, its source geometry. -/
structure VideoPlanInput where
  range : ResolvedRange
  epochFrameIds : List FrameId
  epochImage : PixelDimensions
  epochViewport : PixelDimensions
  epochDeviceScaleFactor : DeviceScaleFactor
  frames : List CapturedFrame
  meaningfulFrameIds : List FrameId
  outputSource : PixelDimensions
  policy : VideoPresentationPolicy

namespace VideoPlanInput

/-- The checks of a frame behind the one before it. -/
def validateFrames (input : VideoPlanInput) : Option CapturedFrame → List CapturedFrame → Result Unit
  | _, [] => .ok ()
  | prior, frame :: rest => do
    refuse (frame.sessionId ≠ input.range.sessionId ∨ frame.targetId ≠ input.range.targetId ∨
        frame.sessionTime ∉ input.range.resolvedRange)
      (invalid "video source frames must match and remain within the resolved scope")
    refuse (frame.image ≠ input.epochImage ∨ frame.viewport ≠ input.epochViewport ∨
        frame.deviceScaleFactor.bits ≠ input.epochDeviceScaleFactor.bits)
      (invalid "video source frames must belong to one exact visual geometry epoch")
    refuse (∃ before ∈ prior, frame.captureOrdinal.value ≤ before.captureOrdinal.value ∨ nanos frame < nanos before)
      (invalid "video source frames must preserve strict capture order and nondecreasing session time")
    input.validateFrames (some frame) rest

def validateEpoch (input : VideoPlanInput) : Result Unit := do
  refuse (input.epochFrameIds = [] ∨ input.epochFrameIds.any (·.uuid.isNil) = true ∨ ¬ input.epochFrameIds.Nodup ∨
      input.frames = [] ∨ input.frames.length ≠ input.epochFrameIds.length)
    (invalid "video visual epochs require matching unique non-empty frame metadata")
  refuse (input.frames.map (·.id) ≠ input.epochFrameIds)
    (invalid "video frame metadata must exactly match visual epoch frame order")
  let start ← okOr (input.range.frameIds.findIdx? fun id => decide (some id = input.epochFrameIds.head?))
    (invalid "video epoch frames must belong to the resolved range")
  refuse ((input.range.frameIds.drop start).take input.epochFrameIds.length ≠ input.epochFrameIds)
    (invalid "video epoch frames must form one ordered contiguous resolved-range slice")
  input.validateFrames none input.frames

def validateLimits (input : VideoPlanInput) : Result Unit := do
  refuse (input.frames.length > maxVideoSourceFrames)
    (limitError "video plan exceeds the 480 source frame server limit")
  refuse (input.meaningfulFrameIds.length > maxVideoMeaningfulFrames)
    (limitError "video plan exceeds the 12 meaningful frame server limit")
  refuse (∃ first ∈ input.frames.head?, ∃ last ∈ input.frames.getLast?, nanos last < nanos first)
    (invalid "video source frame times must be ordered")
  refuse (∃ first ∈ input.frames.head?, ∃ last ∈ input.frames.getLast?, nanos last - nanos first > maxSourceNanos)
    (limitError "video plan exceeds the 30 second source range server limit")

end VideoPlanInput

/-- The order of the meaningful frames, behind a position. -/
def meaningfulOrder (input : List FrameId) : Option Nat → List FrameId → Result Unit
  | _, [] => .ok ()
  | prior, id :: rest => do
    let position ← okOr (input.idxOf? id) (invalid "meaningful video frame must belong to the input epoch")
    refuse (∃ before ∈ prior, position ≤ before) (invalid "meaningful video frame ids must preserve source-frame order")
    meaningfulOrder input (some position) rest

def validateMeaningfulFrames (input meaningful : List FrameId) : Result Unit := do
  refuse (meaningful.any (·.uuid.isNil) = true ∨ ¬ meaningful.Nodup)
    (invalid "meaningful video frame ids must be unique and non-nil")
  meaningfulOrder input none meaningful

/-- The checks of `VideoPlanInput::new`. -/
def VideoPlanInput.validate (input : VideoPlanInput) : Result Unit := do
  input.range.validate
  input.validateEpoch
  validateMeaningfulFrames input.epochFrameIds input.meaningfulFrameIds
  refuse (input.outputSource ≠ input.epochImage)
    (invalid "video output source geometry must match the visual epoch image geometry")
  input.validateLimits

/-- A gap clipped to the presented range. -/
structure ClippedGap where
  start : Nat
  stop : Nat
  id : GapId
  lt : start < stop

/-- A `CoalescedGap`, which is not empty. -/
structure CoalescedGap where
  gapIds : List GapId
  start : Nat
  stop : Nat
  lt : start < stop

/-- The order of the identifiers. -/
def gapKey (id : GapId) : List Nat := id.uuid.bytes.map (·.toNat)

def clipGap (first last : Nat) (gap : CaptureGap) : Option ClippedGap :=
  if h : max gap.range.fst.nanos.toNat first < min gap.range.snd.nanos.toNat last then
    some ⟨max gap.range.fst.nanos.toNat first, min gap.range.snd.nanos.toNat last, gap.id, h⟩
  else none

def ClippedGap.single (gap : ClippedGap) : CoalescedGap := ⟨[gap.id], gap.start, gap.stop, gap.lt⟩

def CoalescedGap.merge (last : CoalescedGap) (gap : ClippedGap) : CoalescedGap where
  gapIds := if gap.id ∈ last.gapIds then last.gapIds else sortByKey gapKey (last.gapIds ++ [gap.id])
  start := last.start
  stop := max gap.stop last.stop
  lt := lt_max_of_lt_right last.lt

/-- The loop of `coalesce_epoch_gaps`, with the last gap of its output. -/
def coalesceFrom (last : CoalescedGap) : List ClippedGap → List CoalescedGap
  | [] => [last]
  | gap :: rest => if gap.start ≤ last.stop then coalesceFrom (last.merge gap) rest else last :: coalesceFrom gap.single rest

def coalesceEpochGaps (gaps : List CaptureGap) (first last : Nat) : List CoalescedGap :=
  match sortByKey (fun gap : ClippedGap => toLex (gap.start, toLex (gap.stop, gapKey gap.id)))
      (gaps.filterMap (clipGap first last)) with
  | [] => []
  | gap :: rest => coalesceFrom gap.single rest

/-! ### Drafts -/

def frameDraft (frame : CapturedFrame) (durationNanos : Nat) (timingBasis : VideoTimingBasis) : DraftSegment :=
  ⟨.sourceFrame frame.id (nanos frame), durationNanos, timingBasis⟩

/-- The drafts between a frame and the next one, from a cursor on. -/
def gapDrafts (frame : CapturedFrame) (stop : Nat) : Nat → List CoalescedGap → List DraftSegment
  | cursor, [] => if cursor < stop then [frameDraft frame (stop - cursor) .recordedDelta] else []
  | cursor, gap :: gaps =>
    let gapStart := max gap.start (nanos frame)
    let gapStop := min gap.stop stop
    if gapStop ≤ gapStart ∨ gapStop ≤ cursor then gapDrafts frame stop cursor gaps
    else
      (if cursor < gapStart then [frameDraft frame (gapStart - cursor) .recordedDelta] else []) ++
        if max cursor gapStart < gapStop then
          ⟨.gapSlate gap.gapIds (max cursor gapStart) gapStop, gapStop - max cursor gapStart, .recordedGap⟩ ::
            gapDrafts frame stop gapStop gaps
        else gapDrafts frame stop cursor gaps

/-- The drafts of a frame before the frames behind it. -/
def ownDrafts (gaps : List CoalescedGap) (frame : CapturedFrame) : List CapturedFrame → List DraftSegment
  | [] => [frameDraft frame terminalHoldNanos .terminalHold]
  | next :: _ =>
    if nanos frame = nanos next then [frameDraft frame minimumVisibleFrameNanos .minimumVisibleFrame]
    else gapDrafts frame (nanos next) (nanos frame) gaps

/-- The drafts in the order in which they are pushed. -/
def rawDrafts (gaps : List CoalescedGap) : List CapturedFrame → List DraftSegment
  | [] => []
  | frame :: rest => ownDrafts gaps frame rest ++ rawDrafts gaps rest

def pushDraft (output : List DraftSegment) (draft : DraftSegment) : Result (List DraftSegment) :=
  match output.getLast?, draft.source with
  | some ⟨.gapSlate lastIds lastStart lastStop, lastDuration, lastBasis⟩, .gapSlate nextIds nextStart nextStop =>
    if lastBasis = draft.timingBasis ∧ lastIds = nextIds ∧ lastStop = nextStart then
      (okOr (checkedAdd lastDuration draft.durationNanos) (limitError "video gap presentation duration overflowed")).map
        fun duration => output.dropLast ++ [⟨.gapSlate lastIds lastStart nextStop, duration, lastBasis⟩]
    else .ok (output ++ [draft])
  | _, _ => .ok (output ++ [draft])

/-- A draft is checked when it is made, and pushed. -/
def placeDraft (output : List DraftSegment) (draft : DraftSegment) : Result (List DraftSegment) := do
  draft.source.validate
  pushDraft output draft

def finishFrom : Nat → Nat → List DraftSegment → Result (List VideoPresentationSegment)
  | _, _, [] => .ok []
  | index, cursor, draft :: rest => do
    let stop ← okOr (checkedAdd cursor draft.durationNanos) (limitError "video presentation duration overflowed")
    refuse (maxPresentationNanos < cursor ∨ maxPresentationNanos < stop)
      (limitError "video presentation time exceeds the 60 second server limit")
    refuse (stop ≤ cursor) (invalid "video presentation ranges must be non-empty and half-open")
    draft.source.validate
    let segments ← finishFrom (index + 1) stop rest
    return ⟨index, draft.source, cursor, stop, draft.timingBasis⟩ :: segments

def finishSegments (drafts : List DraftSegment) : Result (List VideoPresentationSegment) := do
  refuse (drafts.length > maxVideoPresentationSegments)
    (limitError "video plan exceeds the 512 presentation segment server limit")
  finishFrom 0 0 drafts

def realTimeSegments (frames : List CapturedFrame) (gaps : List CoalescedGap) :
    Result (List VideoPresentationSegment) := do
  let drafts ← (rawDrafts gaps frames).foldlM placeDraft []
  finishSegments drafts

def DraftSegment.isFrame (draft : DraftSegment) : Bool :=
  match draft.source with
  | .sourceFrame .. => true
  | .gapSlate .. => false

def DraftSegment.ofFrame (id : FrameId) (draft : DraftSegment) : Bool :=
  match draft.source with
  | .sourceFrame frameId _ => decide (frameId = id)
  | .gapSlate .. => false

def DraftSegment.holdGap (draft : DraftSegment) : DraftSegment :=
  if draft.isFrame = false ∧ draft.durationNanos < modelGapHoldNanos then
    { draft with durationNanos := modelGapHoldNanos, timingBasis := .modelGapHold }
  else draft

/-- The sum of durations. -/
def totalNanos (message : String) (drafts : List DraftSegment) : Result Nat :=
  drafts.foldlM (fun total draft => okOr (checkedAdd total draft.durationNanos) (limitError message)) 0

/-- The error of a meaningful frame that no segment shows. -/
def obscuredError : KrometrailError := invalid "a meaningful frame is fully obscured by a declared capture gap"

/-- Hold the first draft of a frame for longer. -/
def holdFirst (id : FrameId) (extra : Nat) : List DraftSegment → Result (List DraftSegment)
  | [] => .error obscuredError
  | draft :: rest =>
    if draft.ofFrame id then do
      let durationNanos ← okOr (checkedAdd draft.durationNanos extra) (limitError "model-optimized frame hold overflowed")
      return { draft with durationNanos, timingBasis := .modelMeaningfulHold } :: rest
    else do return draft :: (← holdFirst id extra rest)

def holdMeaningful (drafts : List DraftSegment) (id : FrameId) : Result (List DraftSegment) := do
  refuse (drafts.any (·.ofFrame id) = false) obscuredError
  let total ← totalNanos "model-optimized frame hold overflowed" (drafts.filter (·.ofFrame id))
  if total < modelMeaningfulHoldNanos then holdFirst id (modelMeaningfulHoldNanos - total) drafts else return drafts

def optimizeForModel (segments : List VideoPresentationSegment) (meaningful : List FrameId) :
    Result (List VideoPresentationSegment) := do
  let drafts ← meaningful.foldlM holdMeaningful ((segments.map (·.draft)).map (·.holdGap))
  finishSegments drafts

/-! ### The checks of a plan -/

def VideoPresentationSegment.isFrame (segment : VideoPresentationSegment) : Bool := segment.draft.isFrame

def VideoPresentationSegment.ofFrame (id : FrameId) (segment : VideoPresentationSegment) : Bool := segment.draft.ofFrame id

/-- The checks of a segment's source against the input. -/
def checkSource (ids : List FrameId) (times : List Nat) (first last : Nat) (lastPosition : Option Nat) :
    VideoSegmentSource → Result (Option Nat)
  | .sourceFrame frameId sessionTime => do
    let position ← okOr (ids.idxOf? frameId) (invalid "video segment references a frame outside its epoch")
    refuse (times[position]? ≠ some sessionTime)
      (invalid "video source-frame segment time must exactly match its input frame identity")
    refuse (∃ before ∈ lastPosition, position < before)
      (invalid "video source-frame segments must preserve capture order")
    refuse (sessionTime < first ∨ last < sessionTime)
      (invalid "video source-frame segment time lies outside presented evidence")
    return some position
  | .gapSlate _ start stop => do
    refuse (start < first ∨ last < stop) (invalid "video gap slate lies outside the presented source range")
    return lastPosition

/-- The loop over the segments, which ends with the duration of the plan. -/
def checkSegments (ids : List FrameId) (times : List Nat) (first last : Nat) :
    Nat → Nat → Option Nat → List VideoPresentationSegment → Result Nat
  | _, expectedStart, _, [] => .ok expectedStart
  | index, expectedStart, lastPosition, segment :: rest => do
    refuse (segment.index ≠ index ∨ segment.start ≠ expectedStart)
      (invalid "video presentation segments must have contiguous zero-based indices and time")
    segment.source.validate
    let lastPosition ← checkSource ids times first last lastPosition segment.source
    checkSegments ids times first last (index + 1) segment.stop lastPosition rest

/-- The duration and the basis of a slate. -/
def slateTiming (policy : VideoPresentationPolicy) (sourceDuration : Nat) : Nat × VideoTimingBasis :=
  match policy with
  | .realTime => (sourceDuration, .recordedGap)
  | .modelOptimized =>
    if sourceDuration < modelGapHoldNanos then (modelGapHoldNanos, .modelGapHold) else (sourceDuration, .recordedGap)

/-- The first loop of `validate_canonical_timing`, behind the end of the prior slate. -/
def checkTimings (policy : VideoPresentationPolicy) : Option Nat → List VideoPresentationSegment → Result Unit
  | _, [] => .ok ()
  | prior, segment :: rest =>
    match segment.source with
    | .sourceFrame .. => do
      refuse (segment.timingBasis = .recordedGap ∨ segment.timingBasis = .modelGapHold)
        (invalid "video source frames cannot use a gap timing basis")
      refuse (policy = .realTime ∧ segment.timingBasis = .modelMeaningfulHold)
        (invalid "real-time video plans cannot use model-optimized frame holds")
      checkTimings policy prior rest
    | .gapSlate _ start stop => do
      refuse (segment.timingBasis ≠ .recordedGap ∧ segment.timingBasis ≠ .modelGapHold)
        (invalid "video gap slates require a gap timing basis")
      refuse (stop < start) (invalid "video source ranges must be ordered")
      refuse ((segment.stop - segment.start, segment.timingBasis) ≠ slateTiming policy (stop - start))
        (invalid "video gap timing must match the canonical v1 presentation policy")
      refuse (∃ before ∈ prior, start ≤ before)
        (invalid "video gap slate source ranges must remain ordered, disjoint, and coalesced")
      checkTimings policy (some stop) rest

/-- The source ranges of the slates. -/
def slateRanges (segments : List VideoPresentationSegment) : List (Nat × Nat) :=
  segments.filterMap fun segment =>
    match segment.source with
    | .sourceFrame .. => none
    | .gapSlate _ start stop => some (start, stop)

/-- The part of an interval that a slate takes. -/
def overlap (start stop : Nat) (gap : Nat × Nat) : Nat := min gap.2 stop - max gap.1 start

/-- The visible duration of a frame without a hold, and its basis. -/
def baseVisible (gaps : List (Nat × Nat)) (time : Nat) : List Nat → Result (Nat × VideoTimingBasis)
  | [] => .ok (terminalHoldNanos, .terminalHold)
  | next :: _ => do
    refuse (next < time) (invalid "video source ranges must be ordered")
    if next - time = 0 then return (minimumVisibleFrameNanos, .minimumVisibleFrame)
    else do
      let obscured ← gaps.foldlM (fun total gap => okOr (checkedAdd total (overlap time next gap))
        (limitError "video source gap duration accounting overflowed")) 0
      refuse (next - time < obscured) (invalid "video gap ranges exceed their source-frame interval")
      return (next - time - obscured, .recordedDelta)

/-- The bases of the segments of a frame, the first of which may be held. -/
def checkBases (adjusted : Bool) (ordinary : VideoTimingBasis) : List VideoPresentationSegment → Result Unit
  | [] => .ok ()
  | segment :: rest => do
    refuse (segment.timingBasis ≠ if adjusted then .modelMeaningfulHold else ordinary)
      (invalid "video source timing basis must match the canonical v1 presentation policy")
    checkBases false ordinary rest

def checkFrame (policy : VideoPresentationPolicy) (meaningful : Bool) (base : Nat) (ordinary : VideoTimingBasis)
    (own : List VideoPresentationSegment) : Result Unit :=
  if own = [] then
    refuse (base ≠ 0 ∨ meaningful = true)
      (invalid "video source timing omits a frame with canonical visible duration")
  else do
    refuse (base = 0) (invalid "video source timing presents a frame fully replaced by capture gaps")
    let actual ← totalNanos "video source presentation duration overflowed" (own.map (·.draft))
    let adjusted := decide (policy = .modelOptimized) && meaningful && decide (base < modelMeaningfulHoldNanos)
    refuse (actual ≠ if adjusted then modelMeaningfulHoldNanos else base)
      (invalid "video source timing must match the canonical v1 presentation duration")
    checkBases adjusted ordinary own

/-- The second loop of `validate_canonical_timing`. -/
def checkFrames (policy : VideoPresentationPolicy) (meaningful : List FrameId) (segments : List VideoPresentationSegment) :
    List FrameId → List Nat → Result Unit
  | id :: ids, time :: times => do
    let base ← baseVisible (slateRanges segments) time times
    checkFrame policy (decide (id ∈ meaningful)) base.1 base.2 (segments.filter (·.ofFrame id))
    checkFrames policy meaningful segments ids times
  | _, _ => .ok ()

def validateCanonicalTiming (policy : VideoPresentationPolicy) (ids : List FrameId) (times : List Nat)
    (meaningful : List FrameId) (segments : List VideoPresentationSegment) : Result Unit := do
  checkTimings policy none segments
  checkFrames policy meaningful segments ids times
  refuse (¬ ∃ segment ∈ segments.getLast?, ∃ id ∈ ids.getLast?, segment.ofFrame id = true)
    (invalid "video presentation must end with the terminal source frame")

/-- A `VideoPresentationPlan`. -/
structure VideoPresentationPlan where
  policy : VideoPresentationPolicy
  requestedRange : SessionRange
  resolvedRange : SessionRange
  presentedStart : Nat
  presentedStop : Nat
  epochFrameIds : List FrameId
  epochImage : PixelDimensions
  inputFrameIds : List FrameId
  inputFrameTimes : List Nat
  meaningfulFrameIds : List FrameId
  segments : List VideoPresentationSegment
  outputSource : PixelDimensions

/-- The error of `VideoPresentationPlan::new` for a meaningful frame that no segment shows. -/
def invisibleError : KrometrailError := invalid "every meaningful frame must have a visible presentation segment"

/-- `validate_plan_parts`, up to the loop over the segments, which gives the duration. -/
def VideoPresentationPlan.validateParts (plan : VideoPresentationPlan) : Result Nat := do
  refuse (plan.resolvedRange.fst < plan.requestedRange.fst ∨ plan.requestedRange.snd < plan.resolvedRange.snd ∨
      plan.presentedStart < plan.resolvedRange.fst.nanos.toNat ∨ plan.resolvedRange.snd.nanos.toNat < plan.presentedStop)
    (invalid "video requested, resolved, and presented ranges must narrow monotonically")
  refuse (plan.inputFrameIds = [] ∨ plan.inputFrameTimes.length ≠ plan.inputFrameIds.length ∨
      plan.inputFrameIds.any (·.uuid.isNil) = true ∨ ¬ plan.inputFrameIds.Nodup ∨
      plan.epochFrameIds ≠ plan.inputFrameIds)
    (invalid "video plan input frame ids must be unique, non-nil, and match the visual epoch")
  refuse (¬ plan.inputFrameTimes.IsChain (· ≤ ·))
    (invalid "video plan input frame times must preserve nondecreasing capture order")
  refuse (plan.inputFrameTimes.head? ≠ some plan.presentedStart ∨ plan.inputFrameTimes.getLast? ≠ some plan.presentedStop)
    (invalid "video presented source range must exactly span the first and last input frames")
  refuse (plan.presentedStop < plan.presentedStart) (invalid "video input frame times must be ordered")
  refuse (plan.presentedStop - plan.presentedStart > maxSourceNanos)
    (limitError "video plan exceeds the 30 second source range server limit")
  validateMeaningfulFrames plan.inputFrameIds plan.meaningfulFrameIds
  refuse (plan.outputSource ≠ plan.epochImage)
    (invalid "video plan output source geometry must match the visual epoch")
  refuse (plan.inputFrameIds.length > maxVideoSourceFrames)
    (limitError "video plan exceeds the 480 source frame server limit")
  refuse (plan.meaningfulFrameIds.length > maxVideoMeaningfulFrames)
    (limitError "video plan exceeds the 12 meaningful frame server limit")
  refuse (plan.segments = []) (invalid "video presentation plan must contain segments")
  refuse (plan.segments.length > maxVideoPresentationSegments)
    (limitError "video plan exceeds the 512 presentation segment server limit")
  checkSegments plan.inputFrameIds plan.inputFrameTimes plan.presentedStart plan.presentedStop 0 0 none plan.segments

/-- `validate_plan_parts`. -/
def VideoPresentationPlan.validate (plan : VideoPresentationPlan) : Result Nat := do
  let duration ← plan.validateParts
  refuse (∃ id ∈ plan.meaningfulFrameIds, plan.segments.any (·.ofFrame id) = false) invisibleError
  validateCanonicalTiming plan.policy plan.inputFrameIds plan.inputFrameTimes plan.meaningfulFrameIds plan.segments
  return duration

def VideoPlanInput.segments (input : VideoPlanInput) (first last : Nat) : Result (List VideoPresentationSegment) := do
  let realTime ← realTimeSegments input.frames (coalesceEpochGaps input.range.gaps first last)
  match input.policy with
  | .realTime => return realTime
  | .modelOptimized => optimizeForModel realTime input.meaningfulFrameIds

def VideoPlanInput.plan (input : VideoPlanInput) (first last : Nat) (segments : List VideoPresentationSegment) :
    VideoPresentationPlan :=
  { policy := input.policy, requestedRange := input.range.requestedRange, resolvedRange := input.range.resolvedRange,
    presentedStart := first, presentedStop := last, epochFrameIds := input.epochFrameIds, epochImage := input.epochImage,
    inputFrameIds := input.frames.map (·.id), inputFrameTimes := input.frames.map nanos,
    meaningfulFrameIds := input.meaningfulFrameIds, segments, outputSource := input.outputSource }

/-- `build_presentation_plan`, of an input that has frames. -/
def buildPresentationPlan (input : VideoPlanInput) (hframes : input.frames ≠ []) : Result (VideoPresentationPlan × Nat) := do
  let first := nanos (input.frames.head hframes)
  let last := nanos (input.frames.getLast hframes)
  refuse (last < first) (invalidTime "session range start must not exceed its end")
  let segments ← input.segments first last
  let duration ← (input.plan first last segments).validate
  return (input.plan first last segments, duration)

end Krometrail.Video
