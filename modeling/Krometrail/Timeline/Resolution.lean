import Krometrail.Lib.Results
import Krometrail.Timeline.Ranges

/-!
# Range resolution

An anchor becomes a seed, and a seed a resolved range: the frames of the requested range are checked, the range is
clipped to what retention has left of it, and the result is built.  The ports of the resolver are the answers that they
give.
-/

namespace Krometrail

def notFound (message : String) : KrometrailError := .new .notFound message

def persistenceRangeError (message : String) : KrometrailError := .new .persistenceFailed message

structure AnchorScope where
  sessionId : Option SessionId
  targetId : Option TargetId

structure IntervalAnchorScope where
  sessionId : SessionId
  targetId : TargetId

/-- A `TemporalRangeAnchor`; the times of the wall clock are in nanoseconds. -/
inductive TemporalRangeAnchor
  | sessionTime (scope : IntervalAnchorScope) (range : SessionRange)
  | wallClock (scope : IntervalAnchorScope) (start stop : Int)
  | interaction (scope : AnchorScope) (interactionId : InteractionId) (window : Option InteractionWindow)
  | latestInteraction (sessionId : SessionId) (targetId : TargetId) (window : Option InteractionWindow)
  | navigation (scope : AnchorScope) (navigationId : NavigationId) (window : Option InteractionWindow)
  | marker (scope : AnchorScope) (markerId : MarkerId) (window : Option InteractionWindow)
  | sourceFrame (scope : AnchorScope) (startFrameId endFrameId : FrameId)

structure InteractionTiming where
  startedAt : SessionTime
  dispatchedAt : SessionTime
  completedAt : SessionTime
  observedAt : Option SessionTime
  started_le : startedAt ≤ dispatchedAt
  dispatched_le : dispatchedAt ≤ completedAt
  completed_le : ∀ observed ∈ observedAt, completedAt ≤ observed

structure InteractionAnchor where
  interactionId : InteractionId
  sessionId : SessionId
  targetId : TargetId
  timing : InteractionTiming

/-- `ObservationPayloadRef`, as far as resolution reads it. -/
inductive ObservationPayloadRef
  | interaction (id : InteractionId)
  | navigation (id : NavigationId)
  | marker (id : MarkerId)
  | other

structure TimelineObservation where
  sessionId : SessionId
  targetId : TargetId
  sessionTime : SessionTime
  payload : ObservationPayloadRef

structure PortAnswers where
  /-- the session of the catalog and the start of its wall clock -/
  session : Option (SessionId × Int)
  target : Option TargetId
  /-- `interaction_anchor` and `latest_interaction_anchor` -/
  interaction : Option InteractionAnchor
  observation : Option TimelineObservation
  /-- `frame_metadata_by_id` -/
  endpoints : List CapturedFrame
  /-- `frame_metadata_in_ordinal_range` -/
  ordinalFrames : List CapturedFrame
  /-- `frame_metadata_in_range` -/
  frames : List CapturedFrame
  availability : FrameAvailability
  /-- `live_session_now` -/
  sessionNow : Option SessionTime
  gaps : List CaptureGap
  observations : List TimelineObservation

structure RangeSeed where
  sessionId : SessionId
  targetId : TargetId
  requestedRange : SessionRange
  anchorKind : TemporalRangeAnchorKind
  anchorReference : ResolvedAnchorReference
  requestedAnchorTime : SessionTime
  appliedInteractionWindow : Option InteractionWindow
  preloadedFrames : Option (List CapturedFrame)

def TemporalRangeAnchor.validate : TemporalRangeAnchor → Result Unit
  | sessionTime .. => .ok ()
  | wallClock _ start stop => refuse (start > stop) (invalid "wall-clock range start must not exceed its end")
  | interaction _ _ window | latestInteraction _ _ window | navigation _ _ window | marker _ _ window =>
    recheckWindow window
  | sourceFrame _ first last =>
    refuse (first.uuid.isNil ∨ last.uuid.isNil) (invalid "source-frame range endpoints must be non-nil")

def validateScopeMatch (scope : AnchorScope) (sessionId : SessionId) (targetId : TargetId) : Result Unit :=
  refuse ((∃ id ∈ scope.sessionId, id ≠ sessionId) ∨ ∃ id ∈ scope.targetId, id ≠ targetId)
    (invalid "range anchor belongs to another session or target")

def validateCatalogScope (answers : PortAnswers) (sessionId : SessionId) (targetId : TargetId) : Result Unit := do
  refuse (∃ session ∈ answers.session, session.1 ≠ sessionId)
    (invalid "session catalog identity does not match its lookup")
  refuse (∃ target ∈ answers.target, target ≠ targetId)
    (invalid "target catalog identity does not match its lookup")

/-- The bounds of a window about a first and a last time. -/
def windowRange (first last : SessionTime) (window : InteractionWindow) (message : String) : Result SessionRange := do
  let start := first.nanos.toNat - window.beforeMillis * 1000000
  let stop ← okOr (checkedAdd last.nanos.toNat (window.afterMillis * 1000000)) (invalidTime message)
  SessionRange.new (.fromNanos start) (.fromNanos stop)

def interactionRange (anchor : InteractionAnchor) (window : InteractionWindow) : Result SessionRange :=
  windowRange anchor.timing.startedAt (anchor.timing.observedAt.getD anchor.timing.completedAt) window
    "interaction window exceeds session time"

def pointRange (time : SessionTime) (window : Option InteractionWindow) : Result SessionRange :=
  windowRange time time (window.getD ⟨0, 0, by decide, by decide⟩) "anchor window exceeds session time"

def wallClockOffset (value startedAt : Int) : Result SessionTime :=
  if value < startedAt then .error (notFound "wall-clock timestamp precedes the recording session")
  else if (value - startedAt).toNat > u64Max then .error (invalidTime "wall-clock offset exceeds session time")
  else .ok (.fromNanos (value - startedAt).toNat)

def seedFromInterval (scope : IntervalAnchorScope) (range : SessionRange) (anchorKind : TemporalRangeAnchorKind) :
    RangeSeed :=
  { sessionId := scope.sessionId, targetId := scope.targetId, requestedRange := range, anchorKind,
    anchorReference := .interval, requestedAnchorTime := rangeMidpoint range, appliedInteractionWindow := none,
    preloadedFrames := none }

def seedFromInteraction (interaction : InteractionAnchor) (window : InteractionWindow) : Result RangeSeed := do
  let requestedRange ← interactionRange interaction window
  return { sessionId := interaction.sessionId, targetId := interaction.targetId, requestedRange,
           anchorKind := .interaction, anchorReference := .interaction interaction.interactionId,
           requestedAnchorTime := interaction.timing.dispatchedAt, appliedInteractionWindow := some window,
           preloadedFrames := none }

def seedFromObservation (observation : TimelineObservation) (scope : AnchorScope) (window : Option InteractionWindow)
    (anchorKind : TemporalRangeAnchorKind) (anchorReference : ResolvedAnchorReference) : Result RangeSeed := do
  validateScopeMatch scope observation.sessionId observation.targetId
  let requestedRange ← pointRange observation.sessionTime window
  return { sessionId := observation.sessionId, targetId := observation.targetId, requestedRange, anchorKind,
           anchorReference, requestedAnchorTime := observation.sessionTime, appliedInteractionWindow := none,
           preloadedFrames := none }

def seedFromEndpoints (answers : PortAnswers) (scope : AnchorScope) (startFrameId endFrameId : FrameId)
    (first last : CapturedFrame) : Result RangeSeed := do
  refuse (first.sessionId ≠ last.sessionId ∨ first.targetId ≠ last.targetId)
    (invalid "source-frame range endpoints belong to different sessions or targets")
  validateScopeMatch scope first.sessionId first.targetId
  refuse (last.captureOrdinal.value < first.captureOrdinal.value)
    (invalid "source-frame range start must not follow its end")
  let requestedRange ← SessionRange.new first.sessionTime last.sessionTime
  return { sessionId := first.sessionId, targetId := first.targetId, requestedRange, anchorKind := .sourceFrame,
           anchorReference := .sourceFrames startFrameId endFrameId, requestedAnchorTime := rangeMidpoint requestedRange,
           appliedInteractionWindow := none, preloadedFrames := some answers.ordinalFrames }

def seed (anchor : TemporalRangeAnchor) (options : RangeResolutionOptions) (answers : PortAnswers) : Result RangeSeed :=
  match anchor with
  | .sessionTime scope range => do
    validateCatalogScope answers scope.sessionId scope.targetId
    return seedFromInterval scope range .sessionTime
  | .wallClock scope start stop => do
    refuse (start > stop) (invalid "wall-clock range start must not exceed its end")
    let session ← okOr answers.session (notFound "wall-clock resolution requires complete session metadata")
    let start ← wallClockOffset start session.2
    let stop ← wallClockOffset stop session.2
    let requestedRange ← SessionRange.new start stop
    validateCatalogScope answers scope.sessionId scope.targetId
    return seedFromInterval scope requestedRange .wallClock
  | .sourceFrame scope startFrameId endFrameId =>
    match answers.endpoints with
    | [first, last] => seedFromEndpoints answers scope startFrameId endFrameId first last
    | _ => .error (notFound "source-frame range endpoint is not retained")
  | .interaction scope _ window => do
    let interaction ← okOr answers.interaction
      (notFound "no durable interaction anchor exists for this interaction")
    validateScopeMatch scope interaction.sessionId interaction.targetId
    seedFromInteraction interaction (window.getD options.implicitInteractionWindow)
  | .latestInteraction sessionId targetId window => do
    let interaction ← okOr answers.interaction
      (notFound "no durable interaction anchor exists for this session and target")
    refuse (interaction.sessionId ≠ sessionId ∨ interaction.targetId ≠ targetId)
      (invalid "latest interaction anchor has the wrong session or target")
    seedFromInteraction interaction (window.getD options.implicitInteractionWindow)
  | .navigation scope navigationId window => do
    let observation ← okOr answers.observation (notFound "navigation anchor was not found")
    seedFromObservation observation scope window .navigation (.navigation navigationId)
  | .marker scope markerId window => do
    let observation ← okOr answers.observation (notFound "marker anchor was not found")
    seedFromObservation observation scope window .marker (.marker markerId)

def capturedBounds (bounds : SessionRange) : String :=
  s!"start_session_nanos={bounds.fst.nanos.toNat}, end_session_nanos={bounds.snd.nanos.toNat}"

def rangeNotFound (message : String) (range : SessionRange) (retainedBounds : Option SessionRange) : KrometrailError :=
  match retainedBounds with
  | some bounds =>
    if range.fst < bounds.fst ∨ bounds.snd < range.snd then
      ((notFound message).withRetry .afterRecovery).withRecovery
        ("retry with a range contained by captured bounds: " ++ capturedBounds bounds)
    else notFound message
  | none => notFound message

def fullyEvictedRangeNotFound (range : SessionRange) (retainedBounds : Option SessionRange) : KrometrailError :=
  match retainedBounds with
  | none => rangeNotFound "requested interval source frames were fully evicted by in-session retention" range none
  | some bounds =>
    let oldest := s!"session_time_nanos={bounds.fst.nanos.toNat}"
    ((notFound ("requested interval source frames were fully evicted by in-session retention; oldest retained boundary is "
        ++ oldest)).withRetry .never).withRecovery
      ("evidence before " ++ oldest ++ " was reclaimed by in-session retention; anchor at or after " ++ oldest)

def checkFrame (seed : RangeSeed) (evictedRanges : List SessionRange) (seen : List FrameId) (frame : CapturedFrame) :
    Result (List FrameId) := do
  refuse (frame.sessionId ≠ seed.sessionId ∨ frame.targetId ≠ seed.targetId)
    (persistenceRangeError "frame source returned metadata for the wrong session or target")
  refuse (frame.sessionTime ∉ seed.requestedRange)
    (persistenceRangeError "frame source returned metadata outside the requested range")
  refuse (frame.id ∈ seen) (persistenceRangeError "frame source returned duplicate frame metadata")
  refuse (∃ range ∈ evictedRanges, frame.sessionTime ∈ range)
    (persistenceRangeError "retained frame metadata overlaps durable eviction truth")
  return seen ++ [frame.id]

/-- Whether some adjacent frames are not in capture-ordinal order. -/
def outOfOrder : List CapturedFrame → Bool
  | first :: second :: rest =>
    decide (second.captureOrdinal.value ≤ first.captureOrdinal.value) || outOfOrder (second :: rest)
  | _ => false

def validateFrameMetadata (seed : RangeSeed) (frames : List CapturedFrame) (evictedRanges : List SessionRange) :
    Result Unit := do
  let _ ← frames.foldlM (checkFrame seed evictedRanges) []
  refuse (outOfOrder frames = true) (persistenceRangeError "frame metadata is not in capture-ordinal order")

/-- The parts of the evicted ranges inside the requested one. -/
def evictedInside (evictedRanges : List SessionRange) (requested : SessionRange) : List SessionRange :=
  evictedRanges.filterMap fun range => if h : rangesIntersect range requested then some (intersection range requested h)
    else none

def clampPartialRange (candidate retained : SessionRange) (options : RangeResolutionOptions) : Option SessionRange :=
  if h : options.retention = .allowPartial ∧ rangesIntersect candidate retained then
    some (intersection candidate retained h.2)
  else none

/-- The candidate clamped to the retained bounds where it goes beyond them. -/
def clampToRetained (candidate retained : SessionRange) (options : RangeResolutionOptions) (error : KrometrailError) :
    Result SessionRange :=
  if candidate.fst < retained.fst ∨ retained.snd < candidate.snd then
    okOr (clampPartialRange candidate retained options) error
  else .ok candidate

def retentionWarnings (requested candidate resolved : SessionRange) (intersecting : List SessionRange)
    (sessionNow : Option SessionTime) : List RetentionWarning :=
  (if requested.fst < resolved.fst then [.requestedStartBeforeOldestRetained requested.fst resolved.fst] else []) ++
  (if resolved.snd < requested.snd then
    .requestedEndAfterNewestRetained requested.snd resolved.snd ::
      match sessionNow with
      | some now =>
        if resolved.snd ≤ now ∧ now < requested.snd then
          [.requestedEndNotYetElapsed requested.snd resolved.snd now]
        else []
      | none => []
  else []) ++
  (if intersecting ≠ [] then [.partiallyEvicted requested resolved] else []) ++
  (if resolved ≠ candidate then [.partiallyCaptured requested resolved] else []) ++
  (if intersecting ≠ [] then [.evictedRanges intersecting] else [])

def classifyRetention (seed : RangeSeed) (frames : List CapturedFrame) (hframes : frames ≠ [])
    (availability : FrameAvailability) (options : RangeResolutionOptions) (sessionNow : Option SessionTime) :
    Result (SessionRange × List RetentionWarning) := do
  let requested := seed.requestedRange
  let retained ← okOr availability.retainedBounds
    (persistenceRangeError "frame availability omitted bounds for retained metadata")
  let intersecting := evictedInside availability.evictedRanges requested
  refuse (intersecting ≠ [] ∧ options.retention = .requireComplete)
    (rangeNotFound "requested range is not completely retained" requested none)
  let leftEvicted := ∃ range ∈ intersecting, requested.fst ∈ range
  let rightEvicted := ∃ range ∈ intersecting, requested.snd ∈ range
  refuse (∃ range ∈ intersecting, requested.fst ∉ range ∧ requested.snd ∉ range)
    (rangeNotFound "requested range contains an internal eviction hole" requested none)
  let candidate ← (SessionRange.new
    (if leftEvicted then (frames.head hframes).sessionTime else requested.fst)
    (if rightEvicted then (frames.getLast hframes).sessionTime else requested.snd)).mapError fun _ =>
      fullyEvictedRangeNotFound requested (some retained)
  let resolved ← clampToRetained candidate retained options (if intersecting ≠ [] then
      rangeNotFound "requested interval includes uncaptured evidence beyond an evicted edge" requested none
    else rangeNotFound "requested interval extends beyond captured source-frame bounds" requested (some retained))
  refuse (∃ range ∈ intersecting, rangesIntersect range resolved)
    (rangeNotFound "requested range contains an internal eviction hole" requested none)
  return (resolved, retentionWarnings requested candidate resolved intersecting sessionNow)

/-- One gap of `clip_capture_gaps`. -/
def clipCaptureGap (range : SessionRange) (gap : CaptureGap) : Result (Option CaptureGap) :=
  if h : rangesIntersect gap.range range then do
    let clipped ← (CaptureGap.new gap.id gap.sessionId gap.targetId (intersection gap.range range h) gap.observedTime
      gap.reason gap.estimatedMissingFrames).mapError fun _ => persistenceRangeError "capture gap could not be clipped"
    return some clipped
  else if gap.estimatedMissingFrames.isSome then
    .error (persistenceRangeError "capture-gap source returned estimated loss outside the resolved range")
  else .ok none

def clipCaptureGaps (gaps : List CaptureGap) (range : SessionRange) : Result (List CaptureGap) := do
  let clipped ← gaps.mapM (clipCaptureGap range)
  return clipped.filterMap id

def pushUnique {α : Type} [DecidableEq α] (values : List α) (value : α) : List α :=
  if value ∈ values then values else values ++ [value]

/-- Whether a payload names nothing. -/
def ObservationPayloadRef.anyNil : ObservationPayloadRef → Bool
  | interaction id => id.uuid.isNil
  | navigation id => id.uuid.isNil
  | marker id => id.uuid.isNil
  | other => false

/-- The identifiers of one kind of payload, each once. -/
def payloadIds {α : Type} [DecidableEq α] (pick : ObservationPayloadRef → Option α)
    (observations : List TimelineObservation) : List α :=
  (observations.filterMap fun observation => pick observation.payload).foldl pushUnique []

def ObservationPayloadRef.interactionId : ObservationPayloadRef → Option InteractionId
  | interaction id => some id
  | _ => none

def ObservationPayloadRef.navigationId : ObservationPayloadRef → Option NavigationId
  | navigation id => some id
  | _ => none

def ObservationPayloadRef.markerId : ObservationPayloadRef → Option MarkerId
  | marker id => some id
  | _ => none

/-- The last step of `finalize`, on the classified range. -/
def buildRange (seed : RangeSeed) (options : RangeResolutionOptions) (answers : PortAnswers)
    (frames : List CapturedFrame) (resolved : SessionRange) (warnings : List RetentionWarning) : Result ResolvedRange := do
  let retainedFrames := frames.filter fun frame => decide (frame.sessionTime ∈ resolved)
  refuse (retainedFrames = []) (fullyEvictedRangeNotFound resolved answers.availability.retainedBounds)
  let gaps ← clipCaptureGaps answers.gaps resolved
  refuse (options.captureGaps = .reject ∧ ¬ gaps.isEmpty)
    (rangeNotFound "requested range contains known capture gaps" resolved none)
  let resolvedAnchor ← ResolvedAnchor.new seed.anchorReference seed.requestedAnchorTime
    (clampTime seed.requestedAnchorTime resolved)
  ResolvedRange.newWithAnchor
    { sessionId := seed.sessionId, targetId := seed.targetId, anchorKind := seed.anchorKind, resolvedAnchor,
      requestedRange := seed.requestedRange, resolvedRange := resolved, frameIds := retainedFrames.map (·.id),
      interactionIds := payloadIds (·.interactionId) answers.observations,
      navigationIds := payloadIds (·.navigationId) answers.observations,
      markerIds := payloadIds (·.markerId) answers.observations, gaps, retentionWarnings := warnings,
      appliedInteractionWindow := seed.appliedInteractionWindow, options }

def RangeSeed.frames (seed : RangeSeed) (answers : PortAnswers) : List CapturedFrame :=
  seed.preloadedFrames.getD answers.frames

def finalize (seed : RangeSeed) (options : RangeResolutionOptions) (answers : PortAnswers) : Result ResolvedRange := do
  let frames := seed.frames answers
  validateFrameMetadata seed frames answers.availability.evictedRanges
  if hframes : frames = [] then
    .error (if ∃ range ∈ answers.availability.evictedRanges, rangesIntersect range seed.requestedRange then
      fullyEvictedRangeNotFound seed.requestedRange answers.availability.retainedBounds
    else rangeNotFound "requested interval has no captured source frames" seed.requestedRange
      answers.availability.retainedBounds)
  else do
    let (resolved, warnings) ←
      classifyRetention seed frames hframes answers.availability options answers.sessionNow
    buildRange seed options answers frames resolved warnings

def resolve (anchor : TemporalRangeAnchor) (options : RangeResolutionOptions) (answers : PortAnswers) :
    Result ResolvedRange := do
  anchor.validate
  let seed ← seed anchor options answers
  finalize seed options answers

end Krometrail
