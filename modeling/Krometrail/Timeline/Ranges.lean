import Krometrail.Core.Frames
import Krometrail.Core.Time

/-!
# Temporal ranges

Anchors, options and resolved ranges of the timeline.  The constructor of a resolved range checks it as a whole
(`ResolvedRange.validate`).
-/

namespace Krometrail

structure InteractionId where
  uuid : Uuid
  deriving DecidableEq

structure NavigationId where
  uuid : Uuid
  deriving DecidableEq

structure MarkerId where
  uuid : Uuid
  deriving DecidableEq

structure GapId where
  uuid : Uuid
  deriving DecidableEq

def Uuid.isNil (uuid : Uuid) : Bool := uuid.bytes.all (· == 0)

def maxNaturalAnchorWindow : Nat := 120 * 1000000000

/-- An `InteractionWindow`; its sides are whole milliseconds of at most two minutes. -/
structure InteractionWindow where
  beforeMillis : Nat
  afterMillis : Nat
  before_le : beforeMillis ≤ 120000
  after_le : afterMillis ≤ 120000

def InteractionWindow.default : InteractionWindow := ⟨150, 250, by decide, by decide⟩

/-- `whole_millis`, of a duration in nanoseconds. -/
def wholeMillis (value : Nat) (side : String) : Result Nat :=
  if value > maxNaturalAnchorWindow then
    .error (invalid ("interaction window " ++ side ++ " duration exceeds 120 seconds"))
  else if ¬ 1000000 ∣ value % 1000000000 then
    .error (invalid ("interaction window " ++ side ++ " duration must use whole milliseconds"))
  else .ok (value / 1000000)

/-- What `InteractionWindow::new` checks of two durations. -/
def InteractionWindow.check (before after : Nat) : Result (Nat × Nat) := do
  let beforeMillis ← wholeMillis before "before"
  let afterMillis ← wholeMillis after "after"
  return (beforeMillis, afterMillis)

/-- The constructor run again on the durations of the window. -/
def InteractionWindow.recheck (window : InteractionWindow) : Result (Nat × Nat) :=
  InteractionWindow.check (window.beforeMillis * 1000000) (window.afterMillis * 1000000)

/-- A window that is given passes its constructor again. -/
def recheckWindow : Option InteractionWindow → Result Unit
  | some window => window.recheck.map fun _ => ()
  | none => .ok ()

inductive RetentionPolicy
  | requireComplete
  | allowPartial
  deriving DecidableEq

inductive CaptureGapPolicy
  | included
  | reject
  deriving DecidableEq

structure RangeResolutionOptions where
  retention : RetentionPolicy
  captureGaps : CaptureGapPolicy
  implicitInteractionWindow : InteractionWindow

inductive CaptureGapReason
  | ingestionQueueSaturated | persistenceRejected | acknowledgementFailed | targetHidden | screencastPaused
  | browserDisconnected | captureStopped | frameRejected
  deriving DecidableEq

/-- A `CaptureGap`, which does not end after its declaration. -/
structure CaptureGap where
  id : GapId
  sessionId : SessionId
  targetId : TargetId
  range : SessionRange
  observedTime : ObservedTime
  reason : CaptureGapReason
  estimatedMissingFrames : Option Nat
  endsBy : range.snd.nanos ≤ observedTime.nanos

def CaptureGap.new (id : GapId) (sessionId : SessionId) (targetId : TargetId) (range : SessionRange)
    (observedTime : ObservedTime) (reason : CaptureGapReason) (estimatedMissingFrames : Option Nat) : Result CaptureGap :=
  if h : range.snd.nanos ≤ observedTime.nanos then
    .ok ⟨id, sessionId, targetId, range, observedTime, reason, estimatedMissingFrames, h⟩
  else .error (invalid "capture gap range must not end after its declaration time")

structure FrameAvailability where
  retainedBounds : Option SessionRange
  evictedRanges : List SessionRange

inductive RetentionWarning
  | requestedStartBeforeOldestRetained (requested oldestRetained : SessionTime)
  | requestedEndAfterNewestRetained (requested newestRetained : SessionTime)
  | requestedEndNotYetElapsed (requested newestRetained sessionNow : SessionTime)
  | partiallyEvicted (requested retained : SessionRange)
  | partiallyCaptured (requested retained : SessionRange)
  | evictedRanges (ranges : List SessionRange)

inductive TemporalRangeAnchorKind
  | sessionTime | wallClock | interaction | latestInteraction | navigation | marker | sourceFrame
  deriving DecidableEq

inductive ResolvedAnchorReference
  | interval
  | interaction (interactionId : InteractionId)
  | navigation (navigationId : NavigationId)
  | marker (markerId : MarkerId)
  | sourceFrames (startFrameId endFrameId : FrameId)

/-- A check of a constructor. -/
def refuse (refused : Prop) [Decidable refused] (error : KrometrailError) : Result Unit :=
  if refused then .error error else .ok ()

@[simp] theorem refuse_eq_ok {refused : Prop} [Decidable refused] {error : KrometrailError} {u : Unit} :
    refuse refused error = .ok u ↔ ¬ refused := by
  unfold refuse
  split <;> simp_all

def FrameAvailability.new (retainedBounds : Option SessionRange) (evictedRanges : List SessionRange) :
    Result FrameAvailability := do
  refuse (¬ evictedRanges.IsChain fun first second => ¬ (second.fst < first.fst ∨ second.fst ≤ first.snd.next))
    (invalid "evicted frame ranges must be sorted, disjoint, and coalesced")
  return { retainedBounds, evictedRanges }

def ResolvedAnchorReference.anyNil : ResolvedAnchorReference → Bool
  | interval => false
  | interaction id => id.uuid.isNil
  | navigation id => id.uuid.isNil
  | marker id => id.uuid.isNil
  | sourceFrames first last => first.uuid.isNil || last.uuid.isNil

def ResolvedAnchorReference.validate (reference : ResolvedAnchorReference) : Result Unit :=
  refuse (reference.anyNil = true) (invalid "resolved anchor identifiers must be non-nil")

structure ResolvedAnchor where
  reference : ResolvedAnchorReference
  requestedTime : SessionTime
  effectiveTime : SessionTime

def ResolvedAnchor.new (reference : ResolvedAnchorReference) (requestedTime effectiveTime : SessionTime) :
    Result ResolvedAnchor := do
  reference.validate
  return { reference, requestedTime, effectiveTime }

structure ResolvedRange where
  sessionId : SessionId
  targetId : TargetId
  anchorKind : TemporalRangeAnchorKind
  resolvedAnchor : ResolvedAnchor
  requestedRange : SessionRange
  resolvedRange : SessionRange
  frameIds : List FrameId
  interactionIds : List InteractionId
  navigationIds : List NavigationId
  markerIds : List MarkerId
  gaps : List CaptureGap
  retentionWarnings : List RetentionWarning
  appliedInteractionWindow : Option InteractionWindow
  options : RangeResolutionOptions

/-- `validate_anchor_kind`. -/
def anchorKindMatches : TemporalRangeAnchorKind → ResolvedAnchorReference → Bool
  | .sessionTime, .interval | .wallClock, .interval | .interaction, .interaction _ | .navigation, .navigation _
  | .marker, .marker _ | .sourceFrame, .sourceFrames .. => true
  | _, _ => false

def ResolvedAnchorReference.endpointsMatch (frameIds : List FrameId) : ResolvedAnchorReference → Bool
  | sourceFrames first last => decide (frameIds.head? = some first ∧ frameIds.getLast? = some last)
  | _ => true

namespace ResolvedRange

/-- The identifier checks of `validate`. -/
def identifiersRefused (value : ResolvedRange) : Prop :=
  (value.frameIds.any (·.uuid.isNil) ∨ value.interactionIds.any (·.uuid.isNil) ∨ value.navigationIds.any (·.uuid.isNil) ∨
      value.markerIds.any (·.uuid.isNil)) ∨
    ¬ value.frameIds.Nodup ∨ ¬ value.interactionIds.Nodup ∨ ¬ value.navigationIds.Nodup ∨ ¬ value.markerIds.Nodup

instance (value : ResolvedRange) : Decidable value.identifiersRefused := inferInstanceAs (Decidable (_ ∨ _))

def validate (value : ResolvedRange) : Result Unit := do
  refuse (value.sessionId.uuid.isNil ∨ value.targetId.uuid.isNil)
    (invalid "resolved range scope identifiers must be non-nil")
  value.resolvedAnchor.reference.validate
  refuse (value.frameIds = []) (invalid "resolved range must contain at least one retained frame")
  refuse value.identifiersRefused (invalid "resolved range identifiers must be non-nil and unique")
  refuse (value.resolvedRange.fst < value.requestedRange.fst ∨ value.requestedRange.snd < value.resolvedRange.snd)
    (invalid "resolved range must be contained in its requested range")
  refuse (value.resolvedAnchor.requestedTime ∉ value.requestedRange ∨
      value.resolvedAnchor.effectiveTime ∉ value.resolvedRange ∨
      value.resolvedAnchor.effectiveTime ≠ clampTime value.resolvedAnchor.requestedTime value.resolvedRange)
    (invalid "resolved anchor times must match requested and retained ranges")
  refuse (∃ gap ∈ value.gaps, gap.sessionId ≠ value.sessionId ∨ gap.targetId ≠ value.targetId ∨
      ¬ rangesIntersect gap.range value.resolvedRange)
    (invalid "resolved capture gaps must match and intersect the resolved scope")
  refuse (anchorKindMatches value.anchorKind value.resolvedAnchor.reference = false)
    (invalid "resolved anchor reference does not match its anchor kind")
  recheckWindow value.appliedInteractionWindow
  refuse ((value.anchorKind = .interaction) ≠ (value.appliedInteractionWindow.isSome = true))
    (invalid "interaction-kind resolved ranges must echo exactly the applied interaction window")
  refuse (value.resolvedAnchor.reference.endpointsMatch value.frameIds = false)
    (invalid "source-frame anchor endpoints must match resolved source order")
  refuse ((value.anchorKind = .sessionTime ∨ value.anchorKind = .wallClock ∨ value.anchorKind = .sourceFrame) ∧
      value.resolvedAnchor.requestedTime ≠ rangeMidpoint value.requestedRange)
    (invalid "interval and source-frame anchors must use the requested midpoint")
  let partialRange := value.resolvedRange ≠ value.requestedRange
  refuse (partialRange ∧ value.options.retention = .requireComplete)
    (invalid "complete retention cannot return a partial range")
  refuse (partialRange ∧ value.retentionWarnings.isEmpty) (invalid "partial retention requires retention warnings")
  refuse (¬ partialRange ∧ ¬ value.retentionWarnings.isEmpty)
    (invalid "retention warnings require a partial resolved range")

def newWithAnchor (value : ResolvedRange) : Result ResolvedRange := do
  value.validate
  return value

end ResolvedRange

end Krometrail
