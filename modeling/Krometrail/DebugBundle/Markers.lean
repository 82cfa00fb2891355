import Krometrail.Artifacts.BoundedPlans
import Krometrail.Timeline.Resolution

/-!
# Markers of a debug bundle

A bundle keeps the markers of its caller and that of the resolved anchor, and fills the places that are left with the interactions, navigations
and markers of the timeline that are nearest to the anchor.
-/

namespace Krometrail.DebugBundle

open Epochs (hyphenated)
open Sorting (sortByKey)

inductive ArtifactMarkerId
  | interaction (id : InteractionId)
  | navigation (id : NavigationId)
  | marker (id : MarkerId)
  | caller (text : String)
  deriving DecidableEq

structure ArtifactMarker where
  id : ArtifactMarkerId
  sessionTime : SessionTime
  kind : String
  label : String
  deriving DecidableEq

inductive BundleWarning
  | timelineMarkerEvidenceTruncated (matchedCount returnedCount limit : Nat)
  | markerLabelUnavailable (markerId : ArtifactMarkerId)
  | markersTruncated (matchedCount returnedCount limit : Nat)

/-- An `InteractionAnchor` with the stable name of its operation. -/
structure OperatedAnchor where
  anchor : InteractionAnchor
  operation : String

structure TimelineRangeSlice where
  matchedCount : Nat
  observations : List TimelineObservation
  truncated : Bool

/-- The interactions are loaded by their identifiers. -/
structure MarkerEvidence where
  range : ResolvedRange
  callerMarkers : List ArtifactMarker
  timeline : TimelineRangeSlice
  interactions : List OperatedAnchor

structure AssembledMarkers where
  markers : List ArtifactMarker
  warnings : List BundleWarning

def maxBundleCallerMarkers : Nat := 64

def maxBundleArtifactMarkers : Nat := 256

def maxBundleTimelineRows : Nat := 1024

/-- `validate_caller_markers`, of the number and the identities of the markers. -/
structure AcceptedCallers (callerMarkers : List ArtifactMarker) : Prop where
  count : callerMarkers.length ≤ maxBundleCallerMarkers
  unique : (callerMarkers.map ArtifactMarker.id).Nodup

/-- `NonEmptyText::new`. -/
def nonEmpty (text message : String) : Result String := do
  refuse (isBlank text = true) (invalid message)
  return text

def navigationLabel (id : NavigationId) : String := "Navigation " ++ hyphenated ⟨id.uuid⟩

def markerLabel (id : MarkerId) : String := "Marker " ++ hyphenated ⟨id.uuid⟩

/-- `interactions.get`. -/
def interactionOf (interactions : List OperatedAnchor) (id : InteractionId) : Option OperatedAnchor :=
  interactions.find? fun loaded => decide (loaded.anchor.interactionId = id)

/-- The label of an interaction, and whether it is made of the identifier alone. -/
def interactionLabel (id : InteractionId) (interactions : List OperatedAnchor) : Result (String × Bool) :=
  match interactionOf interactions id with
  | some loaded => do
    let label ← nonEmpty ("Interaction " ++ hyphenated ⟨id.uuid⟩ ++ ": " ++ loaded.operation)
      "interaction anchor marker label must not be empty"
    return (label, false)
  | none => do
    let label ← nonEmpty ("Interaction " ++ hyphenated ⟨id.uuid⟩) "interaction fallback label must not be empty"
    return (label, true)

structure AnchorMarkerResult where
  marker : Option ArtifactMarker
  syntheticLabel : Bool

def anchorMarker (range : ResolvedRange) (interactions : List OperatedAnchor) : Result AnchorMarkerResult :=
  let effectiveTime := range.resolvedAnchor.effectiveTime
  match range.resolvedAnchor.reference with
  | .interaction id => do
    let (label, synthetic) ← interactionLabel id interactions
    return ⟨some ⟨.interaction id, effectiveTime, "interaction", label⟩, synthetic⟩
  | .navigation id => return ⟨some ⟨.navigation id, effectiveTime, "navigation", navigationLabel id⟩, false⟩
  | .marker id => return ⟨some ⟨.marker id, effectiveTime, "marker", markerLabel id⟩, true⟩
  | .interval | .sourceFrames .. => return ⟨none, false⟩

def interactionMarker (loaded : OperatedAnchor) : Result ArtifactMarker := do
  let label ← nonEmpty ("Interaction " ++ hyphenated ⟨loaded.anchor.interactionId.uuid⟩ ++ ": " ++ loaded.operation)
    "interaction marker label must not be empty"
  return ⟨.interaction loaded.anchor.interactionId, loaded.anchor.timing.dispatchedAt, "interaction", label⟩

def navigationMarker (id : NavigationId) (time : SessionTime) : ArtifactMarker := ⟨.navigation id, time, "navigation", navigationLabel id⟩

def genericMarker (id : MarkerId) (time : SessionTime) : ArtifactMarker := ⟨.marker id, time, "marker", markerLabel id⟩

def classRank : ArtifactMarkerId → Nat
  | .interaction _ => 0
  | .navigation _ => 1
  | .marker _ => 2
  | .caller _ => 3

def uuidBytes (uuid : Uuid) : List Nat := uuid.bytes.map UInt8.toNat

def stableIdBytes : ArtifactMarkerId → List Nat
  | .interaction id => uuidBytes id.uuid
  | .navigation id => uuidBytes id.uuid
  | .marker id => uuidBytes id.uuid
  | .caller text => text.toUTF8.data.toList.map UInt8.toNat

/-- The distance of a marker from the anchor. -/
def distance (marker : ArtifactMarker) (anchor : SessionTime) : Nat := Nat.dist marker.sessionTime.nanos.toNat anchor.nanos.toNat

def candidateRank (anchor : SessionTime) (marker : ArtifactMarker) : Nat ×ₗ Nat ×ₗ Nat ×ₗ List Nat :=
  toLex (distance marker anchor, toLex (classRank marker.id, toLex (marker.sessionTime.nanos.toNat, stableIdBytes marker.id)))

def presentationOrder (marker : ArtifactMarker) : Nat ×ₗ Nat ×ₗ List Nat :=
  toLex (marker.sessionTime.nanos.toNat, toLex (classRank marker.id, stableIdBytes marker.id))

/-- The variables of the loop over the timeline. -/
structure Collected where
  candidates : List ArtifactMarker
  warnings : List BundleWarning
  seenInteractions : List InteractionId
  seenNavigations : List NavigationId
  seenMarkers : List MarkerId

def inRange (range : ResolvedRange) (marker : ArtifactMarker) : Prop :=
  range.resolvedRange.fst ≤ marker.sessionTime ∧ marker.sessionTime ≤ range.resolvedRange.snd

instance (range : ResolvedRange) (marker : ArtifactMarker) : Decidable (inRange range marker) := inferInstanceAs (Decidable (_ ∧ _))

/-- A turn of the loop over the timeline. -/
def collect (evidence : MarkerEvidence) (mandatoryIds : List ArtifactMarkerId) (state : Collected) (observation : TimelineObservation) :
    Result Collected :=
  match observation.payload with
  | .interaction id =>
    if id ∈ state.seenInteractions then
      return state
    else
      let state := { state with seenInteractions := id :: state.seenInteractions }
      if .interaction id ∈ mandatoryIds then
        return state
      else
        match interactionOf evidence.interactions id with
        | none => return state
        | some loaded => do
          let marker ← interactionMarker loaded
          return if inRange evidence.range marker then { state with candidates := state.candidates ++ [marker] } else state
  | .navigation id =>
    if id ∈ state.seenNavigations then
      return state
    else
      let state := { state with seenNavigations := id :: state.seenNavigations }
      if .navigation id ∈ mandatoryIds then
        return state
      else
        let marker := navigationMarker id observation.sessionTime
        return if inRange evidence.range marker then { state with candidates := state.candidates ++ [marker] } else state
  | .marker id =>
    if id ∈ state.seenMarkers then
      return state
    else
      let state := { state with seenMarkers := id :: state.seenMarkers }
      if .marker id ∈ mandatoryIds then
        return state
      else
        let marker := genericMarker id observation.sessionTime
        return if inRange evidence.range marker then
          { state with candidates := state.candidates ++ [marker], warnings := state.warnings ++ [.markerLabelUnavailable (.marker id)] }
        else state
  | .other => return state

/-- The anchor's marker conflicts with the caller's of the same identity. -/
def Conflicts (callerMarkers : List ArtifactMarker) (anchor : Option ArtifactMarker) : Prop :=
  ∃ marker ∈ anchor, ∃ caller ∈ callerMarkers.find? (fun caller => decide (caller.id = marker.id)), caller.sessionTime ≠ marker.sessionTime

instance (callerMarkers : List ArtifactMarker) (anchor : Option ArtifactMarker) : Decidable (Conflicts callerMarkers anchor) :=
  inferInstanceAs (Decidable (∃ marker ∈ anchor, _))

/-- The list of markers and its warnings, from the mandatory ones and the ranked candidates. -/
def combine (mandatory ranked : List ArtifactMarker) (warnings : List BundleWarning) : AssembledMarkers :=
  let total := mandatory.length + ranked.length
  if total > maxBundleArtifactMarkers then
    let markers := mandatory ++ ranked.take (maxBundleArtifactMarkers - mandatory.length)
    ⟨sortByKey presentationOrder markers, warnings ++ [.markersTruncated total markers.length maxBundleArtifactMarkers]⟩
  else
    ⟨sortByKey presentationOrder (mandatory ++ ranked), warnings⟩

def assembleMarkers (evidence : MarkerEvidence) : Result AssembledMarkers := do
  let effectiveAnchor := evidence.range.resolvedAnchor.effectiveTime
  let warnings := if evidence.timeline.truncated then
    [.timelineMarkerEvidenceTruncated evidence.timeline.matchedCount evidence.timeline.observations.length maxBundleTimelineRows]
  else []
  let anchor ← anchorMarker evidence.range evidence.interactions
  refuse (Conflicts evidence.callerMarkers anchor.marker)
    (invalid "caller marker session time conflicts with the resolved anchor at the same identifier")
  let callerIds := evidence.callerMarkers.map ArtifactMarker.id
  let added := anchor.marker.filter fun marker => decide (marker.id ∉ callerIds)
  let warnings := if anchor.syntheticLabel then warnings ++ added.toList.map (.markerLabelUnavailable ·.id) else warnings
  let mandatory := evidence.callerMarkers ++ added.toList
  let collected ← evidence.timeline.observations.foldlM (collect evidence (mandatory.map ArtifactMarker.id)) ⟨[], warnings, [], [], []⟩
  return combine mandatory (sortByKey (candidateRank effectiveAnchor) collected.candidates) collected.warnings

end Krometrail.DebugBundle
