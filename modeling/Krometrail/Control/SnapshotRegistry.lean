import Krometrail.Control.Decoding
import Krometrail.Lib.Runs
import Krometrail.Timeline.Ranges

/-!
# The snapshot registry

The registry of a page control keeps, for each target, the last generation of its snapshots and the active one.  A
capture of the document of the active snapshot keeps its generation and its identities, a capture of any other document
draws the next generation.  The page control runs one operation at a time, so that a capture is one step, whatever it
fails at.
-/

namespace Krometrail.Control

structure DocumentFingerprint where
  frameId : String
  loaderId : String
  deriving DecidableEq

structure PageFrameReference where
  targetId : TargetId
  attachmentGeneration : Nat
  frameKey : String

structure ResolvedFrameDocument where
  reference : PageFrameReference
  fingerprint : DocumentFingerprint

structure BoundTarget where
  targetId : TargetId
  attachmentGeneration : Nat

structure ObservationContext where
  sessionId : SessionId
  targetId : TargetId
  attachmentGeneration : Nat
  startedAt : SessionTime
  completedAt : SessionTime
  deriving DecidableEq

structure PageSnapshot where
  context : ObservationContext
  generation : SnapshotGeneration
  nodes : List SnapshotNode
  omittedNodeCount : Nat
  deriving DecidableEq

structure ActiveSnapshot where
  generation : SnapshotGeneration
  attachmentGeneration : Nat
  document : DocumentFingerprint
  frame : Option PageFrameReference
  bindings : SnapshotNodeId → Option Int
  identities : Identities

structure TargetSnapshotRegistry where
  nextGeneration : Nat
  active : Option ActiveSnapshot

structure SnapshotRegistry where
  targets : TargetId → Option TargetSnapshotRegistry

def SnapshotRegistry.empty : SnapshotRegistry := ⟨fun _ => none⟩

def ObservationContext.new (sessionId : SessionId) (targetId : TargetId) (attachmentGeneration : Nat)
    (startedAt completedAt : SessionTime) : Result ObservationContext := do
  refuse (startedAt > completedAt) (invalid "observation start must not exceed completion")
  return { sessionId, targetId, attachmentGeneration, startedAt, completedAt }

def checkParent (seen : SnapshotNodeId → Option Nat) (node : SnapshotNode) : Result Unit :=
  match node.parent with
  | none => refuse (node.depth ≠ 0) (invalid "root snapshot nodes must have depth zero")
  | some parent => do
    let parentDepth ← okOr (seen parent) (invalid "snapshot parents must precede children")
    refuse (node.depth ≠ min (parentDepth + 1) (2 ^ 16 - 1)) (invalid "snapshot node depth does not follow its parent")

/-- The checks of `PageSnapshot::new` on one node, after nodes of the depths `seen`. -/
def checkNode (context : ObservationContext) (generation : SnapshotGeneration) (seen : SnapshotNodeId → Option Nat)
    (node : SnapshotNode) : Result (SnapshotNodeId → Option Nat) := do
  refuse (isBlank node.role) (invalid "snapshot node role must not be empty")
  refuse (seen node.id).isSome (invalid "snapshot node ids must be unique")
  let seen := Function.update seen node.id (some node.depth)
  checkParent seen node
  refuse (node.actionable ≠ node.reference.isSome) (invalid "actionable snapshot nodes must have exactly one reference")
  refuse (∃ reference ∈ node.reference, reference ≠ ⟨context.targetId, generation, node.id⟩)
    (invalid "snapshot reference scope does not match its node")
  refuse (node.properties.any fun property => isBlank property.name) (invalid "accessible property name must not be empty")
  return seen

/-- The numbers among the properties are finite by their type. -/
def PageSnapshot.new (context : ObservationContext) (generation : SnapshotGeneration) (nodes : List SnapshotNode)
    (omittedNodeCount : Nat) : Result PageSnapshot := do
  let _ ← nodes.foldlM (checkNode context generation) fun _ => none
  return { context, generation, nodes, omittedNodeCount }

namespace SnapshotRegistry

/-- `entry(target_id).or_default()`. -/
def entry (registry : SnapshotRegistry) (targetId : TargetId) : TargetSnapshotRegistry :=
  (registry.targets targetId).getD ⟨0, none⟩

def set (registry : SnapshotRegistry) (targetId : TargetId) (target : TargetSnapshotRegistry) : SnapshotRegistry :=
  ⟨Function.update registry.targets targetId (some target)⟩

def beginSnapshot (registry : SnapshotRegistry) (targetId : TargetId) (attachmentGeneration : Nat)
    (document : DocumentFingerprint) : SnapshotRegistry × Result (SnapshotGeneration × Identities) :=
  let target := registry.entry targetId
  (registry.set targetId target,
    match target.active.filter fun active =>
      active.attachmentGeneration = attachmentGeneration ∧ active.document = document with
    | some active => .ok (active.generation, active.identities)
    | none => do
      let next ← okOr (checkedAdd target.nextGeneration 1)
        (operationError .pageObservationFailed "snapshot generation space is exhausted")
      let generation ← SnapshotGeneration.new next
      return (generation, ⟨fun _ => none, 0⟩))

def install (registry : SnapshotRegistry) (targetId : TargetId) (active : ActiveSnapshot) : SnapshotRegistry :=
  registry.set targetId ⟨active.generation.value, some active⟩

def retainTargets (registry : SnapshotRegistry) (live : List TargetId) : SnapshotRegistry :=
  ⟨fun targetId => if targetId ∈ live then registry.targets targetId else none⟩

def invalidateTarget (registry : SnapshotRegistry) (targetId : TargetId) : SnapshotRegistry :=
  match registry.targets targetId with
  | none => registry
  | some target => registry.set targetId { target with active := none }

def activeReferenceBackend (registry : SnapshotRegistry) (bound : BoundTarget) (reference : NodeReference) :
    Result (ActiveSnapshot × Int) := do
  refuse (reference.targetId ≠ bound.targetId) (stale "reference belongs to another target")
  let active ← okOr ((registry.targets bound.targetId).bind TargetSnapshotRegistry.active)
    (stale "target has no active snapshot")
  refuse (active.generation ≠ reference.generation) (stale "snapshot generation is no longer active")
  refuse (active.attachmentGeneration ≠ bound.attachmentGeneration) (stale "target attachment changed after the snapshot")
  let backend ← okOr (active.bindings reference.nodeId) (stale "snapshot node has no backing document node")
  return (active, backend)

/-- `browser` answers with the document that the page, or the frame, shows now. -/
def validatedReferenceBackend (registry : SnapshotRegistry) (bound : BoundTarget) (reference : NodeReference)
    (browser : Option PageFrameReference → Result DocumentFingerprint) : Result Int := do
  let (active, backend) ← registry.activeReferenceBackend bound reference
  let current ← browser active.frame
  refuse (current ≠ active.document) (stale "document changed after the snapshot")
  return backend

end SnapshotRegistry

/-- What the browser answers for the semantics of the document: the command itself, its decoding, and the document that
the page shows after it. -/
structure DomReplies where
  sent : Result Unit
  decoded : Result Unit
  current : Result DocumentFingerprint

/-- What the browser and the clock answer to the steps of a capture, in their order. -/
structure CaptureReplies where
  startedAt : SessionTime
  document : Result DocumentFingerprint
  accessibilityTree : Result (Option AxTreeResponse)
  dom : Option DomReplies
  completedAt : Result SessionTime

/-- A snapshot that was returned, with the document that it shows, the backend nodes of its references, and the identities
that the registry keeps of it. -/
structure Capture where
  snapshot : PageSnapshot
  document : DocumentFingerprint
  published : List (NodeReference × Int)
  identities : Identities

/-- The steps of a capture before `begin_snapshot`. -/
def observeDocument (frame : Option ResolvedFrameDocument) (replies : CaptureReplies) :
    Result (DocumentFingerprint × Option AxTreeResponse) := do
  let document ← frame.elim replies.document fun frame => .ok frame.fingerprint
  let response ← replies.accessibilityTree
  replies.dom.elim (.ok ()) DomReplies.sent
  return (document, response)

def DomReplies.check (dom : DomReplies) (document : DocumentFingerprint) : Result Unit := do
  dom.decoded
  let current ← dom.current
  refuse (current ≠ document) (stale "document changed while capturing the semantic snapshot")

/-- The steps of a capture between `begin_snapshot` and `install`. -/
def decodeSnapshot (sessionId : SessionId) (bound : BoundTarget) (frame : Option ResolvedFrameDocument)
    (replies : CaptureReplies) (document : DocumentFingerprint) (response : Option AxTreeResponse)
    (generation : SnapshotGeneration) (identities : Identities) : Result (Capture × ActiveSnapshot) := do
  let d ← decodeAxTreeWithIds response ⟨bound.targetId, generation⟩ identities document.frameId
  replies.dom.elim (.ok ()) fun dom => dom.check document
  let completedAt ← replies.completedAt
  let context ← ObservationContext.new sessionId bound.targetId bound.attachmentGeneration replies.startedAt completedAt
  let snapshot ← PageSnapshot.new context generation d.nodes d.omitted
  return (⟨snapshot, document, d.published, d.identities⟩,
    { generation, attachmentGeneration := bound.attachmentGeneration, document, frame := frame.map (·.reference),
      bindings := d.bindings, identities := d.identities })

def captureSnapshotForFrame (registry : SnapshotRegistry) (sessionId : SessionId) (bound : BoundTarget)
    (frame : Option ResolvedFrameDocument) (replies : CaptureReplies) : SnapshotRegistry × Result Capture :=
  match observeDocument frame replies with
  | .error error => (registry, .error error)
  | .ok (document, response) =>
    match registry.beginSnapshot bound.targetId bound.attachmentGeneration document with
    | (registry, .error error) => (registry, .error error)
    | (registry, .ok (generation, identities)) =>
      match decodeSnapshot sessionId bound frame replies document response generation identities with
      | .error error => (registry, .error error)
      | .ok (capture, active) => (registry.install bound.targetId active, .ok capture)

/-- `captures` lists the snapshots that were returned, the last one first. -/
structure State where
  registry : SnapshotRegistry
  captures : List Capture

inductive Input
  | capture (sessionId : SessionId) (bound : BoundTarget) (frame : Option ResolvedFrameDocument) (replies : CaptureReplies)
  | invalidateTarget (targetId : TargetId)
  | retainTargets (live : List TargetId)

def State.next (s : State) : Input → State
  | .capture sessionId bound frame replies =>
    match captureSnapshotForFrame s.registry sessionId bound frame replies with
    | (registry, .error _) => { s with registry }
    | (registry, .ok capture) => ⟨registry, capture :: s.captures⟩
  | .invalidateTarget targetId => { s with registry := s.registry.invalidateTarget targetId }
  | .retainTargets live => { s with registry := s.registry.retainTargets live }

def State.initial : State := ⟨.empty, []⟩

/-- A page control.  Its references are resolved in any state that it reaches. -/
def pageControl : Runs.System State Input Unit := .ofExec (· = .initial) fun s input => some (s.next input)

end Krometrail.Control
