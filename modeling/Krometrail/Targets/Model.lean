import Krometrail.Core.Session

/-!
# Target supervision: the data model

The transport-neutral values of target supervision (`targets/model.rs`): what the transport reports, the state of a
supervised target and of the supervisor, the inputs it reduces and the effects it asks for.  A `HashMap` is a
finite map `ExtTreeMap`, which two maps with the same entries make equal; the order in which the code visits a
`HashMap` is not determined, so it is a parameter (`VisitOrder`).

Fields that no reduction reads are left out: whether a target is attached and the browser context it lives in
(`TransportTargetInfo`), the reasons of a detach and of a lost connection, and how the browser process exited.
-/

namespace Krometrail

open Std (ExtTreeMap)

structure TransportSessionId where
  value : String
  nonblank : isBlank value = false
  deriving DecidableEq

instance : Ord TransportSessionId where
  compare a b := compare a.value b.value

instance : Std.TransOrd TransportSessionId where
  eq_swap {a b} := Std.OrientedOrd.eq_swap (a := a.value) (b := b.value)
  isLE_trans {a b c} := Std.TransOrd.isLE_trans (a := a.value) (b := b.value) (c := c.value)

instance : Std.LawfulEqOrd TransportSessionId where
  eq_of_compare {a b} h := by
    have hv : a.value = b.value := Std.LawfulEqOrd.eq_of_compare h
    cases a
    cases b
    simpa using hv

/-- Only `new` builds a `TransportTargetInfo`, and it refuses a blank key or type. -/
structure TransportTargetInfo where
  targetKey : String
  targetType : String
  url : String
  title : String
  openerTargetKey : Option String
  key_nonblank : isBlank targetKey = false
  type_nonblank : isBlank targetType = false

def isInternalUrl (url : String) : Bool :=
  ["devtools://", "chrome://", "chrome-extension://", "edge://", "about:devtools", "about:inspect"].any
    (trimmedLowercaseStartsWith url)

namespace TransportTargetInfo

def new (targetKey targetType url title : String) : Result TransportTargetInfo :=
  if hkey : isBlank targetKey = false then
    if htype : isBlank targetType = false then
      .ok ⟨targetKey, targetType, url, title, none, hkey, htype⟩
    else .error (invalid "browser target type must not be empty")
  else .error (invalid "browser target key must not be empty")

def withOpenerTargetKey (info : TransportTargetInfo) (openerTargetKey : Option String) : TransportTargetInfo :=
  { info with openerTargetKey }

def isRecordable (info : TransportTargetInfo) : Bool :=
  info.targetType == "page" && !isBlank info.url && !isInternalUrl info.url

end TransportTargetInfo

structure ReconnectedTarget where
  info : TransportTargetInfo
  session : Option TransportSessionId
  visibility : TargetVisibility

structure ReconnectedSnapshot where
  connectionGeneration : Nat
  compatibility : BrowserCompatibility
  targets : List ReconnectedTarget

structure CaptureEffectContext where
  targetId : TargetId
  connectionGeneration : Nat
  attachmentGeneration : Nat
  transportSession : TransportSessionId
  deriving DecidableEq

structure ViewportEffectContext where
  targetId : TargetId
  targetKey : String
  connectionGeneration : Nat
  attachmentGeneration : Nat
  transportSession : TransportSessionId
  deriving DecidableEq

inductive CaptureBinding where
  | inactive
  | unavailable
  | active (context : CaptureEffectContext)
  | suspended (context : CaptureEffectContext)
  | terminal
  deriving DecidableEq

structure SupervisorTargetState where
  target : SupervisedTarget
  transportSession : Option TransportSessionId
  priorToSuspension : Option TargetLifecycle
  captureBinding : CaptureBinding
  viewportOverride : Option ViewportMetrics
  pageSequence : PageSequence
  openerTargetKey : Option String
  openerTargetId : Option TargetId
  lastVisibilityObservedAt : Option SessionTime

namespace SupervisorTargetState

def lifecycle (target : SupervisorTargetState) : TargetLifecycle := target.target.lifecycle

def id (target : SupervisorTargetState) : TargetId := target.target.target.id

/-- `matches!(target.target.lifecycle, Closed | Failed)`. -/
def isTerminal (target : SupervisorTargetState) : Bool := target.lifecycle.isTerminal

end SupervisorTargetState

abbrev TargetTable := ExtTreeMap String SupervisorTargetState

/-- An order in which a pass over the target table visits its keys. -/
structure VisitOrder where
  keys : TargetTable → List String
  perm : ∀ table : TargetTable, (keys table).Perm table.keys

def VisitOrder.sorted : VisitOrder := ⟨fun table => table.keys, fun _ => List.Perm.refl _⟩

structure SupervisorState where
  sessionState : BrowserSessionState
  connectionGeneration : Nat
  revision : Nat
  compatibility : BrowserCompatibility
  targetsByKey : TargetTable
  targetKeyBySession : ExtTreeMap TransportSessionId String
  pendingAttachedSessions : ExtTreeMap String TransportSessionId
  pendingAttachedOrder : List String
  selectedTargetKey : Option String
  nextPageSequence : Nat

def SupervisorState.new (compatibility : BrowserCompatibility) : SupervisorState where
  sessionState := .connecting
  connectionGeneration := 0
  revision := 0
  compatibility := compatibility
  targetsByKey := ∅
  targetKeyBySession := ∅
  pendingAttachedSessions := ∅
  pendingAttachedOrder := []
  selectedTargetKey := none
  nextPageSequence := 2

inductive ShutdownCause where
  | stopRequested | cancelled | browserProcessTerminated | reconnectExhausted
  deriving DecidableEq

inductive SupervisorInput where
  | initialTargets (infos : List TransportTargetInfo)
  | initialReconciliationCompleted
  | targetCreated (info : TransportTargetInfo)
  | targetInfoChanged (info : TransportTargetInfo)
  | attached (targetKey : String) (session : TransportSessionId)
  | unsolicitedAttached (targetKey : String) (session : TransportSessionId)
  | targetAttachFailed (targetKey : String)
  | captureStartFailed (context : CaptureEffectContext)
  | detached (session : TransportSessionId)
  | targetDestroyed (targetKey : String)
  | visibilityChanged (targetKey : String) (visibility : TargetVisibility) (observedAt : SessionTime)
  | domainSetupFailed (targetKey : String)
  | initialVisibilityProbeFailed (targetKey : String)
  | captureVisibilityChanged (targetId : TargetId) (visibility : TargetVisibility) (observedAt : SessionTime)
  | selectTarget (targetKey : String)
  | viewportOverrideApplied (targetKey : String) (viewport : Option ViewportMetrics)
  | connectionLost
  | browserProcessTerminated
  | reconnected (snapshot : ReconnectedSnapshot)
  | reconnectExhausted
  | stopRequested
  | cancelled
  | forConnectionGeneration (generation : Nat) (input : SupervisorInput)

inductive SupervisorEffect where
  | attach (targetKey : String)
  | releaseWaitingTarget (session : TransportSessionId)
  | detach (session : TransportSessionId)
  | restoreSessionDomains (targetKey : String) (session : TransportSessionId)
  | restoreViewport (context : ViewportEffectContext) (viewport : ViewportMetrics)
  | probeInitialVisibility (targetKey : String) (session : TransportSessionId)
  | startCapture (context : CaptureEffectContext)
  | suspendCapture (context : CaptureEffectContext)
  | resumeCapture (context : CaptureEffectContext)
  | stopCapture (context : CaptureEffectContext)
  | publish (event : BrowserSessionEvent)
  | beginReconnect
  | shutdown (cause : ShutdownCause)
  deriving DecidableEq

/-- A reduction in progress, or its result: the state and the effects asked for so far. -/
structure Reduction where
  state : SupervisorState
  effects : List SupervisorEffect

def makeTarget (id : TargetId) (info : TransportTargetInfo) (lifecycle : TargetLifecycle)
    (visibility : TargetVisibility) (generation : Nat) : Result SupervisedTarget := do
  let target ← PageTarget.new id info.targetKey info.url info.title
  return { target, lifecycle, visibility, attachmentGeneration := generation }

def closeEvent (target : SupervisorTargetState) : SupervisorEffect := .publish (.targetClosed target.id)

def targetChangedEvent (target : SupervisorTargetState) : SupervisorEffect :=
  .publish (.targetChanged target.target)

def targetDiscoveredEvent (target : SupervisorTargetState) : SupervisorEffect :=
  .publish (.targetDiscovered target.target)

def targetError : KrometrailError := .fromBrowserFailure .targetFailed "browser target supervision failed"

def processError : KrometrailError :=
  (KrometrailError.fromBrowserFailure .browserProcessTerminated "the managed browser process terminated").withRecovery
    "call start_browser to create a new browser session before continuing"

def reconnectError : KrometrailError :=
  (KrometrailError.fromBrowserFailure .reconnectExhausted "browser reconnection attempts were exhausted").withRecovery
    "call start_browser to create a new browser session before continuing"

def cancelledError : KrometrailError := .fromBrowserFailure .cancelled "browser supervision was cancelled"

end Krometrail
