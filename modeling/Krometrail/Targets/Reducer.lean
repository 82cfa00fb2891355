import Krometrail.Targets.Model

/-!
# Target supervision: the reducer

The single-writer reducer of `targets/reducer.rs`.  `reduce` takes the state and one input to the next state and the
effects to carry out, or to an error.  Every function below takes the `Reduction` under way (the state that the source
borrows mutably and the effects collected so far) and gives the next one; a visit over the target table follows the
given `VisitOrder`.
-/

namespace Krometrail

open Std (ExtTreeMap)
open TargetLifecycle (discovered attached recording suspended closed failed)

/-- `MAX_PENDING_ATTACHED_SESSIONS`. -/
def maxPendingAttachedSessions : Nat := 16

def invalidState (message : String) : KrometrailError := .new .invalidLifecycleTransition message

def Reduction.push (r : Reduction) (effect : SupervisorEffect) : Reduction :=
  { r with effects := r.effects ++ [effect] }

/-- Store `target` under `key`. -/
def Reduction.store (r : Reduction) (key : String) (target : SupervisorTargetState) : Reduction :=
  { r with state := { r.state with targetsByKey := r.state.targetsByKey.insert key target } }

def publish (r : Reduction) (event : BrowserSessionEvent) : Reduction :=
  { state := { r.state with revision := saturatingAdd r.state.revision 1 }
    effects := r.effects ++ [.publish event] }

/-- The test of `selection_candidate` on the target stored under a key. -/
def SupervisorTargetState.isCandidate (target : SupervisorTargetState) : Bool :=
  target.transportSession.isSome && !(target.isTerminal || target.lifecycle == suspended)

def selectionCandidate (state : SupervisorState) (key : String) : Bool :=
  state.targetsByKey[key]?.any (·.isCandidate)

def selectedId (state : SupervisorState) (key : Option String) : Option TargetId :=
  (key.bind (state.targetsByKey[·]?)).map (·.id)

def setSelection (r : Reduction) (selected : Option String) : Reduction :=
  if r.state.selectedTargetKey = selected then r
  else
    let previous := selectedId r.state r.state.selectedTargetKey
    let next := selectedId r.state selected
    publish { r with state := { r.state with selectedTargetKey := selected } } (.selectedTargetChanged previous next)

/-- The least key, in the order of keys, that `selectionCandidate` accepts. -/
def leastCandidate (state : SupervisorState) : Option String :=
  (state.targetsByKey.keys.filter (selectionCandidate state)).min?

def reconcileSelection (r : Reduction) : Reduction :=
  if r.state.selectedTargetKey.any (selectionCandidate r.state) then r
  else setSelection r (leastCandidate r.state)

def selectTarget (r : Reduction) (targetKey : String) : Result Reduction :=
  if selectionCandidate r.state targetKey then .ok (setSelection r (some targetKey)) else .error targetError

/-- The table of `set_session_state`. -/
def BrowserSessionState.allows : BrowserSessionState → BrowserSessionState → Bool
  | .connecting, .ready => true
  | .connecting, .reconnecting => true
  | .connecting, .stopping => true
  | .ready, .reconnecting => true
  | .ready, .stopping => true
  | .reconnecting, .ready => true
  | .reconnecting, .stopping => true
  | .stopping, .ended => true
  | .connecting, .ended => true
  | _, _ => false

def setSessionState (r : Reduction) (next : BrowserSessionState) : Result Reduction :=
  if r.state.sessionState = next then .ok r
  else if r.state.sessionState.allows next then
    .ok (publish { r with state := { r.state with sessionState := next } } (.sessionStateChanged next))
  else .error (invalidState "invalid browser session state transition")

def beginShutdown (r : Reduction) (cause : ShutdownCause) : Result Reduction :=
  if r.state.sessionState = .ended then .ok r
  else if r.state.sessionState = .stopping then .ok r
  else do
    let r ← setSessionState r .stopping
    return r.push (.shutdown cause)

/-! ### Pending and live attachments -/

def removePendingKey (state : SupervisorState) (key : String) : SupervisorState × Option TransportSessionId :=
  ({ state with
      pendingAttachedOrder := state.pendingAttachedOrder.filter (· ≠ key)
      pendingAttachedSessions := state.pendingAttachedSessions.erase key },
    state.pendingAttachedSessions[key]?)

def removePendingSession (state : SupervisorState) (session : TransportSessionId) : SupervisorState :=
  let keys := (state.pendingAttachedSessions.toList.filter fun entry => entry.2 = session).map (·.1)
  keys.foldl (fun state key => (removePendingKey state key).1) state

/-- The `while` loop that evicts the oldest pending sessions: what is left of the sessions and of their order, and the
effects. -/
def evictPending (sessions : ExtTreeMap String TransportSessionId) (effects : List SupervisorEffect) :
    List String → ExtTreeMap String TransportSessionId × List String × List SupervisorEffect
  | [] => (sessions, [], effects)
  | oldest :: order =>
    if sessions.size > maxPendingAttachedSessions then
      match sessions[oldest]? with
      | some session => evictPending (sessions.erase oldest) (effects ++ [.detach session]) order
      | none => evictPending sessions effects order
    else (sessions, oldest :: order, effects)

/-- `attach` for a key that is not tracked (yet): keep the session until its target becomes recordable. -/
def holdPending (r : Reduction) (key : String) (session : TransportSessionId) (unsolicited : Bool) : Reduction :=
  let replaced := (r.state.pendingAttachedSessions[key]?).toList.map SupervisorEffect.detach
  let released := if unsolicited then [SupervisorEffect.releaseWaitingTarget session] else []
  let order :=
    if r.state.pendingAttachedOrder.contains key then r.state.pendingAttachedOrder
    else r.state.pendingAttachedOrder ++ [key]
  let kept := evictPending (r.state.pendingAttachedSessions.insert key session)
    (r.effects ++ replaced ++ released) order
  { state := { r.state with pendingAttachedSessions := kept.1, pendingAttachedOrder := kept.2.1 }
    effects := kept.2.2 }

/-- The target of an attachment, with its next generation and the lifecycle it resumes. -/
def attachedTarget (target : SupervisorTargetState) (session : TransportSessionId) :
    Result SupervisorTargetState := do
  let generation ← okOr (checkedAdd target.target.attachmentGeneration 1)
    (invalidState "target attachment generation overflow")
  let lifecycle ← target.lifecycle.transition (target.priorToSuspension.getD attached)
  let lifecycle ← (if lifecycle = discovered then lifecycle.transition attached else Except.ok lifecycle)
  return { target with
    transportSession := some session
    priorToSuspension := none
    target := { target.target with attachmentGeneration := generation, lifecycle } }

/-- The effects after a live attachment. -/
def attachmentEffects (state : SupervisorState) (key : String) (target : SupervisorTargetState)
    (session : TransportSessionId) (probeVisibility : Bool) : List SupervisorEffect :=
  let viewport := target.viewportOverride.toList.map fun viewport =>
    SupervisorEffect.restoreViewport
      { targetId := target.id
        targetKey := key
        connectionGeneration := state.connectionGeneration
        attachmentGeneration := target.target.attachmentGeneration
        transportSession := session } viewport
  [targetChangedEvent target] ++ viewport ++ if probeVisibility then [.restoreSessionDomains key session] else []

/-- `attach` for a tracked target that is not terminal and does not hold the session. -/
def attachLive (r : Reduction) (key : String) (target : SupervisorTargetState) (session : TransportSessionId)
    (probeVisibility : Bool) : Result Reduction := do
  let previous := target.transportSession
  let bySession := previous.elim r.state.targetKeyBySession r.state.targetKeyBySession.erase
  let detached := previous.toList.map SupervisorEffect.detach
  let target ← attachedTarget target session
  return {
    state := { r.state with
      targetKeyBySession := bySession.insert session key
      targetsByKey := r.state.targetsByKey.insert key target }
    effects := r.effects ++ detached ++ attachmentEffects r.state key target session probeVisibility }

def attach (r : Reduction) (key : String) (session : TransportSessionId) (probeVisibility unsolicited : Bool) :
    Result Reduction :=
  match r.state.targetsByKey[key]? with
  | none => .ok (holdPending r key session unsolicited)
  | some target =>
    if target.isTerminal then .ok r
    else if target.transportSession = some session then .ok r
    else attachLive r key target session probeVisibility

def adoptPendingAttachment (r : Reduction) (key : String) : Result Reduction :=
  let removed := removePendingKey r.state key
  match removed.2 with
  | none => .ok { r with state := removed.1 }
  | some session => attach { r with state := removed.1 } key session true false

def detachFailed (r : Reduction) (session : TransportSessionId) : Result Reduction :=
  match r.state.targetKeyBySession[session]? with
  | none => .ok r
  | some key =>
    let r := { r with state := { r.state with targetKeyBySession := r.state.targetKeyBySession.erase session } }
    match r.state.targetsByKey[key]? with
    | none => .ok r
    | some target =>
      if target.isTerminal then .ok (r.store key { target with transportSession := none })
      else do
        let lifecycle ← target.lifecycle.transition failed
        let r := r.store key { target with
          transportSession := none
          priorToSuspension := none
          target := { target.target with lifecycle } }
        return reconcileSelection (publish r (.targetFailed target.id targetError))

def domainSetupFailed (r : Reduction) (key : String) : Result Reduction :=
  match r.state.targetsByKey[key]? with
  | none => .ok r
  | some target =>
    if target.isTerminal then .ok r
    else do
      let session := target.transportSession
      let lifecycle ← target.lifecycle.transition failed
      let state := { r.state with
        targetKeyBySession := session.elim r.state.targetKeyBySession r.state.targetKeyBySession.erase }
      let r := Reduction.store { state, effects := r.effects ++ session.toList.map SupervisorEffect.detach } key
        { target with
          transportSession := none
          priorToSuspension := none
          captureBinding := .terminal
          target := { target.target with lifecycle } }
      return reconcileSelection (publish r (.targetFailed target.id targetError))

def destroy (r : Reduction) (key : String) : Result Reduction :=
  match r.state.targetsByKey[key]? with
  | none => .ok r
  | some target =>
    if target.lifecycle = closed then .ok r
    else do
      let session := target.transportSession
      let state := { r.state with
        targetKeyBySession := session.elim r.state.targetKeyBySession r.state.targetKeyBySession.erase }
      let lifecycle ← (if target.lifecycle = failed then Except.ok failed else target.lifecycle.transition closed)
      let target := { target with transportSession := none, target := { target.target with lifecycle } }
      let r := Reduction.store { state, effects := r.effects ++ session.toList.map SupervisorEffect.detach } key target
      return reconcileSelection (r.push (closeEvent target))

/-- The `TargetAttachFailed` arm. -/
def targetAttachFailed (r : Reduction) (key : String) : Result Reduction :=
  match r.state.targetsByKey[key]? with
  | none => .ok r
  | some target =>
    if target.isTerminal then .ok r
    else do
      let lifecycle ← target.lifecycle.transition failed
      let r := r.store key { target with target := { target.target with lifecycle } }
      return reconcileSelection (publish r (.targetFailed target.id targetError))

def captureStartFailed (r : Reduction) (key : String) : Reduction :=
  match r.state.targetsByKey[key]? with
  | none => r
  | some target =>
    if target.isTerminal then r
    else
      let target := { target with captureBinding := .unavailable }
      (r.store key target).push (targetChangedEvent target)

/-- The key, first in the visit, whose target has `context` as its active capture binding. -/
def activeCaptureKey (order : VisitOrder) (state : SupervisorState) (context : CaptureEffectContext) :
    Option String :=
  (order.keys state.targetsByKey).find? fun key =>
    state.targetsByKey[key]?.any (·.captureBinding = .active context)

/-- The lifecycle that `visibility_changed` moves to. -/
def visibilityLifecycle : TargetLifecycle → TargetVisibility → TargetLifecycle
  | .attached, .hidden => .hidden
  | .recording, .hidden => .hidden
  | .hidden, .visible => recording
  | lifecycle, _ => lifecycle

def visibilityChanged (r : Reduction) (key : String) (visibility : TargetVisibility) (observedAt : SessionTime) :
    Result Reduction :=
  match r.state.targetsByKey[key]? with
  | none => .ok r
  | some target =>
    if target.isTerminal then .ok r
    else if target.lastVisibilityObservedAt.any fun last => observedAt.nanos < last.nanos then .ok r
    else
      let binding := if target.captureBinding = .unavailable then .inactive else target.captureBinding
      let target := { target with lastVisibilityObservedAt := some observedAt, captureBinding := binding }
      if target.target.visibility = visibility then .ok (r.store key target)
      else do
        let next := visibilityLifecycle target.lifecycle visibility
        let lifecycle ← (if next ≠ target.lifecycle then target.lifecycle.transition next else Except.ok next)
        let target := { target with target := { target.target with lifecycle, visibility } }
        return (r.store key target).push (targetChangedEvent target)

/-- The `InitialVisibilityProbeFailed` arm. -/
def initialVisibilityProbeFailed (r : Reduction) (key : String) : Reduction :=
  match r.state.targetsByKey[key]? with
  | none => r
  | some target =>
    if target.transportSession.isSome ∧ target.target.visibility = .unknown ∧ target.captureBinding = .inactive then
      r.store key { target with captureBinding := .unavailable }
    else r

/-- The key, first in the visit, of the target with `targetId`. -/
def keyOfTarget (order : VisitOrder) (state : SupervisorState) (targetId : TargetId) : Option String :=
  (order.keys state.targetsByKey).find? fun key => state.targetsByKey[key]?.any (·.id = targetId)

/-- The `ViewportOverrideApplied` arm. -/
def viewportOverrideApplied (r : Reduction) (key : String) (viewport : Option ViewportMetrics) : Result Reduction :=
  match r.state.targetsByKey[key]? with
  | none => .error targetError
  | some target =>
    if target.transportSession.isNone || (target.isTerminal || target.lifecycle == suspended) then .error targetError
    else .ok (r.store key { target with viewportOverride := viewport })

/-! ### Creation and reconciliation of targets -/

def ensurePageTargetCount (count : Nat) : Result Unit :=
  if count > maxKnownPageTargets then
    .error (.new .resourceLimitExceeded "browser page target limit of 128 was exceeded")
  else .ok ()

/-- The targets that are neither closed nor failed. -/
def liveTargets (table : TargetTable) : TargetTable := table.filter fun _ target => !target.isTerminal

def preparePageTargetSlot (state : SupervisorState) : Result SupervisorState := do
  ensurePageTargetCount ((liveTargets state.targetsByKey).size + 1)
  if state.targetsByKey.size ≥ maxKnownPageTargets then
    let targetsByKey := liveTargets state.targetsByKey
    return { state with
      targetsByKey
      targetKeyBySession := state.targetKeyBySession.filter fun _ key => targetsByKey.contains key }
  else return state

def keyBytes (key : String) : List UInt8 := key.toList.flatMap String.utf8EncodeChar

def rotateLeft (value : UInt64) (n : Nat) : UInt64 := ⟨value.toBitVec.rotateLeft n⟩

/-- The two halves of a target identifier, after the bytes of the key from position `index` on. -/
def mixKey : List UInt8 → Nat → UInt64 × UInt64 → UInt64 × UInt64
  | [], _, halves => halves
  | byte :: bytes, index, (first, second) =>
    let first := (first ^^^ byte.toUInt64) * 0x100000001b3
    let second := (second ^^^ rotateLeft first (index % 63)) * 0x100000001b3
    mixKey bytes (index + 1) (first, second)

/-- Sixteen bytes with the version and variant bits of a UUID set. -/
def uuidShaped (bytes : List UInt8) : List UInt8 :=
  (bytes.modify 6 fun byte => (byte &&& 0x0f) ||| 0x40).modify 8 fun byte => (byte &&& 0x3f) ||| 0x80

/-- The identifier that a key gets at a revision and a connection generation. -/
def targetIdFor (revision connectionGeneration : Nat) (key : String) : TargetId :=
  let halves := mixKey (keyBytes key) 0
    (0xcbf29ce484222325 ^^^ UInt64.ofNat revision, 0x9e3779b185ebca87 ^^^ UInt64.ofNat connectionGeneration)
  ⟨⟨uuidShaped (BigEndian.toBytes 8 halves.1.toNat ++ BigEndian.toBytes 8 halves.2.toNat), by simp [uuidShaped]⟩⟩

def allocateTargetId (state : SupervisorState) (key : String) : SupervisorState × TargetId :=
  let state := { state with revision := saturatingAdd state.revision 1 }
  (state, targetIdFor state.revision state.connectionGeneration key)

/-- What `reconcile_one` and `reconcile_restored` do alike to create a target: make room, allocate the identifier and
the page sequence, and build the target, not stored yet. -/
def createTarget (state : SupervisorState) (info : TransportTargetInfo) (visibility : TargetVisibility)
    (openerTargetId : Option TargetId) : Result (SupervisorState × SupervisorTargetState) := do
  let state ← preparePageTargetSlot state
  let allocated := allocateTargetId state info.targetKey
  let state := allocated.1
  let pageSequence ← PageSequence.new state.nextPageSequence
  let nextPageSequence ← okOr (checkedAdd state.nextPageSequence 1) (invalidState "page sequence overflow")
  let target ← makeTarget allocated.2 info discovered visibility 0
  return ({ state with nextPageSequence },
    { target
      transportSession := none
      priorToSuspension := none
      captureBinding := .inactive
      viewportOverride := none
      pageSequence
      openerTargetKey := info.openerTargetKey
      openerTargetId
      lastVisibilityObservedAt := none })

/-- The identifier of the opener that `info` names, when it is tracked. -/
def openerTargetId (state : SupervisorState) (info : TransportTargetInfo) : Option TargetId :=
  selectedId state info.openerTargetKey

/-- The target changed by new target information: its URL or its title. -/
def infoChanged (target : SupervisorTargetState) (info : TransportTargetInfo) : Bool :=
  target.target.target.url ≠ info.url || target.target.target.title ≠ info.title

/-- The target with the URL and the title of `info`. -/
def withInfo (target : SupervisorTargetState) (info : TransportTargetInfo) : Result SupervisorTargetState := do
  let page ← PageTarget.new target.id info.targetKey info.url info.title
  return { target with target := { target.target with target := page } }

/-- `reconcile_one` where it establishes a new logical target. -/
def establishTarget (r : Reduction) (info : TransportTargetInfo) (openerTargetId : Option TargetId)
    (creationEvent : Bool) : Result Reduction := do
  let created ← createTarget r.state info .unknown openerTargetId
  let effects := if creationEvent then r.effects ++ [targetDiscoveredEvent created.2] else r.effects
  let r := Reduction.store { state := created.1, effects } info.targetKey created.2
  if r.state.pendingAttachedSessions.contains info.targetKey then adoptPendingAttachment r info.targetKey
  else return r.push (.attach info.targetKey)

/-- `reconcile_one` where the target is tracked and not terminal. -/
def refreshTarget (r : Reduction) (target : SupervisorTargetState) (info : TransportTargetInfo) :
    Result Reduction := do
  let r ← (if infoChanged target info then do
      let target ← withInfo target info
      return (r.store info.targetKey target).push (targetChangedEvent target)
    else Except.ok r)
  adoptPendingAttachment r info.targetKey

def reconcileOne (r : Reduction) (info : TransportTargetInfo) (creationEvent : Bool) : Result Reduction :=
  if !info.isRecordable then
    if r.state.targetsByKey.contains info.targetKey then destroy r info.targetKey else .ok r
  else
    match r.state.targetsByKey[info.targetKey]? with
    | some existing =>
      if existing.isTerminal then
        if creationEvent then establishTarget r info (openerTargetId r.state info) creationEvent else .ok r
      else refreshTarget r existing info
    | none => establishTarget r info (openerTargetId r.state info) creationEvent

/-- Destroy the tracked targets whose key is not among `kept`. -/
def destroyMissing (order : VisitOrder) (r : Reduction) (kept : List String) : Result Reduction :=
  (order.keys r.state.targetsByKey).foldlM (fun r key => if kept.contains key then .ok r else destroy r key) r

def reconcileInitial (order : VisitOrder) (r : Reduction) (infos : List TransportTargetInfo) : Result Reduction := do
  let recordable := infos.filter (·.isRecordable)
  let keys := recordable.map (·.targetKey)
  ensurePageTargetCount keys.dedup.length
  let r ← destroyMissing order r keys
  recordable.foldlM (fun r info => reconcileOne r info true) r

/-- `reconcile_restored` for a key that is not tracked. -/
def establishRestored (r : Reduction) (reconnected : ReconnectedTarget) : Result Reduction := do
  let key := reconnected.info.targetKey
  let created ← createTarget r.state reconnected.info reconnected.visibility (openerTargetId r.state reconnected.info)
  let r := Reduction.store { r with state := created.1 } key created.2
  match reconnected.session with
  | some session => attach r key session false false
  | none => return r.push (.attach key)

/-- `reconcile_restored` for a tracked key. -/
def refreshRestored (r : Reduction) (target : SupervisorTargetState) (reconnected : ReconnectedTarget) :
    Result Reduction := do
  let key := reconnected.info.targetKey
  let changed := infoChanged target reconnected.info
  let target ← (if changed then withInfo target reconnected.info else Except.ok target)
  let target := { target with target := { target.target with visibility := reconnected.visibility } }
  let r := r.store key target
  match reconnected.session with
  | some session => attach r key session false false
  | none =>
    let r := if changed then r.push (targetChangedEvent target) else r
    return if target.transportSession.isNone then r.push (.attach key) else r

def reconcileRestored (r : Reduction) (reconnected : ReconnectedTarget) : Result Reduction :=
  match r.state.targetsByKey[reconnected.info.targetKey]? with
  | none => establishRestored r reconnected
  | some target => refreshRestored r target reconnected

def resolveUnresolvedOpeners (state : SupervisorState) : SupervisorState :=
  { state with
    targetsByKey := state.targetsByKey.map fun _ target =>
      if target.openerTargetId.isNone then
        { target with openerTargetId := selectedId state target.openerTargetKey }
      else target }

/-- One turn of the `ConnectionLost` loop. -/
def suspendTarget (r : Reduction) (key : String) : Result Reduction :=
  match r.state.targetsByKey[key]? with
  | none => .ok r
  | some target =>
    if target.isTerminal then .ok r
    else if target.lifecycle = suspended then .ok (r.store key { target with transportSession := none })
    else do
      let lifecycle ← target.lifecycle.transition suspended
      let target := { target with
        priorToSuspension := some target.lifecycle
        target := { target.target with lifecycle } }
      return (r.push (targetChangedEvent target)).store key { target with transportSession := none }

/-- Forget every session the previous connection delivered. -/
def clearSessions (state : SupervisorState) : SupervisorState :=
  { state with targetKeyBySession := ∅, pendingAttachedSessions := ∅, pendingAttachedOrder := [] }

/-- The `ConnectionLost` arm. -/
def connectionLost (order : VisitOrder) (r : Reduction) : Result Reduction := do
  let r ← setSessionState r .reconnecting
  let r ← (order.keys r.state.targetsByKey).foldlM suspendTarget r
  return Reduction.push { r with state := clearSessions r.state } .beginReconnect

def reconnect (order : VisitOrder) (r : Reduction) (snapshot : ReconnectedSnapshot) : Result Reduction :=
  if r.state.sessionState = .stopping ∨ r.state.sessionState = .ended then .ok r
  else if snapshot.connectionGeneration ≤ r.state.connectionGeneration then .ok r
  else do
    let recordable := snapshot.targets.filter (·.info.isRecordable)
    let seen := recordable.map (·.info.targetKey)
    ensurePageTargetCount seen.dedup.length
    let r := { r with state := { r.state with
      connectionGeneration := snapshot.connectionGeneration
      compatibility := snapshot.compatibility } }
    let r ← destroyMissing order r seen
    let r ← recordable.foldlM reconcileRestored { r with state := clearSessions r.state }
    setSessionState (reconcileSelection { r with state := resolveUnresolvedOpeners r.state }) .ready

/-- The context that a capture of `target` has now. -/
def captureContext (state : SupervisorState) (target : SupervisorTargetState) : Option CaptureEffectContext :=
  target.transportSession.map fun transportSession =>
    { targetId := target.id
      connectionGeneration := state.connectionGeneration
      attachmentGeneration := target.target.attachmentGeneration
      transportSession }

/-- The context of a capture of `target`, when the target is eligible for one. -/
def eligibleContext (state : SupervisorState) (target : SupervisorTargetState) : Option CaptureEffectContext :=
  if state.sessionState = .ready ∧ target.target.visibility = .visible ∧
      (target.lifecycle = attached ∨ target.lifecycle = recording) then
    captureContext state target
  else none

/-- The effect must not come before a teardown of `session` is queued. -/
def isTeardownBarrier (session : TransportSessionId) : SupervisorEffect → Bool
  | .detach detached => detached = session
  | .shutdown _ => true
  | .beginReconnect => true
  | _ => false

/-- Insert a capture teardown before the first effect that ends its session or the connection. -/
def queueCaptureTeardown (effects : List SupervisorEffect) (effect : SupervisorEffect) : List SupervisorEffect :=
  match effect with
  | .stopCapture context | .suspendCapture context =>
    let before := fun existing => !isTeardownBarrier context.transportSession existing
    effects.takeWhile before ++ effect :: effects.dropWhile before
  | _ => effects ++ [effect]

/-- The body of the loop of `reconcile_capture_bindings`: the next binding of `target`, and the effects. -/
def reconcileBinding (state : SupervisorState) (target : SupervisorTargetState) (effects : List SupervisorEffect) :
    CaptureBinding × List SupervisorEffect :=
  match target.captureBinding with
  | .inactive =>
    if target.isTerminal then (.terminal, effects)
    else match eligibleContext state target with
      | some context => (.active context, effects ++ [.startCapture context])
      | none => (.inactive, effects)
  | .active previous =>
    if target.isTerminal ∨ state.sessionState = .stopping then
      (.terminal, queueCaptureTeardown effects (.stopCapture previous))
    else if state.sessionState = .reconnecting ∨ target.transportSession = none then
      (.suspended previous, queueCaptureTeardown effects (.suspendCapture previous))
    else if captureContext state target ≠ some previous then
      let effects := queueCaptureTeardown effects (.stopCapture previous)
      match eligibleContext state target with
      | some context => (.active context, effects ++ [.startCapture context])
      | none => (.inactive, effects)
    else (.active previous, effects)
  | .suspended previous =>
    if target.isTerminal ∨ state.sessionState = .stopping then
      (.terminal, queueCaptureTeardown effects (.stopCapture previous))
    else match eligibleContext state target with
      | some context =>
        if context.attachmentGeneration > previous.attachmentGeneration then
          (.active context, effects ++ [.resumeCapture context])
        else (.suspended previous, effects)
      | none => (.suspended previous, effects)
  | .unavailable =>
    if target.isTerminal ∨ state.sessionState = .stopping then (.terminal, effects) else (.unavailable, effects)
  | .terminal => (.terminal, effects)

def reconcileCaptureBinding (r : Reduction) (key : String) : Reduction :=
  match r.state.targetsByKey[key]? with
  | none => r
  | some target =>
    let next := reconcileBinding r.state target r.effects
    Reduction.store { r with effects := next.2 } key { target with captureBinding := next.1 }

def reconcileCaptureBindings (order : VisitOrder) (r : Reduction) : Reduction :=
  (order.keys r.state.targetsByKey).foldl reconcileCaptureBinding r

/-- The `InitialReconciliationCompleted` arm. -/
def initialReconciliationCompleted (r : Reduction) : Result Reduction :=
  if r.state.targetsByKey.any fun _ target => !target.isTerminal && target.transportSession.isNone then
    .error (invalidState "initial reconciliation requires attached targets")
  else setSessionState (reconcileSelection r) .ready

/-- The inputs that belong to the transport connection, which a reconnecting supervisor drops. -/
def SupervisorInput.isDroppedWhileReconnecting : SupervisorInput → Bool
  | .initialTargets _ | .targetCreated _ | .targetInfoChanged _ | .attached .. | .unsolicitedAttached ..
  | .targetAttachFailed _ | .detached _ | .targetDestroyed _ | .visibilityChanged .. | .captureVisibilityChanged ..
  | .selectTarget _ | .viewportOverrideApplied .. => true
  | _ => false

/-- The early returns that leave the state as it is: an input of a lost connection, a loss of the connection while the
session stops, and the end of a browser process after the session ended. -/
def discards (state : SupervisorState) (input : SupervisorInput) : Bool :=
  state.sessionState == .reconnecting && input.isDroppedWhileReconnecting ||
    match input with
    | .connectionLost => state.sessionState == .ended || state.sessionState == .stopping
    | .browserProcessTerminated => state.sessionState == .ended
    | _ => false

/-- Report the failure of the session, then shut down. -/
def failSession (r : Reduction) (error : KrometrailError) (cause : ShutdownCause) : Result Reduction :=
  beginShutdown (publish r (.sessionFailed error)) cause

/-- The arms of `reduce`, before the capture bindings are reconciled. -/
def observe (order : VisitOrder) (r : Reduction) : SupervisorInput → Result Reduction
  | .initialTargets infos => reconcileInitial order r infos
  | .initialReconciliationCompleted => initialReconciliationCompleted r
  | .targetCreated info => reconcileOne r info true
  | .targetInfoChanged info => reconcileOne r info false
  | .attached key session => attach r key session true false
  | .unsolicitedAttached key session => attach r key session true true
  | .targetAttachFailed key => targetAttachFailed r key
  | .captureStartFailed context =>
    if r.state.connectionGeneration = context.connectionGeneration then
      match activeCaptureKey order r.state context with
      | some key => .ok (captureStartFailed r key)
      | none => .ok r
    else .ok r
  | .detached session => detachFailed { r with state := removePendingSession r.state session } session
  | .targetDestroyed key =>
    let removed := removePendingKey r.state key
    destroy { state := removed.1, effects := r.effects ++ removed.2.toList.map SupervisorEffect.detach } key
  | .visibilityChanged key visibility observedAt => visibilityChanged r key visibility observedAt
  | .domainSetupFailed key => domainSetupFailed r key
  | .initialVisibilityProbeFailed key => .ok (initialVisibilityProbeFailed r key)
  | .captureVisibilityChanged targetId visibility observedAt =>
    match keyOfTarget order r.state targetId with
    | some key => visibilityChanged r key visibility observedAt
    | none => .ok r
  | .selectTarget key => selectTarget r key
  | .viewportOverrideApplied key viewport => viewportOverrideApplied r key viewport
  | .connectionLost => connectionLost order r
  | .browserProcessTerminated => failSession r processError .browserProcessTerminated
  | .reconnected snapshot => reconnect order r snapshot
  | .reconnectExhausted => failSession r reconnectError .reconnectExhausted
  | .stopRequested => beginShutdown r .stopRequested
  | .cancelled => failSession r cancelledError .cancelled
  -- unreachable: `reduce` takes the guard off first
  | .forConnectionGeneration _ _ => .ok r

def reduce (order : VisitOrder) (state : SupervisorState) : SupervisorInput → Result Reduction
  | .forConnectionGeneration generation input =>
    if generation ≠ state.connectionGeneration then .ok { state, effects := [] } else reduce order state input
  | input =>
    if discards state input then .ok { state, effects := [] }
    else do
      let r ← observe order { state, effects := [] } input
      return reconcileCaptureBindings order r

end Krometrail
