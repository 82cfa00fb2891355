import Krometrail.Lib.Sorting
import Krometrail.Lib.Stateful
import Krometrail.Targets.Supervision

/-!
# Reconnect attempts

An attempt (`session/reconnect.rs`) connects to the browser again, attaches to the pages that it finds, reduces their
snapshot on a copy of the supervisor state, and restores the domains and the viewports of the targets; then it probes
their visibility.  Every command races against the deadline and the cancellation of the attempt.  Only an attempt that
succeeds replaces the state of the supervisor, and returns the effects to apply.
-/

namespace Krometrail

open Runs (System)
open Stateful (each)

inductive AttemptFailure where
  | failed | timedOut | cancelled

/-- What an attempt sends and waits for. -/
inductive AttemptCommand where
  | refreshEndpoint
  | connect
  | setup
  | attach (targetKey : String)
  | restoreDomains (targetKey : String)
  | detach (session : TransportSessionId)
  | setDeviceMetrics (session : TransportSessionId) (viewport : ViewportMetrics)
  | setTouchEmulation (session : TransportSessionId) (touch : Bool)
  | setPageScale (session : TransportSessionId)
  | probeVisibility (session : TransportSessionId)

def AttemptCommand.replaysViewport : AttemptCommand → Bool
  | .setDeviceMetrics _ _ | .setTouchEmulation _ _ | .setPageScale _ => true
  | _ => false

/-- What comes of a command: whether the attempt is cancelled or its deadline has passed when it ends, whether it is
accepted, and what the reply says. -/
structure Answer where
  cancelled : Bool
  expired : Bool
  accepted : Bool
  session : Option TransportSessionId
  visibility : Option TargetVisibility

/-- What an attempt meets: its configuration, the browser that it connects to with the pages there, the answers to its
commands, and whether the window for visibility probes is over, each at its turn. -/
structure Surroundings where
  targetLimit : Nat
  compatibility : BrowserCompatibility
  targets : List TransportTargetInfo
  answer : Nat → AttemptCommand → Answer
  probesOver : Nat → Bool
  sessionTime : Nat → SessionTime
  order : Nat → VisitOrder

/-- `AttemptControl`: the turn, and what has come about by it. -/
structure AttemptControl where
  turn : Nat
  cancelled : Bool
  expired : Bool
  probesOver : Bool

namespace AttemptControl

def start : AttemptControl := ⟨0, false, false, false⟩

def after (control : AttemptControl) (answer : Answer) : AttemptControl :=
  { control with
    turn := control.turn + 1
    cancelled := control.cancelled || answer.cancelled
    expired := control.expired || answer.expired }

/-- The attempt has met its cancellation or its deadline. -/
def interrupted (control : AttemptControl) : Bool := control.cancelled || control.expired

end AttemptControl

abbrev Attempting := EStateM AttemptFailure AttemptControl

def recordableReconnectTargets (infos : List TransportTargetInfo) (limit : Nat) :
    Except AttemptFailure (List TransportTargetInfo) := do
  let recordable ← (infos.filter (·.isRecordable)).foldlM (fun recordable info =>
    if info.targetKey ∈ recordable.map (·.targetKey) ∨ recordable.length ≥ limit then .error .failed
    else .ok (recordable ++ [info])) []
  return Sorting.sortByKey (·.targetKey) recordable

def captureEffectTargets (effect : SupervisorEffect) (targetId : TargetId) : Bool := effect.concerns targetId

/-- The progress of `stage_reconnection_effects`. -/
structure Staging where
  state : SupervisorState
  staged : List SupervisorEffect
  failedTargets : List TargetId

def Staging.push (staging : Staging) (effect : SupervisorEffect) : Staging :=
  { staging with staged := staging.staged ++ [effect] }

namespace Surroundings

variable (w : Surroundings)

/-- `AttemptControl::race`, which polls the cancellation first, and the deadline before the command. -/
def race (command : AttemptCommand) : Attempting Answer := fun control =>
  let answer := w.answer control.turn command
  let control := control.after answer
  if control.cancelled then .error .cancelled control
  else if control.expired then .error .timedOut control
  else .ok answer control

def command (command : AttemptCommand) : Attempting Answer := do
  let answer ← w.race command
  if answer.accepted then return answer else throw .failed

/-- A reduction on the copy of the state. -/
def reduceCopy (state : SupervisorState) (input : SupervisorInput) : Attempting Reduction := fun control =>
  match reduce (w.order control.turn) state input with
  | .ok r => .ok r control
  | .error _ => .error .failed control

def restoreOneTarget (info : TransportTargetInfo) : Attempting ReconnectedTarget := do
  let answer ← w.command (.attach info.targetKey)
  match answer.session with
  | some session => return { info, session := some session, visibility := .unknown }
  | none => throw .failed

/-- `restore_targets`.  The attachments run side by side, one finishes after the other. -/
def restoreTargets (infos : List TransportTargetInfo) : Attempting (List ReconnectedTarget) := do
  let restored ← each w.restoreOneTarget infos
  return Sorting.sortByKey (·.info.targetKey) restored

def restoreDomains (state : SupervisorState) (targetKey : String) : Attempting Unit :=
  match state.targetsByKey[targetKey]?.bind (·.transportSession) with
  | none => return ()
  | some _ => do
    let _ ← w.command (.restoreDomains targetKey)

def replayViewport (session : TransportSessionId) (viewport : ViewportMetrics) : Attempting Unit := do
  let _ ← w.command (.setDeviceMetrics session viewport)
  let _ ← w.command (.setTouchEmulation session viewport.touch)
  if viewport.mobile then
    let _ ← w.command (.setPageScale session)

/-- One effect of `stage_reconnection_effects`. -/
def stageEffect (staging : Staging) (effect : SupervisorEffect) : Attempting Staging :=
  match effect with
  | .publish _ | .stopCapture _ | .suspendCapture _ => return staging.push effect
  | .detach session => do
    let _ ← w.command (.detach session)
    return staging
  | .restoreViewport context viewport =>
    -- Whatever the replay fails with, its target fails.
    Stateful.recover
      (do
        w.replayViewport context.transportSession viewport
        return staging)
      fun _ => do
        let r ← w.reduceCopy staging.state (.targetAttachFailed context.targetKey)
        return {
          state := r.state
          staged := staging.staged.filter (!captureEffectTargets · context.targetId) ++ r.effects
          failedTargets := context.targetId :: staging.failedTargets }
  | .startCapture context | .resumeCapture context =>
    return if context.targetId ∈ staging.failedTargets then staging else staging.push effect
  | .attach _ | .releaseWaitingTarget _ | .restoreSessionDomains _ _ | .probeInitialVisibility _ _ | .beginReconnect
  | .shutdown _ => throw .failed

def stageReconnectionEffects (state : SupervisorState) (effects : List SupervisorEffect) : Attempting Reduction := do
  let staging ← effects.foldlM w.stageEffect ⟨state, [], []⟩
  return { state := staging.state, effects := staging.staged }

/-- The probe of `session`, as long as the window of all probes is open.  It ends with the deadline of the attempt. -/
def probeVisibility (session : TransportSessionId) : Attempting (Option TargetVisibility) := fun control =>
  if control.probesOver || control.expired || w.probesOver control.turn then
    .ok none { control with turn := control.turn + 1, probesOver := true }
  else
    let answer := w.answer control.turn (.probeVisibility session)
    let control := control.after answer
    if control.cancelled then .error .cancelled control else .ok answer.visibility control

/-- The observation of the visibility of one target. -/
def observeVisibility (r : Reduction) (targetKey : String) : Attempting Reduction :=
  match r.state.targetsByKey[targetKey]? with
  | none => return r
  | some target =>
    if target.lifecycle = .failed then return r
    else
      match target.transportSession with
      | none => return r
      | some session => do
        let visibility ← w.probeVisibility session
        let control ← get
        let input := match visibility with
          | some visibility => SupervisorInput.visibilityChanged targetKey visibility (w.sessionTime control.turn)
          | none => .initialVisibilityProbeFailed targetKey
        let observed ← w.reduceCopy r.state input
        return { state := observed.state, effects := r.effects ++ observed.effects }

/-- `restore_targets_for_reconnection` as far as it is mandatory: the domains and the viewports. -/
def restoreMandatory (r : Reduction) (keys : List String) : Attempting Reduction := do
  let _ ← each (w.restoreDomains r.state) keys
  w.stageReconnectionEffects r.state r.effects

def restoreTargetsForReconnection (r : Reduction) : Attempting Reduction := do
  let keys := r.state.targetsByKey.keys
  let restored ← w.restoreMandatory r keys
  keys.foldlM w.observeVisibility restored

/-- `reconstruct_connection` up to the reduction of the snapshot. -/
def reattach (state : SupervisorState) : Attempting Reduction := do
  if w.targetLimit = 0 then throw .failed
  let _ ← w.command .refreshEndpoint
  let _ ← w.command .connect
  let _ ← w.command .setup
  match recordableReconnectTargets w.targets w.targetLimit with
  | .error failure => throw failure
  | .ok infos => do
    let targets ← w.restoreTargets infos
    w.reduceCopy state (.reconnected
      { connectionGeneration := saturatingAdd state.connectionGeneration 1
        compatibility := w.compatibility
        targets })

def reconstructConnection (state : SupervisorState) : Attempting Reduction := do
  let r ← w.reattach state
  w.restoreTargetsForReconnection r

/-- The attachments, the domains and the viewports: what an attempt must have restored. -/
def mandatoryRestoration (state : SupervisorState) : Attempting (List String × Reduction) := do
  let r ← w.reattach state
  let restored ← w.restoreMandatory r r.state.targetsByKey.keys
  return (r.state.targetsByKey.keys, restored)

def attempt (state : SupervisorState) : Except AttemptFailure Reduction :=
  match w.reconstructConnection state .start with
  | .ok r _ => .ok r
  | .error failure _ => .error failure

/-- The attempt meets its deadline or its cancellation before the mandatory restoration is complete. -/
def interrupted (state : SupervisorState) : Bool :=
  (Stateful.finalState (w.mandatoryRestoration state .start)).interrupted

end Surroundings

/-- A disconnected supervisor, one attempt after the other.  An attempt that fails leaves its state. -/
def reconnection : System SupervisorState Surroundings (Except AttemptFailure Reduction) where
  init state := supervision.Reachable state ∧ state.sessionState = .reconnecting
  step state w outcome state' := state.sessionState = .reconnecting ∧ outcome = w.attempt state ∧
    state' = match outcome with
      | .ok r => r.state
      | .error _ => state

/-- The captures that run after an effect. -/
def applyCapture (running : List CaptureEffectContext) : SupervisorEffect → List CaptureEffectContext
  | .startCapture context | .resumeCapture context => running ++ [context]
  | .stopCapture context | .suspendCapture context => running.filter (· ≠ context)
  | _ => running

/-- The captures that a list of effects, applied in order, runs. -/
def runCaptures (effects : List SupervisorEffect) : List CaptureEffectContext := effects.foldl applyCapture []

/-- The capture that an effect starts or resumes. -/
def SupervisorEffect.begun : SupervisorEffect → Option CaptureEffectContext
  | .startCapture context | .resumeCapture context => some context
  | _ => none

/-- What an attempt on `state` promises of its outcome. -/
structure Transactional (w : Surroundings) (state : SupervisorState) (outcome : Except AttemptFailure Reduction) :
    Prop where
  interrupted : w.interrupted state = true → ∃ failure, outcome = .error failure
  captures : ∀ r, outcome = .ok r → ∀ context, context ∈ runCaptures r.effects ↔
    ∃ (key : String) (target : SupervisorTargetState), r.state.targetsByKey[key]? = some target ∧
      target.captureBinding = .active context
  started : ∀ r, outcome = .ok r → ∀ effect ∈ r.effects, ∀ context, effect.begun = some context →
    ∃ (key : String) (target : SupervisorTargetState), r.state.targetsByKey[key]? = some target ∧
      target.captureBinding = .active context ∧ target.lifecycle ≠ .failed
  failed : ∀ r, outcome = .ok r → r.state.IdsApart → ∀ effect ∈ r.effects, ∀ context, effect.begun = some context →
    ∀ (key : String) (target : SupervisorTargetState), r.state.targetsByKey[key]? = some target →
      target.lifecycle = .failed → target.id ≠ context.targetId

/-- No command that replays a viewport meets the deadline or the cancellation of the attempt. -/
def ReplaysUninterrupted (_ : SupervisorState) (w : Surroundings) : Prop :=
  ∀ turn command, command.replaysViewport = true →
    (w.answer turn command).cancelled = false ∧ (w.answer turn command).expired = false

end Krometrail
