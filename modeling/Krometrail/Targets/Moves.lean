import Krometrail.Lib.Results
import Krometrail.Lib.Tables
import Krometrail.Targets.Reducer

/-!
# The core of a supervised target

What the session, selection and capture properties of the supervisor say about a target depends on seven of its
fields, its `core`.  Every function of the reducer that rewrites a target does one of five things to its core: it
attaches a session, ends the target, suspends it, takes up an observation, or binds its capture.  `TargetCore.Sound`
ties the lifecycle to the session and to the lifecycle remembered across a suspension; each of the five keeps it.
-/

namespace Krometrail

open TargetLifecycle (discovered attached recording suspended closed failed)

structure TargetCore where
  id : TargetId
  lifecycle : TargetLifecycle
  visibility : TargetVisibility
  attachmentGeneration : Nat
  transportSession : Option TransportSessionId
  priorToSuspension : Option TargetLifecycle
  captureBinding : CaptureBinding

def SupervisorTargetState.core (target : SupervisorTargetState) : TargetCore where
  id := target.id
  lifecycle := target.lifecycle
  visibility := target.target.visibility
  attachmentGeneration := target.target.attachmentGeneration
  transportSession := target.transportSession
  priorToSuspension := target.priorToSuspension
  captureBinding := target.captureBinding

namespace TargetCore

def isTerminal (core : TargetCore) : Bool := core.lifecycle.isTerminal

def isCandidate (core : TargetCore) : Bool :=
  core.transportSession.isSome && !(core.isTerminal || core.lifecycle == suspended)

/-- A target just created. -/
def fresh (id : TargetId) (visibility : TargetVisibility) : TargetCore where
  id := id
  lifecycle := discovered
  visibility := visibility
  attachmentGeneration := 0
  transportSession := none
  priorToSuspension := none
  captureBinding := .inactive

/-- The first lifecycle that an attachment moves to. -/
def resumed (core : TargetCore) : TargetLifecycle := core.priorToSuspension.getD attached

def attach (core : TargetCore) (session : TransportSessionId) : TargetCore :=
  { core with
    transportSession := some session
    priorToSuspension := none
    attachmentGeneration := core.attachmentGeneration + 1
    lifecycle := if core.resumed = discovered then attached else core.resumed }

def suspend (core : TargetCore) : TargetCore :=
  if core.isTerminal then core
  else if core.lifecycle = suspended then { core with transportSession := none }
  else { core with
    transportSession := none
    priorToSuspension := some core.lifecycle
    lifecycle := suspended }

end TargetCore

namespace SupervisorTargetState

variable (target : SupervisorTargetState)

@[simp] theorem id_core : target.core.id = target.id := rfl
@[simp] theorem lifecycle_core : target.core.lifecycle = target.lifecycle := rfl
@[simp] theorem visibility_core : target.core.visibility = target.target.visibility := rfl
@[simp] theorem transportSession_core : target.core.transportSession = target.transportSession := rfl
@[simp] theorem captureBinding_core : target.core.captureBinding = target.captureBinding := rfl
@[simp] theorem isTerminal_core : target.core.isTerminal = target.isTerminal := rfl
@[simp] theorem isCandidate_core : target.core.isCandidate = target.isCandidate := rfl

end SupervisorTargetState

/-- How a target ends. -/
inductive Ending where
  | detached (session : TransportSessionId) | domainFailed | destroyed | attachFailed

namespace Ending

def core : Ending → TargetCore → TargetCore
  | detached _, core => { core with transportSession := none, priorToSuspension := none, lifecycle := failed }
  | domainFailed, core => { core with
      transportSession := none
      priorToSuspension := none
      captureBinding := .terminal
      lifecycle := failed }
  | destroyed, core => { core with
      transportSession := none
      lifecycle := if core.lifecycle = failed then failed else closed }
  | attachFailed, core => { core with lifecycle := failed }

/-- The sessions that the supervisor detaches when it ends the target. -/
def released : Ending → TargetCore → List TransportSessionId
  | domainFailed, core | destroyed, core => core.transportSession.toList
  | _, _ => []

@[simp] theorem isTerminal_core (ending : Ending) (core : TargetCore) : (ending.core core).isTerminal = true := by
  cases ending <;> simp only [Ending.core, TargetCore.isTerminal]
  case destroyed => split <;> rfl
  all_goals rfl

@[simp] theorem id_core (ending : Ending) (core : TargetCore) : (ending.core core).id = core.id := by
  cases ending <;> rfl

@[simp] theorem attachmentGeneration_core (ending : Ending) (core : TargetCore) :
    (ending.core core).attachmentGeneration = core.attachmentGeneration := by
  cases ending <;> rfl

end Ending

/-- An observation about a target that leaves its session alone. -/
inductive Change where
  | visibilityObserved (visibility : TargetVisibility)
  | visibilityRestored (visibility : TargetVisibility)
  | captureStartFailed (context : CaptureEffectContext)
  | visibilityProbeFailed

namespace Change

/-- The binding after a visibility observation, the retry boundary of a capture that was unavailable. -/
def retried : CaptureBinding → CaptureBinding
  | .unavailable => .inactive
  | binding => binding

def core : Change → TargetCore → TargetCore
  | visibilityObserved visibility, core => { core with
      captureBinding := retried core.captureBinding
      lifecycle := if core.visibility = visibility then core.lifecycle else visibilityLifecycle core.lifecycle visibility
      visibility := visibility }
  | visibilityRestored visibility, core => { core with visibility := visibility }
  | captureStartFailed _, core => { core with captureBinding := .unavailable }
  | visibilityProbeFailed, core => { core with captureBinding := .unavailable }

/-- When the reducer makes the change. -/
def Enabled : Change → TargetCore → Prop
  | visibilityObserved _, core => core.isTerminal = false
  | visibilityRestored _, _ => True
  | captureStartFailed context, core => core.isTerminal = false ∧ core.captureBinding = .active context
  | visibilityProbeFailed, core => core.captureBinding = .inactive

@[simp] theorem id_core (change : Change) (core : TargetCore) : (change.core core).id = core.id := by
  cases change <;> rfl

@[simp] theorem transportSession_core (change : Change) (core : TargetCore) :
    (change.core core).transportSession = core.transportSession := by
  cases change <;> rfl

@[simp] theorem priorToSuspension_core (change : Change) (core : TargetCore) :
    (change.core core).priorToSuspension = core.priorToSuspension := by
  cases change <;> rfl

@[simp] theorem attachmentGeneration_core (change : Change) (core : TargetCore) :
    (change.core core).attachmentGeneration = core.attachmentGeneration := by
  cases change <;> rfl

end Change

namespace TargetLifecycle

/-- The lifecycles of a target that holds a session. -/
def isLive : TargetLifecycle → Bool
  | attached | recording | hidden => true
  | _ => false

theorem isLive_visibilityLifecycle {lifecycle : TargetLifecycle} (visibility : TargetVisibility)
    (h : lifecycle.isLive = true) : (visibilityLifecycle lifecycle visibility).isLive = true := by
  cases lifecycle <;> cases visibility <;> simp_all [visibilityLifecycle, isLive]

theorem visibilityLifecycle_of_not_live {lifecycle : TargetLifecycle} (visibility : TargetVisibility)
    (h : lifecycle.isLive = false) : visibilityLifecycle lifecycle visibility = lifecycle := by
  cases lifecycle <;> cases visibility <;> simp_all [visibilityLifecycle, isLive]

end TargetLifecycle

@[simp] theorem Change.isTerminal_core (change : Change) (core : TargetCore) :
    (change.core core).isTerminal = core.isTerminal := by
  cases change with
  | visibilityObserved visibility =>
    simp only [Change.core, TargetCore.isTerminal]
    split
    · rfl
    · cases core.lifecycle <;> cases visibility <;> rfl
  | visibilityRestored _ | captureStartFailed _ | visibilityProbeFailed => rfl

namespace TargetCore

variable {core : TargetCore}

theorem session_suspend (h : core.suspend.isTerminal = false) : core.suspend.transportSession = none := by
  unfold suspend at h ⊢
  split
  · rename_i hterminal
    simp [hterminal] at h
  · split <;> rfl

theorem isTerminal_of_isLive (h : core.lifecycle.isLive = true) : core.isTerminal = false := by
  unfold isTerminal
  cases hl : core.lifecycle <;> simp_all [TargetLifecycle.isLive, TargetLifecycle.isTerminal]

/-- The lifecycle, the session and the remembered lifecycle of a target agree. -/
def Sound (core : TargetCore) : Prop :=
  match core.lifecycle with
  | .discovered => core.transportSession = none ∧ core.priorToSuspension = none
  | .attached | .recording | .hidden => core.transportSession.isSome ∧ core.priorToSuspension = none
  | .suspended => core.transportSession = none ∧
      ∃ prior, core.priorToSuspension = some prior ∧ (prior = discovered ∨ prior.isLive)
  | .closed | .failed => True

theorem Sound.fresh (id : TargetId) (visibility : TargetVisibility) : (fresh id visibility).Sound := by
  simp [Sound, TargetCore.fresh]

theorem Sound.of_isTerminal (h : core.isTerminal = true) : core.Sound := by
  unfold isTerminal TargetLifecycle.isTerminal at h
  unfold Sound
  split at h <;> simp_all

theorem Sound.isSome_iff (h : core.Sound) (hlive : core.isTerminal = false) :
    core.transportSession.isSome = core.lifecycle.isLive := by
  unfold isTerminal at hlive
  unfold Sound at h
  split at h <;> simp_all [TargetLifecycle.isLive, TargetLifecycle.isTerminal]

theorem Sound.prior_of_live (h : core.Sound) (hlive : core.lifecycle.isLive = true) : core.priorToSuspension = none := by
  unfold Sound at h
  split at h <;> simp_all [TargetLifecycle.isLive]

theorem Sound.allows_resumed_iff (h : core.Sound) (hlive : core.isTerminal = false) :
    core.lifecycle.allowsTransition core.resumed = true ↔ core.transportSession = none := by
  unfold isTerminal at hlive
  unfold Sound at h
  unfold resumed
  split at h <;> rename_i hl <;> rw [hl] at hlive ⊢
  case h_1 => simp [h, TargetLifecycle.allowsTransition, TargetLifecycle.transitions]
  case h_5 =>
    obtain ⟨hs, prior, hp, hprior⟩ := h
    rcases hprior with rfl | hprior
    · simp [hs, hp, TargetLifecycle.allowsTransition, TargetLifecycle.transitions]
    · cases prior <;> simp_all [TargetLifecycle.isLive, TargetLifecycle.allowsTransition, TargetLifecycle.transitions]
  case h_6 | h_7 => simp [TargetLifecycle.isTerminal] at hlive
  all_goals
    obtain ⟨hs, hp⟩ := h
    simp [hp, Option.isSome_iff_ne_none.1 hs, TargetLifecycle.allowsTransition, TargetLifecycle.transitions]

theorem Sound.isLive_attach (h : core.Sound) (hlive : core.isTerminal = false) (hsession : core.transportSession = none)
    (session : TransportSessionId) : (core.attach session).lifecycle.isLive = true := by
  have hprior : core.resumed = discovered ∨ core.resumed.isLive = true := by
    unfold Sound at h
    unfold isTerminal at hlive
    unfold resumed
    split at h
    case h_5 =>
      obtain ⟨-, prior, hp, hprior⟩ := h
      simpa [hp] using hprior
    all_goals simp_all [TargetLifecycle.isLive, TargetLifecycle.isTerminal]
  simp only [TargetCore.attach]
  split
  · rfl
  · exact hprior.resolve_left ‹_›

theorem sound_of_live (hlive : core.lifecycle.isLive = true) (hsession : core.transportSession.isSome = true)
    (hprior : core.priorToSuspension = none) : core.Sound := by
  unfold Sound
  split <;> simp_all [TargetLifecycle.isLive]

theorem Sound.attach (h : core.Sound) (hlive : core.isTerminal = false) (hsession : core.transportSession = none)
    (session : TransportSessionId) : (core.attach session).Sound :=
  sound_of_live (h.isLive_attach hlive hsession session) rfl rfl

theorem Sound.suspend (h : core.Sound) : core.suspend.Sound := by
  unfold TargetCore.suspend
  unfold isTerminal
  unfold Sound at h ⊢
  split at h <;> simp_all [TargetLifecycle.isTerminal, TargetLifecycle.isLive]

theorem Sound.ending (ending : Ending) : (ending.core core).Sound :=
  Sound.of_isTerminal (by simp)

theorem Sound.change (h : core.Sound) (change : Change) : (change.core core).Sound := by
  cases change with
  | visibilityObserved visibility =>
    by_cases hlive : core.lifecycle.isLive = true
    · have hterminal := isTerminal_of_isLive hlive
      refine sound_of_live ?_ ?_ (h.prior_of_live hlive)
      · simp only [Change.core]
        split
        · exact hlive
        · exact TargetLifecycle.isLive_visibilityLifecycle visibility hlive
      · simpa [Change.core] using (h.isSome_iff hterminal).trans hlive
    · have hsame := TargetLifecycle.visibilityLifecycle_of_not_live visibility (by simpa using hlive)
      simpa [Sound, Change.core, hsame] using h
  | visibilityRestored _ | captureStartFailed _ | visibilityProbeFailed => exact h

end TargetCore

end Krometrail

/-!
## Moves of the reducer

What one step of the reducer can do, said once.  A `Move` is the smallest change of a reduction that keeps the state
coherent: it touches one target, the pending sessions, the selection, or the session state, and it is labelled by an
`Act` with the data that the properties of the supervisor depend on.  Whatever an input does before the capture bindings
are reconciled is a sequence of moves whose acts the input permits.
-/

namespace Krometrail

open Std (ExtTreeMap)
open TargetLifecycle (discovered attached recording suspended closed failed)

/-- The effect neither detaches a session nor concerns a capture. -/
def SupervisorEffect.isQuiet : SupervisorEffect → Bool
  | .detach _ | .startCapture _ | .suspendCapture _ | .resumeCapture _ | .stopCapture _ => false
  | _ => true

def Quiet (effects : List SupervisorEffect) : Prop := ∀ effect ∈ effects, effect.isQuiet = true

namespace Quiet

@[simp] theorem nil : Quiet [] := by simp [Quiet]

@[simp] theorem cons_iff {effect : SupervisorEffect} {effects : List SupervisorEffect} :
    Quiet (effect :: effects) ↔ effect.isQuiet = true ∧ Quiet effects := by simp [Quiet]

@[simp] theorem append_iff {es₁ es₂ : List SupervisorEffect} : Quiet (es₁ ++ es₂) ↔ Quiet es₁ ∧ Quiet es₂ := by
  simp only [Quiet, List.mem_append]
  exact ⟨fun h => ⟨fun e he => h e (.inl he), fun e he => h e (.inr he)⟩, fun h e he => he.elim (h.1 e) (h.2 e)⟩

end Quiet

/-- The effects that detach `sessions`. -/
def detaches (sessions : List TransportSessionId) : List SupervisorEffect := sessions.map .detach

/-- The core of the target tracked under a key. -/
def SupervisorState.coreAt (state : SupervisorState) (key : String) : Option TargetCore :=
  state.targetsByKey[key]?.map (·.core)

theorem le_saturatingAdd {a : Nat} (ha : a ≤ u64Max) (b : Nat) : a ≤ saturatingAdd a b := by
  unfold saturatingAdd
  omega

inductive Act where
  | note
  | repair
  | select (key : String)
  | enter (next : BrowserSessionState)
  | renew (generation : Nat)
  | hold (key : String) (session : TransportSessionId)
  | unhold (key : String)
  | forget
  | lose
  | reclaim
  | annotate
  | create (key : String) (core : TargetCore)
  | adopt (key : String) (core : TargetCore) (session : TransportSessionId)
  | deliver (key : String) (core : TargetCore) (session : TransportSessionId)
  | finish (ending : Ending) (key : String) (core : TargetCore)
  | release (session : TransportSessionId)
  | revise (change : Change) (key : String) (core : TargetCore)

/-- The session map after a target ended. -/
def Ending.unmap (ending : Ending) (core : TargetCore) (bySession : ExtTreeMap TransportSessionId String) :
    ExtTreeMap TransportSessionId String :=
  match ending with
  | detached session => bySession.erase session
  | domainFailed | destroyed => core.transportSession.elim bySession bySession.erase
  | attachFailed => bySession

/-- When the reducer ends a target this way. -/
def Ending.Enabled (ending : Ending) (state : SupervisorState) (key : String) (core : TargetCore) : Prop :=
  match ending with
  | detached session => state.targetKeyBySession[session]? = some key ∧ core.isTerminal = false
  | domainFailed | attachFailed => core.isTerminal = false
  | destroyed => core.lifecycle ≠ closed

/-- The `suspendTarget` of a target, as a function of the target. -/
def SupervisorTargetState.suspend (target : SupervisorTargetState) : SupervisorTargetState :=
  if target.isTerminal then target
  else if target.lifecycle = suspended then { target with transportSession := none }
  else { target with
    transportSession := none
    priorToSuspension := some target.lifecycle
    target := { target.target with lifecycle := suspended } }

/-- The selected key, when there is one, names a candidate. -/
def SupervisorState.SelectionSound (state : SupervisorState) : Prop :=
  ∀ key, state.selectedTargetKey = some key → selectionCandidate state key = true

/-- The state with the slots of the terminal targets made free. -/
def SupervisorState.reclaimed (state : SupervisorState) : SupervisorState :=
  { state with
    targetsByKey := liveTargets state.targetsByKey
    targetKeyBySession := state.targetKeyBySession.filter fun _ key => (liveTargets state.targetsByKey).contains key }

/-- A session is attached to the target tracked under a key, which is live and does not hold it. -/
structure Attaches (key : String) (core : TargetCore) (session : TransportSessionId) (r r' : Reduction) : Prop where
  tracked : r.state.coreAt key = some core
  live : core.isTerminal = false
  other : core.transportSession ≠ some session
  allowed : core.lifecycle.allowsTransition core.resumed = true
  result : ∃ target es, target.core = core.attach session ∧ Quiet es ∧
    r' = { state := { r.state with
             targetKeyBySession :=
               (core.transportSession.elim r.state.targetKeyBySession r.state.targetKeyBySession.erase).insert session key
             targetsByKey := r.state.targetsByKey.insert key target }
           effects := r.effects ++ detaches core.transportSession.toList ++ es }

inductive Move : Act → Reduction → Reduction → Prop
  | note {r : Reduction} (revision nextPageSequence : Nat) {es : List SupervisorEffect} (quiet : Quiet es) :
      Move .note r { state := { r.state with revision, nextPageSequence }, effects := r.effects ++ es }
  | repair {r : Reduction} : Move .repair r (reconcileSelection r)
  | select {r : Reduction} {key : String} (candidate : selectionCandidate r.state key = true) :
      Move (.select key) r (setSelection r (some key))
  | enter {r : Reduction} {next : BrowserSessionState} (allowed : r.state.sessionState.allows next = true)
      (selected : next = .ready → r.state.SelectionSound) :
      Move (.enter next) r (publish { r with state := { r.state with sessionState := next } } (.sessionStateChanged next))
  | renew {r : Reduction} {generation : Nat} (compatibility : BrowserCompatibility)
      (newer : r.state.connectionGeneration < generation) :
      Move (.renew generation) r
        { r with state := { r.state with connectionGeneration := generation, compatibility } }
  | hold {r : Reduction} {key : String} {session : TransportSessionId} (unsolicited : Bool)
      (untracked : r.state.coreAt key = none) :
      Move (.hold key session) r (holdPending r key session unsolicited)
  | unhold {r : Reduction} {key : String} (detach : Bool) :
      Move (.unhold key) r
        { state := (removePendingKey r.state key).1
          effects := r.effects ++ if detach then detaches r.state.pendingAttachedSessions[key]?.toList else [] }
  | forget {r : Reduction} : Move .forget r { r with state := clearSessions r.state }
  | lose {r : Reduction} {es : List SupervisorEffect} (quiet : Quiet es) :
      Move .lose r
        { state := clearSessions { r.state with targetsByKey := r.state.targetsByKey.map fun _ target => target.suspend }
          effects := r.effects ++ es }
  | reclaim {r : Reduction} (room : (liveTargets r.state.targetsByKey).size < maxKnownPageTargets)
      (full : maxKnownPageTargets ≤ r.state.targetsByKey.size) :
      Move .reclaim r { r with state := r.state.reclaimed }
  | annotate {r : Reduction} {table : TargetTable}
      (same : ∀ key : String, table[key]?.map SupervisorTargetState.core = r.state.coreAt key) :
      Move .annotate r { r with state := { r.state with targetsByKey := table } }
  | create {r : Reduction} {key : String} {target : SupervisorTargetState} {id : TargetId}
      {visibility : TargetVisibility} (vacant : ∀ core, r.state.coreAt key = some core → core.isTerminal = true)
      (apart : r.state.pendingAttachedSessions[key]? = none) (fresh : target.core = .fresh id visibility)
      (hashed : ∃ revision, id = targetIdFor revision r.state.connectionGeneration key) :
      Move (.create key target.core) r (r.store key target)
  | adopt {r r' : Reduction} {key : String} {core : TargetCore} {session : TransportSessionId}
      (pending : r.state.pendingAttachedSessions[key]? = some session)
      (attaches : Attaches key core session { r with state := (removePendingKey r.state key).1 } r') :
      Move (.adopt key core session) r r'
  | createAdopt {r r' : Reduction} {key : String} {target : SupervisorTargetState} {id : TargetId}
      {visibility : TargetVisibility} {session : TransportSessionId}
      (vacant : ∀ core, r.state.coreAt key = some core → core.isTerminal = true)
      (fresh : target.core = .fresh id visibility)
      (hashed : ∃ revision, id = targetIdFor revision r.state.connectionGeneration key)
      (pending : r.state.pendingAttachedSessions[key]? = some session)
      (attaches : Attaches key target.core session
        (Reduction.store { r with state := (removePendingKey r.state key).1 } key target) r') :
      Move (.create key target.core) r r'
  | deliver {r r' : Reduction} {key : String} {core : TargetCore} {session : TransportSessionId}
      (attaches : Attaches key core session r r') : Move (.deliver key core session) r r'
  | finish {r : Reduction} {ending : Ending} {key : String} {core : TargetCore} {target : SupervisorTargetState}
      {revision : Nat} {effects es : List SupervisorEffect} (tracked : r.state.coreAt key = some core)
      (enabled : ending.Enabled r.state key core) (result : target.core = ending.core core) (quiet : Quiet es)
      (emitted : effects = r.effects ++ detaches (ending.released core) ++ es) :
      Move (.finish ending key core) r (reconcileSelection
        { state := { r.state with
            targetKeyBySession := ending.unmap core r.state.targetKeyBySession
            targetsByKey := r.state.targetsByKey.insert key target
            revision }
          effects })
  | release {r : Reduction} {session : TransportSessionId} {key : String}
      (mapped : r.state.targetKeyBySession[session]? = some key) (untracked : r.state.coreAt key = none) :
      Move (.release session) r
        { r with state := { r.state with targetKeyBySession := r.state.targetKeyBySession.erase session } }
  | releaseTerminal {r : Reduction} {session : TransportSessionId} {key : String} {target : SupervisorTargetState}
      (mapped : r.state.targetKeyBySession[session]? = some key) (tracked : r.state.targetsByKey[key]? = some target)
      (terminal : target.isTerminal = true) :
      Move (.release session) r (Reduction.store
        { r with state := { r.state with targetKeyBySession := r.state.targetKeyBySession.erase session } }
        key { target with transportSession := none })
  | revise {r : Reduction} {change : Change} {key : String} {core : TargetCore} {target : SupervisorTargetState}
      {effects es : List SupervisorEffect} (tracked : r.state.coreAt key = some core) (enabled : change.Enabled core)
      (result : target.core = change.core core) (quiet : Quiet es) (emitted : effects = r.effects ++ es) :
      Move (.revise change key core) r
        { state := { r.state with targetsByKey := r.state.targetsByKey.insert key target }, effects }

/-- A sequence of moves, each with an act that `A` allows. -/
def Moves (A : Act → Prop) : Reduction → Reduction → Prop :=
  Relation.ReflTransGen fun r r' => ∃ act, A act ∧ Move act r r'

end Krometrail
