import Krometrail.Lib.Runs
import Krometrail.Targets.Entries

/-!
# Runs of the supervisor

The supervisor as a system that reads inputs and answers with effects; each step may visit its tables in any order.
Two invariants hold in every reachable state, whatever the inputs are: it is `Sound` (lifecycles, sessions and bindings
of the targets agree, and a disconnected supervisor holds no session of a target that is not terminal) and it is
`Settled` (the bindings are those that the capture pass leaves).
-/

namespace Krometrail

open Results
open Std (ExtTreeMap)
open Runs (System Run)
open TargetLifecycle (discovered attached recording suspended closed failed)

def supervision : System SupervisorState SupervisorInput (List SupervisorEffect) where
  init state := ∃ compatibility, state = .new compatibility
  step state input effects state' := ∃ order, reduce order state input = .ok { state := state', effects }

/-- One step that visits the tables in key order. -/
def execute (state : SupervisorState) (input : SupervisorInput) :
    Option (List SupervisorEffect × SupervisorState) :=
  match reduce .sorted state input with
  | .ok r => some (r.effects, r.state)
  | .error _ => none

variable {state : SupervisorState} {input : SupervisorInput}

theorem step_of_execute {state' : SupervisorState} {effects : List SupervisorEffect}
    (h : execute state input = some (effects, state')) : supervision.step state input effects state' := by
  unfold execute at h
  split at h
  · rename_i r hr
    cases h
    exact ⟨.sorted, hr⟩
  · cases h

def chrome : BrowserCompatibility := ⟨⟨"Chrome", "128", "revision", "1.3", "Chrome/128", "12"⟩, []⟩

def pageA : TransportTargetInfo := ⟨"a", "page", "https://a", "a", none, by decide, by decide⟩

def pageB : TransportTargetInfo := ⟨"b", "page", "https://b", "b", none, by decide, by decide⟩

def sessionA : TransportSessionId := ⟨"session-a", by decide⟩

def sessionB : TransportSessionId := ⟨"session-b", by decide⟩

theorem exists_supervisionRun (G : SupervisorState → SupervisorInput → Prop)
    (guard : SupervisorState → SupervisorInput → Bool)
    (hguard : ∀ state input, guard state input = true → G state input) (inputs : List SupervisorInput)
    (test : List (SupervisorState × SupervisorInput × List SupervisorEffect) → SupervisorState → Bool)
    (h : (Runs.replay execute guard inputs [] (.new chrome)).any (fun result => test result.1 result.2) = true) :
    ∃ trace state, Run supervision G trace state ∧ test trace state = true :=
  Runs.exists_run_of_replay (fun _ _ _ _ => step_of_execute) hguard ⟨chrome, rfl⟩ h

theorem exists_unguardedRun (inputs : List SupervisorInput)
    (test : List (SupervisorState × SupervisorInput × List SupervisorEffect) → SupervisorState → Bool)
    (h : (Runs.replay execute (fun _ _ => true) inputs [] (.new chrome)).any
      (fun result => test result.1 result.2) = true) :
    ∃ trace state, Run supervision (fun _ _ => True) trace state ∧ test trace state = true :=
  exists_supervisionRun _ _ (fun _ _ _ => trivial) inputs test h

theorem supervision_step_cases {state' : SupervisorState} {effects : List SupervisorEffect}
    (h : supervision.step state input effects state') :
    (input.accepted state = none ∧ state' = state ∧ effects = []) ∨
      ∃ payload order r, input.accepted state = some payload ∧
        observe order { state, effects := [] } payload = .ok r ∧
        reconcileCaptureBindings order r = { state := state', effects } := by
  obtain ⟨order, h⟩ := h
  rw [reduce_eq] at h
  cases haccepted : input.accepted state with
  | none =>
    simp only [haccepted, Except.ok.injEq, Reduction.mk.injEq] at h
    exact .inl ⟨rfl, h.1.symm, h.2.symm⟩
  | some payload =>
    simp only [haccepted, bind_eq_ok, pure_eq_ok] at h
    obtain ⟨r, hr, hpass⟩ := h
    exact .inr ⟨payload, order, r, rfl, hr, hpass⟩

theorem discards_of_accepted {payload : SupervisorInput} (h : input.accepted state = some payload)
    : discards state payload = false := by
  induction input with
  | forConnectionGeneration generation input ih =>
    simp only [SupervisorInput.accepted] at h
    split at h
    · exact ih h
    · cases h
  | _ =>
    simp only [SupervisorInput.accepted] at h
    split at h
    · cases h
    · rename_i hdiscards
      exact Option.some.inj h ▸ (by simpa using hdiscards)

namespace TargetCore

/-- The binding is about the target, and a suspended capture is older than the attachment of the target. -/
def BindingSound (core : TargetCore) : Prop :=
  match core.captureBinding with
  | .active context => context.targetId = core.id ∧ context.attachmentGeneration ≤ core.attachmentGeneration
  | .suspended context => context.targetId = core.id ∧ context.attachmentGeneration ≤ core.attachmentGeneration ∧
    (core.transportSession.isSome = true → core.isTerminal = false →
      context.attachmentGeneration < core.attachmentGeneration)
  | _ => True

variable {core : TargetCore}

theorem BindingSound.attach (h : core.BindingSound) (session : TransportSessionId) : (core.attach session).BindingSound := by
  unfold BindingSound at h ⊢
  simp only [TargetCore.attach]
  split at h <;> simp_all <;> omega

theorem BindingSound.suspend (h : core.BindingSound) : core.suspend.BindingSound := by
  unfold TargetCore.suspend
  split
  · exact h
  · split <;>
    · unfold BindingSound at h ⊢
      split at h <;> simp_all

theorem BindingSound.ending (h : core.BindingSound) (ending : Ending) : (ending.core core).BindingSound := by
  have hterminal := Ending.isTerminal_core ending core
  unfold BindingSound at h ⊢
  cases ending <;> simp only [Ending.core] at hterminal ⊢ <;> split at h <;> simp_all

theorem BindingSound.change (h : core.BindingSound) {change : Change} (henabled : change.Enabled core)
    : (change.core core).BindingSound := by
  cases change with
  | visibilityObserved visibility =>
    have hlive : core.isTerminal = false := henabled
    unfold BindingSound at h ⊢
    simp only [Change.core]
    cases hbinding : core.captureBinding <;> simp_all [Change.retried]
  | visibilityRestored _ => exact h
  | captureStartFailed _ | visibilityProbeFailed => trivial

theorem BindingSound.bound (h : core.BindingSound) {sessionState : BrowserSessionState} (generation : Nat)
    (hdisconnected : sessionState = .reconnecting → core.isTerminal = false →
      core.transportSession = none)
    : (core.bound sessionState generation).BindingSound := by
  have hrebinds := core.rebinds sessionState generation
  have hcontext : ∀ context, core.context generation = some context →
      context.targetId = core.id ∧ context.attachmentGeneration ≤ core.attachmentGeneration := by
    intro context hc
    obtain ⟨session, -, rfl⟩ := Option.map_eq_some_iff.1 hc
    exact ⟨rfl, le_refl _⟩
  unfold BindingSound at h ⊢
  simp only [TargetCore.bound]
  generalize core.captureBinding = binding at hrebinds h
  generalize (core.rebind sessionState generation).1 = next at hrebinds ⊢
  generalize (core.rebind sessionState generation).2 = es at hrebinds
  cases hrebinds with
  | finished | idle | stopped | retired | unavailable | terminal => trivial
  | started _ heligible | restarted _ heligible | resumed _ heligible _ =>
    exact hcontext _ (context_of_eligible heligible).1
  | suspended hlive hlost =>
    have hnone : core.transportSession = none := hlost.elim (fun hr => hdisconnected hr hlive) fun hs => hs
    exact ⟨h.1, h.2, fun hsome _ => by simp [hnone] at hsome⟩
  | kept hlive hcurrent => exact h
  | waiting hlive holder => exact h

/-- The binding is one that the capture pass leaves. -/
def Settled (sessionState : BrowserSessionState) (generation : Nat) (core : TargetCore) : Prop :=
  (core.isTerminal = true → core.captureBinding = .terminal) ∧
    (∀ context, core.captureBinding = .active context → core.context generation = some context) ∧
    ∀ context, core.eligible sessionState generation = some context → core.captureBinding = .active context ∨
      core.captureBinding = .unavailable ∨ core.captureBinding = .terminal

theorem BindingSound.settled_bound (h : core.BindingSound) (sessionState : BrowserSessionState) (generation : Nat)
    : (core.bound sessionState generation).Settled sessionState generation := by
  have hrebinds := core.rebinds sessionState generation
  have hcurrent : ∀ context, core.eligible sessionState generation = some context →
      core.context generation = some context := fun _ hc => (context_of_eligible hc).1
  have hnewest : ∀ context, core.eligible sessionState generation = some context →
      context.attachmentGeneration = core.attachmentGeneration ∧ core.transportSession.isSome = true := by
    intro context hc
    obtain ⟨session, hsession, rfl⟩ := Option.map_eq_some_iff.1 (hcurrent context hc)
    exact ⟨rfl, by simp [hsession]⟩
  unfold BindingSound at h
  unfold Settled
  change (core.isTerminal = true → (core.rebind sessionState generation).1 = .terminal) ∧
    (∀ context, (core.rebind sessionState generation).1 = .active context → core.context generation = some context) ∧
    ∀ context, core.eligible sessionState generation = some context →
      (core.rebind sessionState generation).1 = .active context ∨
        (core.rebind sessionState generation).1 = .unavailable ∨ (core.rebind sessionState generation).1 = .terminal
  generalize core.captureBinding = binding at hrebinds h
  generalize (core.rebind sessionState generation).1 = next at hrebinds ⊢
  generalize (core.rebind sessionState generation).2 = es at hrebinds
  cases hrebinds with
  | finished | stopped | terminal => simp
  | started hlive heligible | restarted hlive heligible | resumed hlive heligible hnewer =>
    simp [hlive, heligible, hcurrent _ heligible]
  | idle hlive hineligible | retired hlive hineligible => simp [hlive, hineligible]
  | suspended hlive hlost =>
    refine ⟨by simp [hlive], nofun, fun context hc => ?_⟩
    rcases hlost with rfl | hnone
    · exact absurd (context_of_eligible hc).2.1 nofun
    · simp [hnone] at hnewest
      exact absurd hc (hnewest context)
  | kept hlive hkept =>
    refine ⟨by simp [hlive], fun context hc => by simpa [CaptureBinding.active.inj hc] using hkept, fun context hc => ?_⟩
    exact .inl (congrArg _ (Option.some.inj (hkept.symm.trans (hcurrent context hc))))
  | waiting hlive holder =>
    refine ⟨by simp [hlive], nofun, fun context hc => ?_⟩
    have hle := holder context hc
    obtain ⟨hgeneration, hsome⟩ := hnewest context hc
    have hlt := h.2.2 hsome hlive
    omega
  | unavailable hlive => simp [hlive]

end TargetCore

/-- The invariant of every reachable state. -/
structure SupervisorState.Sound (state : SupervisorState) : Prop where
  cores : ∀ key core, state.coreAt key = some core → core.Sound
  bindings : ∀ key core, state.coreAt key = some core → core.BindingSound
  settled : ∀ key core, state.coreAt key = some core → core.Settled state.sessionState state.connectionGeneration
  disconnected : state.sessionState = .reconnecting → ∀ key core, state.coreAt key = some core →
    core.isTerminal = false → core.transportSession = none
  notEnded : state.sessionState ≠ .ended

variable {A : Act → Prop} {state : SupervisorState} {r r' : Reduction}

theorem keeps_sound : Keeps A (fun _ core => core.Sound ∧ core.BindingSound) (fun _ _ => True) where
  hold _ _ _ := trivial
  lose _ _ _ h := ⟨h.1.suspend, h.2.suspend⟩
  create _ id visibility _ := ⟨.fresh id visibility, trivial⟩
  createAdopt _ id visibility session _ _ := ⟨TargetCore.Sound.attach (.fresh id visibility) rfl rfl session, trivial⟩
  adopt _ _ session _ h _ hlive hallowed _ :=
    ⟨h.1.attach hlive ((h.1.allows_resumed_iff hlive).1 hallowed) session, h.2.attach session⟩
  deliver _ _ session _ h hlive hallowed _ :=
    ⟨h.1.attach hlive ((h.1.allows_resumed_iff hlive).1 hallowed) session, h.2.attach session⟩
  finish ending _ _ _ h := ⟨.ending ending, h.2.ending ending⟩
  release _ core hterminal h := by
    refine ⟨.of_isTerminal hterminal, ?_⟩
    have hbinding := h.2
    unfold TargetCore.BindingSound at hbinding ⊢
    split at hbinding <;> simp_all
  revise change _ _ _ h henabled := ⟨h.1.change change, h.2.change henabled⟩

theorem SupervisorState.Sound.entries (h : state.Sound) :
    state.Entries (fun _ core => core.Sound ∧ core.BindingSound) fun _ _ => True :=
  ⟨fun key core hcore => ⟨h.cores key core hcore, h.bindings key core hcore⟩, fun _ _ _ => trivial⟩

theorem setSessionState_sessionState {next : BrowserSessionState} (h : setSessionState r next = .ok r')
    : r'.state.sessionState = next := by
  unfold setSessionState at h
  split at h
  · rename_i hsame
    exact Except.ok.inj h ▸ hsame
  · split at h
    · exact Except.ok.inj h ▸ rfl
    · cases h

theorem Move.sessionState {act : Act} (h : Move act r r') :
    r'.state.sessionState = r.state.sessionState ∨
      act = .enter r'.state.sessionState ∧ r.state.sessionState.allows r'.state.sessionState = true := by
  cases h with
  | enter allowed selected => exact .inr ⟨rfl, allowed⟩
  | repair =>
    obtain ⟨_, _, _, -, -, heq⟩ := reconcileSelection_eq r
    exact .inl (by rw [heq])
  | select candidate =>
    obtain ⟨_, _, -, heq⟩ := setSelection_eq r (some _)
    exact .inl (by rw [heq])
  | finish tracked enabled result quiet emitted =>
    rename_i ending key core target revision effects es
    obtain ⟨_, _, _, -, -, heq⟩ := reconcileSelection_eq
      { state := { r.state with
          targetKeyBySession := ending.unmap core r.state.targetKeyBySession
          targetsByKey := r.state.targetsByKey.insert key target
          revision }
        effects }
    exact .inl (by rw [heq])
  | adopt pending attaches =>
    obtain ⟨_, _, -, -, rfl⟩ := attaches.result
    exact .inl rfl
  | createAdopt vacant fresh hashed pending attaches =>
    obtain ⟨_, _, -, -, rfl⟩ := attaches.result
    exact .inl rfl
  | deliver attaches =>
    obtain ⟨_, _, -, -, rfl⟩ := attaches.result
    exact .inl rfl
  | note | renew | hold | unhold | forget | lose | reclaim | annotate | create | release | releaseTerminal
  | revise => exact .inl rfl

theorem Moves.sessionState (h : Moves A r r') :
    r'.state.sessionState = r.state.sessionState ∨ A (.enter r'.state.sessionState) := by
  refine h.invariant (P := fun r' => r'.state.sessionState = r.state.sessionState ∨ A (.enter r'.state.sessionState))
    (fun act r₁ r₂ hA hm hr => ?_) (.inl rfl)
  rcases hm.sessionState with hsame | ⟨rfl, -⟩
  · rw [hsame]
    exact hr
  · exact .inr hA

/-- A target that is not terminal holds no session. -/
def SupervisorState.Disconnected (state : SupervisorState) : Prop :=
  ∀ key core, state.coreAt key = some core → core.isTerminal = false → core.transportSession = none

theorem keeps_disconnected (hcreate : ∀ key core, ¬A (.create key core))
    (hadopt : ∀ key core session, ¬A (.adopt key core session)) (hdeliver : ∀ key core session, ¬A (.deliver key core session)) :
    Keeps A (fun _ core => core.isTerminal = false → core.transportSession = none) (fun _ _ => True) where
  hold _ _ _ := trivial
  lose _ _ _ _ := TargetCore.session_suspend
  create _ _ _ _ _ := rfl
  createAdopt key id visibility session hA := absurd hA (hcreate _ _)
  adopt key core session hA := absurd hA (hadopt _ _ _)
  deliver key core session hA := absurd hA (hdeliver _ _ _)
  finish ending _ core _ _ hlive := absurd ((ending.isTerminal_core core).symm.trans hlive) nofun
  release _ _ _ _ _ := rfl
  revise change _ core _ h _ hlive := by
    rw [change.transportSession_core]
    exact h (by simpa using hlive)

theorem permits_of_reconnecting {payload : SupervisorInput} (hreconnecting : state.sessionState = .reconnecting)
    (hdiscards : discards state payload = false) (hsnapshot : ∀ snapshot, payload ≠ .reconnected snapshot) :
    (∀ key core, ¬payload.Permits state (.create key core)) ∧
      (∀ key core session, ¬payload.Permits state (.adopt key core session)) ∧
      ∀ key core session, ¬payload.Permits state (.deliver key core session) := by
  cases payload with
  | reconnected snapshot => exact absurd rfl (hsnapshot snapshot)
  | initialTargets | targetCreated | targetInfoChanged | attached | unsolicitedAttached =>
    simp [discards, hreconnecting, SupervisorInput.isDroppedWhileReconnecting] at hdiscards
  | _ => simp [SupervisorInput.Permits, SupervisorInput.kept, SupervisorInput.Delivers, SupervisorInput.restored]

theorem observe_disconnected {order : VisitOrder} {payload : SupervisorInput}
    (hstate : state.sessionState = .reconnecting → state.Disconnected) (hdiscards : discards state payload = false)
    (h : observe order { state, effects := [] } payload = .ok r) (hr : r.state.sessionState = .reconnecting) :
    r.state.Disconnected := by
  by_cases hlost : payload = .connectionLost
  · subst hlost
    obtain ⟨r₁, es, -, -, rfl⟩ := connectionLost_cases h
    intro key core hcore
    change ((r₁.state.targetsByKey.map fun _ target => target.suspend)[key]?.map SupervisorTargetState.core) = _ at hcore
    rw [coreAt_suspended] at hcore
    obtain ⟨core, -, rfl⟩ := Option.map_eq_some_iff.1 hcore
    exact TargetCore.session_suspend
  · have hmoves := observe_moves h
    have hbefore : state.sessionState = .reconnecting := by
      rcases hmoves.sessionState with hsame | hentered
      · exact hsame.symm.trans hr
      · rw [hr] at hentered
        exact absurd hentered hlost
    by_cases hsnapshot : ∃ snapshot, payload = .reconnected snapshot
    · obtain ⟨snapshot, rfl⟩ := hsnapshot
      obtain ⟨rfl, -⟩ | ⟨-, -, -, r₁, r₂, -, -, hready⟩ := reconnect_cases h
      · exact hstate hbefore
      · cases hr.symm.trans (setSessionState_sessionState hready)
    · obtain ⟨hcreate, hadopt, hdeliver⟩ :=
        permits_of_reconnecting hbefore hdiscards fun snapshot hs => hsnapshot ⟨snapshot, hs⟩
      exact (hmoves.entries (keeps_disconnected hcreate hadopt hdeliver)
        ⟨hstate hbefore, fun _ _ _ => trivial⟩).cores

theorem SupervisorState.Sound.step {state' : SupervisorState} {input : SupervisorInput} {effects : List SupervisorEffect}
    (h : state.Sound) (hstep : supervision.step state input effects state') : state'.Sound := by
  obtain ⟨-, rfl, -⟩ | ⟨payload, order, r, haccepted, hr, hpass⟩ := supervision_step_cases hstep
  · exact h
  have hmoves := observe_moves hr
  have hentries := hmoves.entries keeps_sound h.entries
  have hdisconnected := observe_disconnected h.disconnected (discards_of_accepted haccepted) hr
  have hcoreAt : ∀ key core, state'.coreAt key = some core → ∃ core₀, r.state.coreAt key = some core₀ ∧
      core₀.bound r.state.sessionState r.state.connectionGeneration = core := by
    intro key core hcore
    have hbound := coreAt_reconcileCaptureBindings order r key
    rw [hpass, hcore] at hbound
    exact Option.map_eq_some_iff.1 hbound.symm
  have hsession : state'.sessionState = r.state.sessionState ∧
      state'.connectionGeneration = r.state.connectionGeneration := by
    obtain rfl := congrArg Reduction.state hpass
    exact ⟨sessionState_reconcileCaptureBindings order r, connectionGeneration_reconcileCaptureBindings order r⟩
  refine ⟨?_, ?_, ?_, ?_, ?_⟩
  · intro key core hcore
    obtain ⟨core₀, hcore₀, rfl⟩ := hcoreAt key core hcore
    exact (hentries.cores key core₀ hcore₀).1
  · intro key core hcore
    obtain ⟨core₀, hcore₀, rfl⟩ := hcoreAt key core hcore
    exact (hentries.cores key core₀ hcore₀).2.bound _ fun hreconnecting => hdisconnected hreconnecting key core₀ hcore₀
  · intro key core hcore
    obtain ⟨core₀, hcore₀, rfl⟩ := hcoreAt key core hcore
    rw [hsession.1, hsession.2]
    exact (hentries.cores key core₀ hcore₀).2.settled_bound _ _
  · intro hreconnecting key core hcore
    obtain ⟨core₀, hcore₀, rfl⟩ := hcoreAt key core hcore
    exact hdisconnected (hsession.1 ▸ hreconnecting) key core₀ hcore₀
  · rw [hsession.1]
    intro hended
    rcases hmoves.sessionState with hsame | hentered
    · exact h.notEnded (hsame.symm.trans hended)
    · rw [hended] at hentered
      exact hentered

theorem SupervisorState.Sound.new (compatibility : BrowserCompatibility) : (SupervisorState.new compatibility).Sound := by
  have hnone : ∀ key, (SupervisorState.new compatibility).coreAt key = none := fun key => by
    simp [SupervisorState.coreAt, SupervisorState.new]
  refine ⟨?_, ?_, ?_, ?_, by simp [SupervisorState.new]⟩ <;> simp [hnone]

theorem sound_of_reachable (h : supervision.Reachable state) : state.Sound := by
  refine h.invariant ?_ fun _ _ _ _ => SupervisorState.Sound.step
  rintro _ ⟨compatibility, rfl⟩
  exact .new compatibility

/-- What the capture bindings of a supervisor say is so. -/
structure SupervisorState.CapturesCurrent (state : SupervisorState) : Prop where
  active : ∀ (key : String) target context, state.targetsByKey[key]? = some target → target.captureBinding = .active context →
    target.isTerminal = false ∧ captureContext state target = some context ∧ state.sessionState ≠ .reconnecting
  suspended : ∀ (key : String) target context, state.targetsByKey[key]? = some target →
    target.captureBinding = .suspended context → target.isTerminal = false ∧ context.targetId = target.id ∧
      (target.transportSession.isSome = true → context.attachmentGeneration < target.target.attachmentGeneration)
  terminal : ∀ (key : String) target, state.targetsByKey[key]? = some target → target.isTerminal = true →
    target.captureBinding = .terminal

/-- In every state that is reached, an active capture is the one that a live target has now, with the session and the
generations of its attachment, and none is active while the browser is away; a suspended one is of an attachment before. -/
theorem captures_current (h : supervision.Reachable state) : state.CapturesCurrent := by
  have hsound := sound_of_reachable h
  have hcoreAt : ∀ (key : String) target, state.targetsByKey[key]? = some target → state.coreAt key = some target.core :=
    fun key target htracked => by rw [SupervisorState.coreAt, htracked, Option.map_some]
  have hterminal : ∀ (key : String) target, state.targetsByKey[key]? = some target → target.isTerminal = true →
      target.captureBinding = .terminal := fun key target htracked =>
    (hsound.settled key _ (hcoreAt key target htracked)).1
  refine ⟨fun key target context htracked hactive => ?_, fun key target context htracked hsuspended => ?_, hterminal⟩
  · have hcore := hcoreAt key target htracked
    have hlive : target.isTerminal = false := Bool.eq_false_iff.2 fun hended => by
      cases hactive.symm.trans (hterminal key target htracked hended)
    have hcurrent := (hsound.settled key _ hcore).2.1 context hactive
    refine ⟨hlive, hcurrent, fun hreconnecting => ?_⟩
    have hnone := hsound.disconnected hreconnecting key _ hcore hlive
    rw [TargetCore.context, hnone] at hcurrent
    cases hcurrent
  · have hlive : target.isTerminal = false := Bool.eq_false_iff.2 fun hended => by
      cases hsuspended.symm.trans (hterminal key target htracked hended)
    have hbinding := hsound.bindings key _ (hcoreAt key target htracked)
    rw [TargetCore.BindingSound, show target.core.captureBinding = .suspended context from hsuspended] at hbinding
    exact ⟨hlive, hbinding.1, fun hsome => hbinding.2.2 hsome hlive⟩

theorem captures_current_recorded : ∃ state : SupervisorState, (state.targetsByKey["a"]?.any fun target =>
    (captureContext state target).any fun context => target.captureBinding == .active context) = true ∧
      state.CapturesCurrent := by
  obtain ⟨trace, state, hrun, htest⟩ := exists_unguardedRun
    [.initialTargets [pageA], .attached "a" sessionA, .visibilityChanged "a" .visible ⟨1⟩, .initialReconciliationCompleted]
    (fun _ state => state.targetsByKey["a"]?.any fun target =>
      (captureContext state target).any fun context => target.captureBinding == .active context) (by decide)
  exact ⟨state, htest, captures_current hrun.reachable⟩

end Krometrail
