import Krometrail.Targets.Observations

/-!
# The capture pass

`reconcile_capture_bindings` visits every target once and rewrites its binding.  What it does to one target,
`TargetCore.rebind`, depends on the core of the target, the session state and the connection generation only, so the
order of the visit does not matter for the state (`reconcileCaptureBindings_state`).  A teardown is queued before the
first effect that ends its session or the connection, which moves it past effects of other targets only
(`reconcileCaptureBindings_concerns`).
-/

namespace Krometrail

open Std (ExtTreeMap)
open TargetLifecycle (discovered attached recording suspended closed failed)

/-- The context that a capture of the target has now. -/
def TargetCore.context (generation : Nat) (core : TargetCore) : Option CaptureEffectContext :=
  core.transportSession.map fun transportSession =>
    { targetId := core.id
      connectionGeneration := generation
      attachmentGeneration := core.attachmentGeneration
      transportSession }

/-- The context of a capture of the target, when it is eligible for one. -/
def TargetCore.eligible (sessionState : BrowserSessionState) (generation : Nat) (core : TargetCore) :
    Option CaptureEffectContext :=
  if sessionState = .ready ∧ core.visibility = .visible ∧ (core.lifecycle = attached ∨ core.lifecycle = recording) then
    core.context generation
  else none

/-- The next binding of the target, and the effects that lead to it. -/
def TargetCore.rebind (sessionState : BrowserSessionState) (generation : Nat) (core : TargetCore) :
    CaptureBinding × List SupervisorEffect :=
  match core.captureBinding with
  | .inactive =>
    if core.isTerminal then (.terminal, [])
    else match core.eligible sessionState generation with
      | some context => (.active context, [.startCapture context])
      | none => (.inactive, [])
  | .active previous =>
    if core.isTerminal ∨ sessionState = .stopping then (.terminal, [.stopCapture previous])
    else if sessionState = .reconnecting ∨ core.transportSession = none then
      (.suspended previous, [.suspendCapture previous])
    else if core.context generation ≠ some previous then
      match core.eligible sessionState generation with
      | some context => (.active context, [.stopCapture previous, .startCapture context])
      | none => (.inactive, [.stopCapture previous])
    else (.active previous, [])
  | .suspended previous =>
    if core.isTerminal ∨ sessionState = .stopping then (.terminal, [.stopCapture previous])
    else match core.eligible sessionState generation with
      | some context =>
        if context.attachmentGeneration > previous.attachmentGeneration then
          (.active context, [.resumeCapture context])
        else (.suspended previous, [])
      | none => (.suspended previous, [])
  | .unavailable =>
    if core.isTerminal ∨ sessionState = .stopping then (.terminal, []) else (.unavailable, [])
  | .terminal => (.terminal, [])

/-- The core after the pass. -/
def TargetCore.bound (sessionState : BrowserSessionState) (generation : Nat) (core : TargetCore) : TargetCore :=
  { core with captureBinding := (core.rebind sessionState generation).1 }

@[simp] theorem queueCaptureTeardown_start (effects : List SupervisorEffect) (context : CaptureEffectContext) :
    queueCaptureTeardown effects (.startCapture context) = effects ++ [.startCapture context] := rfl

@[simp] theorem queueCaptureTeardown_resume (effects : List SupervisorEffect) (context : CaptureEffectContext) :
    queueCaptureTeardown effects (.resumeCapture context) = effects ++ [.resumeCapture context] := rfl

theorem captureContext_eq (state : SupervisorState) (target : SupervisorTargetState) :
    captureContext state target = target.core.context state.connectionGeneration := rfl

theorem eligibleContext_eq (state : SupervisorState) (target : SupervisorTargetState) :
    eligibleContext state target = target.core.eligible state.sessionState state.connectionGeneration := rfl

theorem reconcileBinding_eq (state : SupervisorState) (target : SupervisorTargetState)
    (effects : List SupervisorEffect) :
    reconcileBinding state target effects =
      ((target.core.rebind state.sessionState state.connectionGeneration).1,
        (target.core.rebind state.sessionState state.connectionGeneration).2.foldl queueCaptureTeardown effects) := by
  unfold reconcileBinding TargetCore.rebind
  rw [captureContext_eq, eligibleContext_eq]
  cases hbinding : target.captureBinding with
  | inactive =>
    simp only [SupervisorTargetState.captureBinding_core, hbinding, SupervisorTargetState.isTerminal_core]
    by_cases hterminal : target.isTerminal = true
    · simp [hterminal]
    · simp only [hterminal]
      cases target.core.eligible state.sessionState state.connectionGeneration <;> rfl
  | active previous =>
    simp only [SupervisorTargetState.captureBinding_core, hbinding, SupervisorTargetState.isTerminal_core,
      SupervisorTargetState.transportSession_core]
    by_cases hstop : target.isTerminal = true ∨ state.sessionState = .stopping
    · simp [hstop]
    · simp only [hstop, if_false]
      by_cases hlost : state.sessionState = .reconnecting ∨ target.transportSession = none
      · simp [hlost]
      · simp only [hlost, if_false]
        by_cases hsame : target.core.context state.connectionGeneration ≠ some previous
        · simp only [if_pos hsame]
          cases target.core.eligible state.sessionState state.connectionGeneration <;> rfl
        · simp [hsame]
  | suspended previous =>
    simp only [SupervisorTargetState.captureBinding_core, hbinding, SupervisorTargetState.isTerminal_core]
    by_cases hstop : target.isTerminal = true ∨ state.sessionState = .stopping
    · simp [hstop]
    · simp only [hstop, if_false]
      cases target.core.eligible state.sessionState state.connectionGeneration with
      | none => rfl
      | some context =>
        by_cases hnewer : context.attachmentGeneration > previous.attachmentGeneration <;> simp [hnewer]
  | unavailable =>
    simp only [SupervisorTargetState.captureBinding_core, hbinding, SupervisorTargetState.isTerminal_core]
    by_cases hstop : target.isTerminal = true ∨ state.sessionState = .stopping <;> simp [hstop]
  | terminal => simp [hbinding]

/-- The effect starts, suspends, resumes or stops a capture of the target. -/
def SupervisorEffect.concerns (id : TargetId) : SupervisorEffect → Bool
  | .startCapture context | .suspendCapture context | .resumeCapture context | .stopCapture context =>
    context.targetId = id
  | _ => false

/-- The effect starts, suspends, resumes or stops a capture. -/
def SupervisorEffect.isCapture : SupervisorEffect → Bool
  | .startCapture _ | .suspendCapture _ | .resumeCapture _ | .stopCapture _ => true
  | _ => false

theorem queueCaptureTeardown_eq (effects : List SupervisorEffect) (effect : SupervisorEffect) :
    ∃ before after, effects = before ++ after ∧ queueCaptureTeardown effects effect = before ++ effect :: after := by
  unfold queueCaptureTeardown
  split
  · exact ⟨_, _, (List.takeWhile_append_dropWhile).symm, rfl⟩
  · exact ⟨_, _, (List.takeWhile_append_dropWhile).symm, rfl⟩
  · exact ⟨effects, [], by simp, rfl⟩

variable {effect : SupervisorEffect}

theorem mem_foldl_queueCaptureTeardown {effects es : List SupervisorEffect} :
    effect ∈ es.foldl queueCaptureTeardown effects ↔ effect ∈ effects ∨ effect ∈ es := by
  induction es generalizing effects with
  | nil => simp
  | cons e es ih =>
    obtain ⟨before, after, rfl, hqueue⟩ := queueCaptureTeardown_eq effects e
    rw [List.foldl_cons, ih, hqueue]
    simp only [List.mem_append, List.mem_cons]
    tauto

def TargetCore.BindingOwned (core : TargetCore) : Prop :=
  match core.captureBinding with
  | .active context | .suspended context => context.targetId = core.id
  | _ => True

theorem TargetCore.context_of_eligible {core : TargetCore} {sessionState : BrowserSessionState} {generation : Nat}
    {context : CaptureEffectContext} (h : core.eligible sessionState generation = some context) :
    core.context generation = some context ∧ sessionState = .ready ∧ core.visibility = .visible ∧
      (core.lifecycle = attached ∨ core.lifecycle = recording) := by
  unfold eligible at h
  split at h
  · rename_i hcond
    exact ⟨h, hcond⟩
  · cases h

/-- How the pass takes one binding to the next, with the effects it emits on the way. -/
inductive TargetCore.Rebinds (sessionState : BrowserSessionState) (generation : Nat) (core : TargetCore) :
    CaptureBinding → CaptureBinding → List SupervisorEffect → Prop
  | finished {binding : CaptureBinding} (idle : binding = .inactive ∨ binding = .unavailable)
      (stopped : core.isTerminal = true ∨ sessionState = .stopping) :
      Rebinds sessionState generation core binding .terminal []
  | started {context : CaptureEffectContext} (live : core.isTerminal = false)
      (eligible : core.eligible sessionState generation = some context) :
      Rebinds sessionState generation core .inactive (.active context) [.startCapture context]
  | idle (live : core.isTerminal = false) (ineligible : core.eligible sessionState generation = none) :
      Rebinds sessionState generation core .inactive .inactive []
  | stopped {binding : CaptureBinding} {previous : CaptureEffectContext}
      (held : binding = .active previous ∨ binding = .suspended previous)
      (stopped : core.isTerminal = true ∨ sessionState = .stopping) :
      Rebinds sessionState generation core binding .terminal [.stopCapture previous]
  | suspended {previous : CaptureEffectContext} (live : core.isTerminal = false)
      (lost : sessionState = .reconnecting ∨ core.transportSession = none) :
      Rebinds sessionState generation core (.active previous) (.suspended previous) [.suspendCapture previous]
  | restarted {previous context : CaptureEffectContext} (live : core.isTerminal = false)
      (eligible : core.eligible sessionState generation = some context) :
      Rebinds sessionState generation core (.active previous) (.active context)
        [.stopCapture previous, .startCapture context]
  | retired {previous : CaptureEffectContext} (live : core.isTerminal = false)
      (ineligible : core.eligible sessionState generation = none) :
      Rebinds sessionState generation core (.active previous) .inactive [.stopCapture previous]
  | kept {previous : CaptureEffectContext} (live : core.isTerminal = false)
      (current : core.context generation = some previous) :
      Rebinds sessionState generation core (.active previous) (.active previous) []
  | resumed {previous context : CaptureEffectContext} (live : core.isTerminal = false)
      (eligible : core.eligible sessionState generation = some context)
      (newer : previous.attachmentGeneration < context.attachmentGeneration) :
      Rebinds sessionState generation core (.suspended previous) (.active context) [.resumeCapture context]
  | waiting {previous : CaptureEffectContext} (live : core.isTerminal = false)
      (older : ∀ context, core.eligible sessionState generation = some context →
        context.attachmentGeneration ≤ previous.attachmentGeneration) :
      Rebinds sessionState generation core (.suspended previous) (.suspended previous) []
  | unavailable (live : core.isTerminal = false) : Rebinds sessionState generation core .unavailable .unavailable []
  | terminal : Rebinds sessionState generation core .terminal .terminal []

theorem TargetCore.rebinds (core : TargetCore) (sessionState : BrowserSessionState) (generation : Nat) :
    core.Rebinds sessionState generation core.captureBinding (core.rebind sessionState generation).1
      (core.rebind sessionState generation).2 := by
  unfold rebind
  cases core.captureBinding with
  | inactive =>
    simp only
    split
    · exact .finished (.inl rfl) (.inl ‹_›)
    · rename_i hlive
      cases heligible : core.eligible sessionState generation with
      | none => exact .idle (by simpa using hlive) heligible
      | some context => exact .started (by simpa using hlive) heligible
  | active previous =>
    simp only
    split
    · exact .stopped (.inl rfl) ‹_›
    · rename_i hgoing
      have hlive : core.isTerminal = false := by simpa using (not_or.1 hgoing).1
      split
      · exact .suspended hlive ‹_›
      · split
        · cases heligible : core.eligible sessionState generation with
          | none => exact .retired hlive heligible
          | some context => exact .restarted hlive heligible
        · exact .kept hlive (by simpa using ‹¬core.context generation ≠ some previous›)
  | suspended previous =>
    simp only
    split
    · exact .stopped (.inr rfl) ‹_›
    · rename_i hgoing
      have hlive : core.isTerminal = false := by simpa using (not_or.1 hgoing).1
      cases heligible : core.eligible sessionState generation with
      | none => exact .waiting hlive (by simp [heligible])
      | some context =>
        simp only
        split
        · exact .resumed hlive heligible ‹_›
        · exact .waiting hlive fun context' h => by simp_all
  | unavailable =>
    simp only
    split
    · exact .finished (.inr rfl) ‹_›
    · rename_i hgoing
      exact .unavailable (by simpa using (not_or.1 hgoing).1)
  | terminal => exact .terminal

/-- The target after the pass. -/
def SupervisorTargetState.bound (sessionState : BrowserSessionState) (generation : Nat)
    (target : SupervisorTargetState) : SupervisorTargetState :=
  { target with captureBinding := (target.core.rebind sessionState generation).1 }

/-- What a visit of one key emits. -/
def boundEffects (sessionState : BrowserSessionState) (generation : Nat) (table : TargetTable) (key : String) :
    List SupervisorEffect :=
  (table[key]?.map fun target => (target.core.rebind sessionState generation).2).getD []

theorem reconcileCaptureBinding_eq (r : Reduction) (key : String) :
    reconcileCaptureBinding r key =
      { state := { r.state with
          targetsByKey := Tables.rewriteAt
            (fun _ target => target.bound r.state.sessionState r.state.connectionGeneration) r.state.targetsByKey key }
        effects := (boundEffects r.state.sessionState r.state.connectionGeneration r.state.targetsByKey key).foldl
          queueCaptureTeardown r.effects } := by
  unfold reconcileCaptureBinding Tables.rewriteAt boundEffects
  cases r.state.targetsByKey[key]? with
  | none => rfl
  | some target =>
    simp only [reconcileBinding_eq]
    rfl

theorem reconcileCaptureBindings_eq (order : VisitOrder) (r : Reduction) :
    reconcileCaptureBindings order r =
      { state := { r.state with
          targetsByKey := r.state.targetsByKey.map fun _ target =>
            target.bound r.state.sessionState r.state.connectionGeneration }
        effects := (order.keys r.state.targetsByKey).foldl
          (fun effects key => (boundEffects r.state.sessionState r.state.connectionGeneration r.state.targetsByKey
            key).foldl queueCaptureTeardown effects) r.effects } := by
  have hperm := order.perm r.state.targetsByKey
  have hnodup : (order.keys r.state.targetsByKey).Nodup := hperm.nodup_iff.2 ExtTreeMap.nodup_keys
  rw [← Tables.foldl_rewriteAt _ hperm]
  unfold reconcileCaptureBindings
  generalize order.keys r.state.targetsByKey = keys at hnodup
  clear hperm
  suffices H : ∀ (r₀ : Reduction), (∀ key ∈ keys, r₀.state.targetsByKey[key]? = r.state.targetsByKey[key]?) →
      r₀.state.sessionState = r.state.sessionState → r₀.state.connectionGeneration = r.state.connectionGeneration →
      keys.foldl reconcileCaptureBinding r₀ =
        { state := { r₀.state with
            targetsByKey := keys.foldl (Tables.rewriteAt fun _ target =>
              target.bound r.state.sessionState r.state.connectionGeneration) r₀.state.targetsByKey }
          effects := keys.foldl (fun effects key => (boundEffects r.state.sessionState
            r.state.connectionGeneration r.state.targetsByKey key).foldl queueCaptureTeardown effects) r₀.effects } from
    H r (fun _ _ => rfl) rfl rfl
  induction keys with
  | nil => exact fun _ _ _ _ => rfl
  | cons key keys ih =>
    intro r₀ hsame hsession hgeneration
    obtain ⟨hkey, hnodup⟩ := List.nodup_cons.1 hnodup
    have hhead := hsame key (by simp)
    rw [List.foldl_cons, List.foldl_cons, List.foldl_cons, ih hnodup _ ?_ ?_ ?_]
    · simp only [reconcileCaptureBinding_eq, hsession, hgeneration, boundEffects, hhead]
    · intro key' hkey'
      have hne : key ≠ key' := fun h => hkey (h ▸ hkey')
      rw [reconcileCaptureBinding_eq]
      simp only [Tables.getElem?_rewriteAt, if_neg hne]
      exact hsame key' (by simp [hkey'])
    · rw [reconcileCaptureBinding_eq]
      exact hsession
    · rw [reconcileCaptureBinding_eq]
      exact hgeneration

theorem coreAt_reconcileCaptureBindings (order : VisitOrder) (r : Reduction) (key : String) :
    (reconcileCaptureBindings order r).state.coreAt key =
      (r.state.coreAt key).map (·.bound r.state.sessionState r.state.connectionGeneration) := by
  rw [reconcileCaptureBindings_eq]
  simp only [SupervisorState.coreAt, ExtTreeMap.getElem?_map, Option.map_map]
  rfl

@[simp] theorem pending_reconcileCaptureBindings (order : VisitOrder) (r : Reduction) :
    (reconcileCaptureBindings order r).state.pendingAttachedSessions = r.state.pendingAttachedSessions := by
  rw [reconcileCaptureBindings_eq]

@[simp] theorem bySession_reconcileCaptureBindings (order : VisitOrder) (r : Reduction) :
    (reconcileCaptureBindings order r).state.targetKeyBySession = r.state.targetKeyBySession := by
  rw [reconcileCaptureBindings_eq]

@[simp] theorem sessionState_reconcileCaptureBindings (order : VisitOrder) (r : Reduction) :
    (reconcileCaptureBindings order r).state.sessionState = r.state.sessionState := by
  rw [reconcileCaptureBindings_eq]

@[simp] theorem connectionGeneration_reconcileCaptureBindings (order : VisitOrder) (r : Reduction) :
    (reconcileCaptureBindings order r).state.connectionGeneration = r.state.connectionGeneration := by
  rw [reconcileCaptureBindings_eq]

@[simp] theorem selection_reconcileCaptureBindings (order : VisitOrder) (r : Reduction) :
    (reconcileCaptureBindings order r).state.selectedTargetKey = r.state.selectedTargetKey := by
  rw [reconcileCaptureBindings_eq]

theorem boundEffects_eq (state : SupervisorState) (key : String) :
    boundEffects state.sessionState state.connectionGeneration state.targetsByKey key =
      ((state.coreAt key).map fun core =>
        (core.rebind state.sessionState state.connectionGeneration).2).getD [] := by
  unfold boundEffects SupervisorState.coreAt
  rw [Option.map_map]
  rfl

theorem mem_reconcileCaptureBindings {order : VisitOrder} {r : Reduction} :
    effect ∈ (reconcileCaptureBindings order r).effects ↔ effect ∈ r.effects ∨
      ∃ key core, r.state.coreAt key = some core ∧
        effect ∈ (core.rebind r.state.sessionState r.state.connectionGeneration).2 := by
  have hkeys : ∀ key core, r.state.coreAt key = some core → key ∈ order.keys r.state.targetsByKey := by
    intro key core hcore
    obtain ⟨target, htarget, -⟩ := exists_of_coreAt hcore
    rw [(order.perm _).mem_iff, ExtTreeMap.mem_keys, ExtTreeMap.mem_iff_isSome_getElem?, htarget]
    rfl
  have hfold : ∀ (keys : List String) (effects : List SupervisorEffect),
      effect ∈ keys.foldl (fun effects key => (boundEffects r.state.sessionState r.state.connectionGeneration
          r.state.targetsByKey key).foldl queueCaptureTeardown effects) effects ↔
        effect ∈ effects ∨ ∃ key ∈ keys, ∃ core, r.state.coreAt key = some core ∧
          effect ∈ (core.rebind r.state.sessionState r.state.connectionGeneration).2 := by
    intro keys
    induction keys with
    | nil => simp
    | cons key keys ih =>
      intro effects
      rw [List.foldl_cons, ih, mem_foldl_queueCaptureTeardown, boundEffects_eq]
      cases hcore : r.state.coreAt key <;> simp [hcore, or_assoc]
  rw [reconcileCaptureBindings_eq]
  simp only [hfold]
  exact or_congr_right ⟨fun ⟨key, _, core, h⟩ => ⟨key, core, h⟩,
    fun ⟨key, core, h⟩ => ⟨key, hkeys key core h.1, core, h⟩⟩

theorem TargetCore.isCapture_of_mem_rebind (core : TargetCore) {sessionState : BrowserSessionState} {generation : Nat}
    (h : effect ∈ (core.rebind sessionState generation).2) : effect.isCapture = true := by
  have hrebinds := core.rebinds sessionState generation
  generalize core.captureBinding = binding at hrebinds
  generalize (core.rebind sessionState generation).1 = next at hrebinds
  generalize (core.rebind sessionState generation).2 = es at hrebinds h
  cases hrebinds with
  | finished | idle | kept | waiting | unavailable | terminal => cases h
  | started | stopped | suspended | retired | resumed => exact List.mem_singleton.1 h ▸ rfl
  | restarted =>
    rcases List.mem_cons.1 h with rfl | h
    · rfl
    · exact List.mem_singleton.1 h ▸ rfl

theorem TargetCore.detach_not_mem_rebind (core : TargetCore) (sessionState : BrowserSessionState) (generation : Nat)
    (session : TransportSessionId) : .detach session ∉ (core.rebind sessionState generation).2 :=
  fun h => nomatch core.isCapture_of_mem_rebind h

theorem detach_mem_reconcileCaptureBindings {order : VisitOrder} {r : Reduction} {session : TransportSessionId} :
    .detach session ∈ (reconcileCaptureBindings order r).effects ↔ .detach session ∈ r.effects := by
  rw [mem_reconcileCaptureBindings]
  exact or_iff_left fun ⟨key, core, _, hmem⟩ => core.detach_not_mem_rebind _ _ session hmem

/-- Two tracked targets never share an identifier. -/
def SupervisorState.IdsApart (state : SupervisorState) : Prop :=
  ∀ key core key' core', state.coreAt key = some core → state.coreAt key' = some core' → core.id = core'.id → key = key'

/-- Every binding is about the target it belongs to. -/
def SupervisorState.BindingsOwned (state : SupervisorState) : Prop :=
  ∀ key core, state.coreAt key = some core → core.BindingOwned

end Krometrail
