import Krometrail.Targets.Attempts
import Krometrail.Targets.Snapshots

/-!
# The captures of a reconnect attempt

A reconnection gives every live target an unknown visibility, so that no capture begins before the probes (`Idle`), and the
failure of a viewport keeps that (`Staged`).  A probe then begins the capture of its own target at most, and ends none, so
that the effects collected run the captures of the state (`Captured`).
-/

namespace Krometrail

open Std (ExtTreeMap)
open Runs (Run)
open Results Stateful
open TargetLifecycle (discovered attached recording suspended closed failed)

/-! ### Effects -/

/-- The capture that an effect stops or suspends. -/
def SupervisorEffect.ended : SupervisorEffect → Option CaptureEffectContext
  | .stopCapture context | .suspendCapture context => some context
  | _ => none

theorem SupervisorEffect.begun_of_isQuiet {effect : SupervisorEffect} (h : effect.isQuiet = true) :
    effect.begun = none ∧ effect.ended = none := by
  cases effect <;> first | exact ⟨rfl, rfl⟩ | exact nomatch h

theorem applyCapture_eq (running : List CaptureEffectContext) (effect : SupervisorEffect) :
    applyCapture running effect =
      (effect.ended.elim running fun context => running.filter (· ≠ context)) ++ effect.begun.toList := by
  cases effect <;> simp [applyCapture, SupervisorEffect.ended, SupervisorEffect.begun]

theorem runCaptures_of_begun {effects : List SupervisorEffect} (h : ∀ effect ∈ effects, effect.begun = none) :
    runCaptures effects = [] := by
  unfold runCaptures
  induction effects with
  | nil => rfl
  | cons effect effects ih =>
    have hnone : applyCapture [] effect = [] := by
      rw [applyCapture_eq, h effect (by simp)]
      cases effect.ended <;> rfl
    rw [List.foldl_cons, hnone]
    exact ih fun e he => h e (by simp [he])

theorem mem_foldl_applyCapture {effects : List SupervisorEffect} (h : ∀ effect ∈ effects, effect.ended = none)
    (running : List CaptureEffectContext) (context : CaptureEffectContext) :
    context ∈ effects.foldl applyCapture running ↔
      context ∈ running ∨ ∃ effect ∈ effects, effect.begun = some context := by
  induction effects generalizing running with
  | nil => simp
  | cons effect effects ih =>
    have hended := h effect (by simp)
    rw [List.foldl_cons, ih fun e he => h e (by simp [he]), applyCapture_eq, hended]
    simp only [Option.elim_none, List.mem_append, Option.mem_toList, List.mem_cons, exists_eq_or_imp]
    rw [or_assoc]

/-- The effect begins and ends no capture. -/
def SupervisorEffect.Passive (effect : SupervisorEffect) : Prop := effect.begun = none ∧ effect.ended = none

theorem passive_of_quiet {es : List SupervisorEffect} (h : Quiet es) : ∀ effect ∈ es, effect.Passive :=
  fun effect heffect => SupervisorEffect.begun_of_isQuiet (h effect heffect)

theorem passive_of_detaches {sessions : List TransportSessionId} : ∀ effect ∈ detaches sessions, effect.Passive := by
  intro effect heffect
  obtain ⟨session, -, rfl⟩ := List.mem_map.1 heffect
  exact ⟨rfl, rfl⟩

variable {key : String} {core core' : TargetCore} {r r' : Reduction} {state : SupervisorState} {order : VisitOrder}
  {input : SupervisorInput}

theorem Attaches.passive {session : TransportSessionId} (h : Attaches key core session r r')
    : ∃ es, r'.effects = r.effects ++ es ∧ ∀ effect ∈ es, effect.Passive := by
  obtain ⟨target, es, -, hquiet, rfl⟩ := h.result
  refine ⟨_, List.append_assoc .., fun effect heffect => ?_⟩
  rcases List.mem_append.1 heffect with hdetach | hes
  · exact passive_of_detaches effect hdetach
  · exact passive_of_quiet hquiet effect hes

theorem holdPending_passive (r : Reduction) (key : String) (session : TransportSessionId) (unsolicited : Bool) :
    ∃ es, (holdPending r key session unsolicited).effects = r.effects ++ es ∧ ∀ effect ∈ es, effect.Passive := by
  have hreleased : ∀ effect ∈ if unsolicited then [SupervisorEffect.releaseWaitingTarget session] else [],
      effect.Passive := by
    cases unsolicited with
    | false => exact fun _ h => nomatch h
    | true => exact fun effect h => List.mem_singleton.1 h ▸ ⟨rfl, rfl⟩
  obtain ⟨evicted, hevicted⟩ := evictPending_effects (r.state.pendingAttachedSessions.insert key session)
    (r.effects ++ (r.state.pendingAttachedSessions[key]?).toList.map SupervisorEffect.detach ++
      if unsolicited then [.releaseWaitingTarget session] else [])
    (if r.state.pendingAttachedOrder.contains key then r.state.pendingAttachedOrder
      else r.state.pendingAttachedOrder ++ [key])
  refine ⟨_, hevicted.trans (by rw [List.append_assoc, List.append_assoc]), fun effect heffect => ?_⟩
  rcases List.mem_append.1 heffect with hreplaced | heffect
  · exact passive_of_detaches effect hreplaced
  · exact (List.mem_append.1 heffect).elim (hreleased effect) (passive_of_detaches effect)

theorem Move.passive {act : Act} (h : Move act r r') : ∃ es, r'.effects = r.effects ++ es ∧ ∀ effect ∈ es, effect.Passive := by
  cases h with
  | note revision nextPageSequence quiet => exact ⟨_, rfl, passive_of_quiet quiet⟩
  | repair =>
    obtain ⟨_, _, es, hquiet, -, heq⟩ := reconcileSelection_eq r
    exact ⟨es, by rw [heq], passive_of_quiet hquiet⟩
  | select candidate =>
    obtain ⟨_, es, hquiet, heq⟩ := setSelection_eq r (some _)
    exact ⟨es, by rw [heq], passive_of_quiet hquiet⟩
  | enter allowed selected => exact ⟨_, rfl, passive_of_quiet (publish_quiet _)⟩
  | hold => exact holdPending_passive _ _ _ _
  | unhold detach =>
    refine ⟨_, rfl, fun effect heffect => ?_⟩
    split at heffect
    · exact passive_of_detaches effect heffect
    · cases heffect
  | lose quiet => exact ⟨_, rfl, passive_of_quiet quiet⟩
  | finish tracked enabled result quiet emitted =>
    rename_i ending key core target revision effects es
    obtain ⟨_, _, es', hquiet, -, heq⟩ := reconcileSelection_eq
      { state := { r.state with
          targetKeyBySession := ending.unmap core r.state.targetKeyBySession
          targetsByKey := r.state.targetsByKey.insert key target
          revision }
        effects }
    refine ⟨detaches (ending.released core) ++ es ++ es', by rw [heq, emitted]; simp, fun effect heffect => ?_⟩
    rcases List.mem_append.1 heffect with heffect | hes'
    · rcases List.mem_append.1 heffect with hdetach | hes
      · exact passive_of_detaches effect hdetach
      · exact passive_of_quiet quiet effect hes
    · exact passive_of_quiet hquiet effect hes'
  | adopt pending attaches => exact attaches.passive
  | createAdopt vacant fresh hashed pending attaches => exact attaches.passive
  | deliver attaches => exact attaches.passive
  | revise tracked enabled result quiet emitted => exact ⟨_, emitted, passive_of_quiet quiet⟩
  | renew | forget | reclaim | annotate | create | release | releaseTerminal =>
    exact ⟨[], (List.append_nil _).symm, fun _ h => nomatch h⟩

theorem Moves.passive {A : Act → Prop} (h : Moves A r r') (hr : ∀ effect ∈ r.effects, effect.Passive)
    : ∀ effect ∈ r'.effects, effect.Passive := by
  refine h.invariant (P := fun r' => ∀ effect ∈ r'.effects, effect.Passive) (fun act r₁ r₂ hA hm hr₁ => ?_) hr
  obtain ⟨es, heffects, hes⟩ := hm.passive
  rw [heffects]
  intro effect heffect
  exact (List.mem_append.1 heffect).elim (hr₁ effect) (hes effect)

/-! ### No capture before the probes -/

/-- The target is not captured, and not eligible for a capture. -/
structure TargetCore.Idle (core : TargetCore) : Prop where
  inactive : ∀ context, core.captureBinding ≠ .active context
  unseen : core.isTerminal = true ∨ core.transportSession = none ∨ core.visibility ≠ .visible

theorem TargetCore.Idle.ineligible (h : core.Idle) (sessionState : BrowserSessionState) (generation : Nat)
    : core.eligible sessionState generation = none := by
  by_contra hsome
  obtain ⟨context, heligible⟩ := Option.ne_none_iff_exists'.1 hsome
  obtain ⟨hcontext, -, hvisible, hlifecycle⟩ := context_of_eligible heligible
  obtain ⟨session, hsession, -⟩ := Option.map_eq_some_iff.1 hcontext
  rcases h.unseen with hterminal | hnone | hunseen
  · rcases hlifecycle with hl | hl <;> simp [TargetCore.isTerminal, hl, TargetLifecycle.isTerminal] at hterminal
  · simp [hnone] at hsession
  · exact hunseen hvisible

theorem TargetCore.Idle.rebind (h : core.Idle) (sessionState : BrowserSessionState) (generation : Nat) :
    (core.bound sessionState generation).Idle ∧ ∀ effect ∈ (core.rebind sessionState generation).2, effect.begun = none := by
  have hrebinds := core.rebinds sessionState generation
  have hineligible := h.ineligible sessionState generation
  have hinactive := h.inactive
  suffices H : (∀ context, (core.rebind sessionState generation).1 ≠ .active context) ∧
      ∀ effect ∈ (core.rebind sessionState generation).2, effect.begun = none from ⟨⟨H.1, h.unseen⟩, H.2⟩
  generalize core.captureBinding = binding at hrebinds hinactive
  generalize (core.rebind sessionState generation).1 = next at hrebinds ⊢
  generalize (core.rebind sessionState generation).2 = es at hrebinds ⊢
  cases hrebinds with
  | finished | idle | waiting | unavailable | terminal => exact ⟨nofun, fun _ h => nomatch h⟩
  | started _ heligible => cases hineligible.symm.trans heligible
  | resumed _ heligible _ => cases hineligible.symm.trans heligible
  | stopped => exact ⟨nofun, fun effect heffect => List.mem_singleton.1 heffect ▸ rfl⟩
  | suspended | restarted | retired | kept => exact absurd rfl (hinactive _)

/-- No tracked target is captured or eligible for a capture. -/
def SupervisorState.Idle (state : SupervisorState) : Prop := ∀ key core, state.coreAt key = some core → core.Idle

theorem SupervisorState.Idle.reconcile (order : VisitOrder) (h : r.state.Idle) (hpassive : ∀ effect ∈ r.effects, effect.Passive) :
    (reconcileCaptureBindings order r).state.Idle ∧
      ∀ effect ∈ (reconcileCaptureBindings order r).effects, effect.begun = none := by
  constructor
  · intro key core hcore
    rw [coreAt_reconcileCaptureBindings] at hcore
    obtain ⟨core₀, hcore₀, rfl⟩ := Option.map_eq_some_iff.1 hcore
    exact ((h key core₀ hcore₀).rebind _ _).1
  · intro effect heffect
    rcases mem_reconcileCaptureBindings.1 heffect with hbefore | ⟨key, core, hcore, hmem⟩
    · exact (hpassive effect hbefore).1
    · exact ((h key core hcore).rebind _ _).2 effect hmem

theorem SupervisorState.Sound.idle (h : state.Sound) (hreconnecting : state.sessionState = .reconnecting) : state.Idle := by
  intro key core hcore
  have hnone := h.disconnected hreconnecting key core hcore
  obtain ⟨hterminal, hcurrent, -⟩ := h.settled key core hcore
  refine ⟨fun context hactive => ?_, ?_⟩
  · cases hlive : core.isTerminal with
    | true => cases (hterminal hlive).symm.trans hactive
    | false =>
      obtain ⟨session, hsession, -⟩ := Option.map_eq_some_iff.1 (hcurrent context hactive)
      cases (hnone hlive).symm.trans hsession
  · cases hlive : core.isTerminal with
    | true => exact .inl rfl
    | false => exact .inr (.inl (hnone hlive))

/-- The act ends a target, or begins a connection generation. -/
def Act.EndsOrRenews : Act → Prop
  | .finish _ _ _ | .renew _ => True
  | _ => False

theorem keeps_idle_ended {A : Act → Prop} (hA : ∀ act, A act → act.EndsOrRenews) :
    Keeps A (fun _ core => core.Idle) (fun _ _ => True) where
  hold _ _ _ := trivial
  lose h := (hA _ h).elim
  create _ _ _ h := (hA _ h).elim
  createAdopt _ _ _ _ h := (hA _ h).elim
  adopt _ _ _ h := (hA _ h).elim
  deliver _ _ _ h := (hA _ h).elim
  finish ending _ core _ h := by
    refine ⟨fun context => ?_, .inl (ending.isTerminal_core core)⟩
    cases ending <;> simp only [Ending.core] <;> first | exact h.inactive context | simp
  release _ core hterminal h := ⟨h.inactive, .inl hterminal⟩
  revise _ _ _ h := (hA _ h).elim

theorem endsOrRenews_of_missing {kept : List String} (act : Act) (h : Missing kept act) : act.EndsOrRenews := by
  cases act <;> trivial

theorem keeps_idle_restores {targets : List ReconnectedTarget} (hunknown : ∀ e ∈ targets, e.visibility = .unknown) :
    Keeps (Restores targets) (fun _ core => core.Idle) (fun _ _ => False) where
  hold _ _ hA := hA.elim
  lose hA := hA.elim
  create _ _ _ _ := ⟨nofun, .inr (.inl rfl)⟩
  createAdopt _ _ _ _ _ hQ := hQ.elim
  adopt _ _ _ hA := hA.elim
  deliver _ core session hA h _ _ _ := by
    obtain ⟨e, he, -, -, hvisibility⟩ := hA
    refine ⟨h.inactive, .inr (.inr ?_)⟩
    change core.visibility ≠ .visible
    rw [hvisibility, hunknown e he]
    exact nofun
  finish _ _ _ hA := hA.elim
  release _ _ hterminal h := ⟨h.inactive, .inl hterminal⟩
  revise change _ core hA h _ := by
    cases change with
    | visibilityRestored visibility =>
      obtain ⟨e, he, -, rfl⟩ := hA
      exact ⟨h.inactive, .inr (.inr (by simp [Change.core, hunknown e he]))⟩
    | visibilityObserved _ | captureStartFailed _ | visibilityProbeFailed => exact hA.elim

/-- What the mandatory restoration leaves. -/
structure Reduction.Staged (r : Reduction) : Prop where
  sound : r.state.Sound
  idle : r.state.Idle
  going : r.state.sessionState ≠ .stopping
  quiet : ∀ effect ∈ r.effects, effect.begun = none

theorem reduce_sound (hsound : state.Sound) (h : reduce order state input = .ok r) : r.state.Sound := hsound.step ⟨order, h⟩

theorem reduce_cases (h : reduce order state input = .ok r)
    (hplain : ∀ generation input', input ≠ .forConnectionGeneration generation input') :
    r = { state, effects := [] } ∨
      ∃ r₀, observe order { state, effects := [] } input = .ok r₀ ∧ reconcileCaptureBindings order r₀ = r := by
  rw [reduce_eq] at h
  cases input with
  | forConnectionGeneration generation input' => exact absurd rfl (hplain generation input')
  | _ =>
    simp only [SupervisorInput.accepted] at h
    split at h
    · exact .inl (Except.ok.inj h).symm
    · rename_i payload haccepted
      simp only [bind_eq_ok, pure_eq_ok] at h
      obtain ⟨r₀, hr₀, hr⟩ := h
      split at haccepted
      · cases haccepted
      · exact .inr ⟨r₀, (Option.some.inj haccepted) ▸ hr₀, hr⟩

theorem staged_reconnected {snapshot : ReconnectedSnapshot} (hsound : state.Sound)
    (hreconnecting : state.sessionState = .reconnecting) (hunknown : ∀ e ∈ snapshot.targets, e.visibility = .unknown)
    (h : reduce order state (.reconnected snapshot) = .ok r) : r.Staged := by
  have hsound' := reduce_sound hsound h
  obtain rfl | ⟨r₀, hr₀, rfl⟩ := reduce_cases h nofun
  · exact ⟨hsound, hsound.idle hreconnecting, by simp [hreconnecting], fun _ h => nomatch h⟩
  obtain rfl | ⟨-, -, hready, r₁, hmissing, -, hrestores⟩ := reconnect_phases hr₀
  · have hpass := SupervisorState.Idle.reconcile order (r := { state, effects := [] })
      (hsound.idle hreconnecting) fun _ h => nomatch h
    exact ⟨hsound', hpass.1, by simp [hreconnecting], hpass.2⟩
  · have hidle₁ := hmissing.entries (keeps_idle_ended endsOrRenews_of_missing) ⟨hsound.idle hreconnecting, fun _ _ _ => trivial⟩
    have hcleared : ∀ (key : String) (session : TransportSessionId),
        (clearSessions r₁.state).pendingAttachedSessions[key]? = some session → False := by
      intro key session hpending
      simp [clearSessions] at hpending
    have hlisted : ∀ e ∈ (SupervisorInput.reconnected snapshot).restored, e.visibility = .unknown :=
      fun e he => hunknown e (List.mem_filter.1 he).1
    have hidle₂ := hrestores.entries (keeps_idle_restores hlisted) ⟨hidle₁.cores, hcleared⟩
    have hpassive₁ := hmissing.passive fun _ h => nomatch h
    have hpassive₂ := hrestores.passive hpassive₁
    have hpass := SupervisorState.Idle.reconcile order (r := r₀) hidle₂.cores hpassive₂
    exact ⟨hsound', hpass.1, by simp [hready], hpass.2⟩

theorem staged_attachFailed (hsound : state.Sound) (hidle : state.Idle) (hgoing : state.sessionState ≠ .stopping)
    (h : reduce order state (.targetAttachFailed key) = .ok r) : r.Staged := by
  have hsound' := reduce_sound hsound h
  obtain rfl | ⟨r₀, hr₀, rfl⟩ := reduce_cases h nofun
  · exact ⟨hsound, hidle, hgoing, fun _ h => nomatch h⟩
  have hmoves := targetAttachFailed_moves (A := fun act => ∃ core, act = .finish .attachFailed key core) hr₀
    fun core _ => ⟨core, rfl⟩
  have hends : ∀ act : Act, (∃ core, act = .finish .attachFailed key core) → act.EndsOrRenews := by
    rintro _ ⟨core, rfl⟩
    trivial
  have hentries := hmoves.entries (keeps_idle_ended hends) ⟨hidle, fun _ _ _ => trivial⟩
  have hpassive := hmoves.passive fun _ h => nomatch h
  have hpass := SupervisorState.Idle.reconcile order (r := r₀) hentries.cores hpassive
  refine ⟨hsound', hpass.1, ?_, hpass.2⟩
  rcases hmoves.sessionState with hsame | ⟨core, hentered⟩
  · simpa [hsame] using hgoing
  · cases hentered

/-! ### Probes -/

/-- The changes that a probe makes. -/
def Change.Probes : Change → Prop
  | .visibilityObserved _ | .visibilityProbeFailed => True
  | _ => False

/-- A target as it was, or changed by a probe. -/
def TargetCore.Probed (core core' : TargetCore) : Prop :=
  core' = core ∨ ∃ change : Change, change.Probes ∧ change.Enabled core ∧ core' = change.core core

theorem TargetCore.Probed.active_iff (h : core.Probed core') (context : CaptureEffectContext) :
    core'.captureBinding = .active context ↔ core.captureBinding = .active context := by
  obtain rfl | ⟨change, hprobes, henabled, rfl⟩ := h
  · exact Iff.rfl
  · cases change with
    | visibilityObserved visibility =>
      simp only [Change.core]
      cases core.captureBinding <;> simp [Change.retried]
    | visibilityProbeFailed =>
      have hinactive : core.captureBinding = .inactive := henabled
      simp [Change.core, hinactive]
    | visibilityRestored _ | captureStartFailed _ => exact hprobes.elim

theorem TargetCore.Probed.suspended (h : core.Probed core') {context : CaptureEffectContext}
    (hsuspended : core'.captureBinding = .suspended context) : core.captureBinding = .suspended context := by
  obtain rfl | ⟨change, hprobes, henabled, rfl⟩ := h
  · exact hsuspended
  · cases change with
    | visibilityObserved visibility =>
      simp only [Change.core] at hsuspended
      cases hbinding : core.captureBinding <;> simp [hbinding, Change.retried] at hsuspended ⊢
      exact hsuspended
    | visibilityProbeFailed => cases hsuspended
    | visibilityRestored _ | captureStartFailed _ => exact hprobes.elim

theorem TargetCore.Probed.unchanged (h : core.Probed core') (generation : Nat) :
    core'.isTerminal = core.isTerminal ∧ core'.context generation = core.context generation := by
  obtain rfl | ⟨change, -, -, rfl⟩ := h
  · exact ⟨rfl, rfl⟩
  · exact ⟨change.isTerminal_core core, by simp [TargetCore.context]⟩

theorem TargetCore.Probed.rebind (h : core.Probed core') {sessionState : BrowserSessionState} {generation : Nat}
    (hsettled : core.Settled sessionState generation) (hgoing : sessionState ≠ .stopping)
    (hdisconnected : sessionState = .reconnecting → core.isTerminal = false → core.transportSession = none) :
    (∀ effect ∈ (core'.rebind sessionState generation).2, effect.ended = none) ∧
      ∀ context, (core'.rebind sessionState generation).1 = .active context ↔ core.captureBinding = .active context ∨
        ∃ effect ∈ (core'.rebind sessionState generation).2, effect.begun = some context := by
  obtain ⟨hterminal, hcurrent, -⟩ := hsettled
  obtain ⟨hsame, hcontext⟩ := h.unchanged generation
  by_cases hactive : ∃ previous, core.captureBinding = .active previous
  · -- The capture is current, so that the pass keeps it.
    obtain ⟨previous, hprevious⟩ := hactive
    have hlive : core.isTerminal = false := by
      by_contra hended
      cases (hterminal (by simpa using hended)).symm.trans hprevious
    have hkept := hcurrent previous hprevious
    obtain ⟨session, hsession, -⟩ := Option.map_eq_some_iff.1 hkept
    have hconnected : sessionState ≠ .reconnecting := fun hlost => by
      cases (hdisconnected hlost hlive).symm.trans hsession
    have hsession' : core'.transportSession ≠ none := by
      intro hnone
      have hkept' := hcontext.trans hkept
      simp [TargetCore.context, hnone] at hkept'
    have hrebind : core'.rebind sessionState generation = (.active previous, []) := by
      simp [TargetCore.rebind, (h.active_iff previous).2 hprevious, hsame, hlive, hgoing, hconnected, hsession', hcontext,
        hkept]
    rw [hrebind, hprevious]
    exact ⟨fun _ h => absurd h List.not_mem_nil, fun context => by simp⟩
  · have hinactive : ∀ context, core.captureBinding ≠ .active context := fun context hc => hactive ⟨context, hc⟩
    have hinactive' : ∀ context, core'.captureBinding ≠ .active context := fun context hc =>
      hinactive context ((h.active_iff context).1 hc)
    have hsuspended : ∀ context, core'.captureBinding = .suspended context →
        core.captureBinding = .suspended context := fun _ => h.suspended
    have hrebinds := core'.rebinds sessionState generation
    generalize core'.captureBinding = binding at hrebinds hinactive' hsuspended
    generalize (core'.rebind sessionState generation).1 = next at hrebinds ⊢
    generalize (core'.rebind sessionState generation).2 = es at hrebinds ⊢
    cases hrebinds with
    | started | resumed => simp [SupervisorEffect.ended, SupervisorEffect.begun, hinactive]
    | finished | idle | waiting | unavailable | terminal => simp [hinactive]
    | stopped held stopped =>
      rcases held with rfl | rfl
      · exact absurd rfl (hinactive' _)
      · have hended := hterminal (hsame ▸ stopped.resolve_right hgoing)
        cases hended.symm.trans (hsuspended _ rfl)
    | suspended | restarted | retired | kept => exact absurd rfl (hinactive' _)

/-- Some target is captured in the context. -/
def SupervisorState.Captures (state : SupervisorState) (context : CaptureEffectContext) : Prop :=
  ∃ key core, state.coreAt key = some core ∧ core.captureBinding = .active context

/-- The effects so far run the captures of the state. -/
structure Reduction.Captured (r : Reduction) : Prop where
  sound : r.state.Sound
  going : r.state.sessionState ≠ .stopping
  captures : ∀ context, context ∈ runCaptures r.effects ↔ r.state.Captures context
  begun : ∀ effect ∈ r.effects, ∀ context, effect.begun = some context → r.state.Captures context

theorem Reduction.Staged.captured (h : r.Staged) : r.Captured := by
  refine ⟨h.sound, h.going, fun context => ?_, fun effect heffect context hbegun => ?_⟩
  · rw [runCaptures_of_begun h.quiet]
    refine ⟨fun h => (nomatch h), fun ⟨key, core, hcore, hactive⟩ => ?_⟩
    exact absurd hactive ((h.idle key core hcore).inactive context)
  · cases (h.quiet effect heffect).symm.trans hbegun

theorem probed_of_moves
    (h : Moves (fun act => ∃ (change : Change) (core : TargetCore), change.Probes ∧ state.coreAt key = some core ∧
      act = .revise change key core) { state, effects := [] } r) :
    (∀ key', Option.Rel TargetCore.Probed (state.coreAt key') (r.state.coreAt key')) ∧
      r.state.sessionState = state.sessionState ∧ r.state.connectionGeneration = state.connectionGeneration := by
  refine h.invariant (P := fun r => (∀ key', Option.Rel TargetCore.Probed (state.coreAt key') (r.state.coreAt key')) ∧
    r.state.sessionState = state.sessionState ∧ r.state.connectionGeneration = state.connectionGeneration)
    (fun act r₁ r₂ hA hm hr => ?_) ⟨fun key' => ?_, rfl, rfl⟩
  · obtain ⟨change, core, hprobes, hcore, rfl⟩ := hA
    obtain ⟨hcores, hsession, hgeneration⟩ := hr
    have hkept : r₂.state.sessionState = r₁.state.sessionState ∧
        r₂.state.connectionGeneration = r₁.state.connectionGeneration := by
      cases hm
      exact ⟨rfl, rfl⟩
    refine ⟨fun key' => ?_, hkept.1.trans hsession, hkept.2.trans hgeneration⟩
    have hbefore := hcores key'
    have hmove := hm.coreAt key'
    generalize r₁.state.coreAt key' = before at hbefore hmove
    generalize r₂.state.coreAt key' = after at hmove
    cases hmove with
    | same => exact hbefore
    | revised enabled =>
      rw [hcore]
      exact .some (.inr ⟨change, hprobes, enabled, rfl⟩)
  · change Option.Rel TargetCore.Probed (state.coreAt key') (state.coreAt key')
    cases state.coreAt key' with
    | none => exact .none
    | some core => exact .some (.inl rfl)

theorem exists_of_rel_left {α : Type*} {R : α → α → Prop} {a b : Option α} (h : Option.Rel R a b) {x : α} (ha : a = some x) :
    ∃ y, b = some y ∧ R x y := by
  subst ha
  cases h with
  | some hxy => exact ⟨_, rfl, hxy⟩

theorem exists_of_rel_right {α : Type*} {R : α → α → Prop} {a b : Option α} (h : Option.Rel R a b) {y : α} (hb : b = some y) :
    ∃ x, a = some x ∧ R x y := by
  subst hb
  cases h with
  | some hxy => exact ⟨_, rfl, hxy⟩

theorem captures_reconcile_probe (hcores : ∀ key, Option.Rel TargetCore.Probed (state.coreAt key) (r.state.coreAt key))
    (hquiet : ∀ effect ∈ r.effects, effect.begun = none)
    (hrebind : ∀ key core core', state.coreAt key = some core → r.state.coreAt key = some core' → ∀ context,
      (core'.rebind r.state.sessionState r.state.connectionGeneration).1 = .active context ↔
        core.captureBinding = .active context ∨
          ∃ effect ∈ (core'.rebind r.state.sessionState r.state.connectionGeneration).2, effect.begun = some context)
    (context : CaptureEffectContext) :
    (reconcileCaptureBindings order r).state.Captures context ↔ state.Captures context ∨
      ∃ effect ∈ (reconcileCaptureBindings order r).effects, effect.begun = some context := by
  constructor
  · rintro ⟨key, core', hcore', hactive⟩
    rw [coreAt_reconcileCaptureBindings] at hcore'
    obtain ⟨core₀, hcore₀, rfl⟩ := Option.map_eq_some_iff.1 hcore'
    obtain ⟨core, hcore, -⟩ := exists_of_rel_right (hcores key) hcore₀
    rcases (hrebind key core core₀ hcore hcore₀ context).1 hactive with hwas | ⟨effect, hmem, hbegun⟩
    · exact .inl ⟨key, core, hcore, hwas⟩
    · exact .inr ⟨effect, mem_reconcileCaptureBindings.2 (.inr ⟨key, core₀, hcore₀, hmem⟩), hbegun⟩
  · intro hbefore
    -- the core that captures before, or whose effect begins the capture, is active after its rebinding
    obtain ⟨key, core, core₀, hcore, hcore₀, hactive⟩ : ∃ key core core₀, state.coreAt key = some core ∧
        r.state.coreAt key = some core₀ ∧ (core.captureBinding = .active context ∨
          ∃ effect ∈ (core₀.rebind r.state.sessionState r.state.connectionGeneration).2, effect.begun = some context) := by
      rcases hbefore with ⟨key, core, hcore, hactive⟩ | ⟨effect, heffect, hbegun⟩
      · obtain ⟨core₀, hcore₀, -⟩ := exists_of_rel_left (hcores key) hcore
        exact ⟨key, core, core₀, hcore, hcore₀, .inl hactive⟩
      · rcases mem_reconcileCaptureBindings.1 heffect with hold | ⟨key, core₀, hcore₀, hmem⟩
        · cases (hquiet effect hold).symm.trans hbegun
        · obtain ⟨core, hcore, -⟩ := exists_of_rel_right (hcores key) hcore₀
          exact ⟨key, core, core₀, hcore, hcore₀, .inr ⟨effect, hmem, hbegun⟩⟩
    refine ⟨key, core₀.bound r.state.sessionState r.state.connectionGeneration, ?_,
      (hrebind key core core₀ hcore hcore₀ context).2 hactive⟩
    rw [coreAt_reconcileCaptureBindings, hcore₀]
    rfl

theorem Reduction.Captured.probe {observed : Reduction} (hr : r.Captured) (key : String)
    (hinput : (∃ visibility observedAt, input = .visibilityChanged key visibility observedAt) ∨
      input = .initialVisibilityProbeFailed key)
    (h : reduce order r.state input = .ok observed) :
    Reduction.Captured { state := observed.state, effects := r.effects ++ observed.effects } := by
  have hsound' := reduce_sound hr.sound h
  have hplain : ∀ generation input', input ≠ .forConnectionGeneration generation input' := by
    rintro generation input' rfl
    obtain ⟨_, _, hsame⟩ | hsame := hinput <;> exact nomatch hsame
  obtain rfl | ⟨r₀, hr₀, rfl⟩ := reduce_cases h hplain
  · simpa using hr
  have hmoves : Moves (fun act => ∃ (change : Change) (core : TargetCore), change.Probes ∧
      r.state.coreAt key = some core ∧ act = .revise change key core) { state := r.state, effects := [] } r₀ := by
    obtain ⟨visibility, observedAt, rfl⟩ | rfl := hinput
    · exact visibilityChanged_moves hr₀ fun core hcore => ⟨.visibilityObserved visibility, core, trivial, hcore, rfl⟩
    · obtain rfl := Except.ok.inj hr₀
      exact initialVisibilityProbeFailed_moves fun core hcore => ⟨.visibilityProbeFailed, core, trivial, hcore, rfl⟩
  obtain ⟨hcores, hsession, hgeneration⟩ := probed_of_moves hmoves
  have hpassive := hmoves.passive fun _ h => nomatch h
  have hrebind : ∀ key' core core', r.state.coreAt key' = some core → r₀.state.coreAt key' = some core' →
      (∀ effect ∈ (core'.rebind r₀.state.sessionState r₀.state.connectionGeneration).2, effect.ended = none) ∧
      ∀ context, (core'.rebind r₀.state.sessionState r₀.state.connectionGeneration).1 = .active context ↔
        core.captureBinding = .active context ∨
          ∃ effect ∈ (core'.rebind r₀.state.sessionState r₀.state.connectionGeneration).2, effect.begun = some context := by
    intro key' core core' hcore hcore'
    have hprobed := hcores key'
    rw [hcore, hcore'] at hprobed
    cases hprobed with
    | some hprobed =>
      rw [hsession, hgeneration]
      exact hprobed.rebind (hr.sound.settled key' core hcore) hr.going fun hlost => hr.sound.disconnected hlost key' core hcore
  have hended : ∀ effect ∈ (reconcileCaptureBindings order r₀).effects, effect.ended = none := by
    intro effect heffect
    rcases mem_reconcileCaptureBindings.1 heffect with hquiet | ⟨key', core', hcore', hmem⟩
    · exact (hpassive effect hquiet).2
    · obtain ⟨core, hcore, -⟩ := exists_of_rel_right (hcores key') hcore'
      exact (hrebind key' core core' hcore hcore').1 effect hmem
  have hcaptures : ∀ context, (reconcileCaptureBindings order r₀).state.Captures context ↔ r.state.Captures context ∨
      ∃ effect ∈ (reconcileCaptureBindings order r₀).effects, effect.begun = some context :=
    captures_reconcile_probe hcores (fun effect heffect => (hpassive effect heffect).1) fun key' core core' hcore hcore' =>
      (hrebind key' core core' hcore hcore').2
  refine ⟨hsound', ?_, fun context => ?_, fun effect heffect context hbegun => ?_⟩
  · change (reconcileCaptureBindings order r₀).state.sessionState ≠ .stopping
    rw [sessionState_reconcileCaptureBindings, hsession]
    exact hr.going
  · change context ∈ (r.effects ++ (reconcileCaptureBindings order r₀).effects).foldl applyCapture [] ↔ _
    rw [List.foldl_append, mem_foldl_applyCapture hended]
    exact (or_congr_left (hr.captures context)).trans (hcaptures context).symm
  · rcases List.mem_append.1 heffect with hold | hnew
    · exact (hcaptures context).2 (.inl (hr.begun effect hold context hbegun))
    · exact (hcaptures context).2 (.inr ⟨effect, hnew, hbegun⟩)

end Krometrail
