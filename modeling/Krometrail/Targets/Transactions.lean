import Krometrail.Targets.AttemptEffects

/-!
# Reconnect attempts are transactions

The deadline and the cancellation end an attempt at any command of the mandatory restoration but a replay of a viewport,
which takes them for a refusal.  An attempt that succeeds returns the state with the effects that run its captures.
-/

namespace Krometrail

open Runs (Run)
open Stateful

variable {w : Surroundings} {control : AttemptControl} {state : SupervisorState}

theorem ends_race (command : AttemptCommand) :
    Ends (w.race command control) (fun _ control' => control'.interrupted = false) fun _ _ => True := by
  unfold Surroundings.race
  dsimp only
  split
  · trivial
  · split
    · trivial
    · rename_i hcancelled hexpired
      change ((control.after (w.answer control.turn command)).cancelled ||
        (control.after (w.answer control.turn command)).expired) = false
      simp [hcancelled, hexpired]

theorem ends_command (command : AttemptCommand) :
    Ends (w.command command control) (fun _ control' => control'.interrupted = false) fun _ _ => True := by
  unfold Surroundings.command
  rw [ends_bind]
  refine (ends_race command).mono (fun answer control' hcalm => ?_) fun _ _ h => h
  split
  · exact hcalm
  · trivial

theorem ends_command_replay (hw : ReplaysUninterrupted state w) {command : AttemptCommand}
    (hreplays : command.replaysViewport = true) (hcalm : control.interrupted = false) :
    Ends (w.command command control) (fun _ control' => control'.interrupted = false)
      fun _ control' => control'.interrupted = false := by
  obtain ⟨hcancelled, hexpired⟩ := hw control.turn command hreplays
  have hafter : (control.after (w.answer control.turn command)).interrupted = false := by
    simpa [AttemptControl.interrupted, AttemptControl.after, hcancelled, hexpired] using hcalm
  unfold Surroundings.command
  rw [ends_bind]
  have hrace : Ends (w.race command control) (fun _ control' => control'.interrupted = false)
      fun _ control' => control'.interrupted = false := by
    unfold Surroundings.race
    dsimp only
    split
    · exact hafter
    · split
      · exact hafter
      · exact hafter
  refine hrace.mono (fun answer control' hcalm' => ?_) fun _ _ h => h
  split
  · exact hcalm'
  · exact hcalm'

theorem ends_replayViewport (hw : ReplaysUninterrupted state w) (hcalm : control.interrupted = false)
    (session : TransportSessionId) (viewport : ViewportMetrics) :
    Ends (w.replayViewport session viewport control) (fun _ control' => control'.interrupted = false)
      fun _ control' => control'.interrupted = false := by
  unfold Surroundings.replayViewport
  rw [ends_bind]
  refine (ends_command_replay hw rfl hcalm).mono (fun _ control₁ hcalm₁ => ?_) fun _ _ h => h
  rw [ends_bind]
  refine (ends_command_replay hw rfl hcalm₁).mono (fun _ control₂ hcalm₂ => ?_) fun _ _ h => h
  split
  · rw [ends_bind]
    exact (ends_command_replay hw rfl hcalm₂).mono (fun _ _ h => h) fun _ _ h => h
  · exact hcalm₂

theorem ends_reduceCopy (state : SupervisorState) (input : SupervisorInput) :
    Ends (w.reduceCopy state input control)
      (fun r control' => control' = control ∧ ∃ order, reduce order state input = .ok r) fun _ _ => True := by
  unfold Surroundings.reduceCopy
  cases hr : reduce (w.order control.turn) state input with
  | ok r => exact ⟨rfl, _, hr⟩
  | error _ => trivial

theorem ends_restoreTargets (infos : List TransportTargetInfo) (hcalm : control.interrupted = false) :
    Ends (w.restoreTargets infos control)
      (fun targets control' => (∀ e ∈ targets, e.visibility = .unknown) ∧ control'.interrupted = false)
      fun _ _ => True := by
  unfold Surroundings.restoreTargets
  rw [ends_bind]
  have hrestored := ends_each (f := w.restoreOneTarget) (l := infos) (s := control) (E := fun _ _ => True)
    (I := fun done control => (∀ p ∈ done, p.2.visibility = .unknown) ∧ control.interrupted = false)
    ⟨nofun, hcalm⟩ fun before info after done control' _ _ hdone => by
      unfold Surroundings.restoreOneTarget
      rw [ends_bind]
      refine (ends_command _).mono (fun answer control'' hcalm'' => ?_) fun _ _ h => h
      cases answer.session with
      | none => trivial
      | some session =>
        refine ⟨fun p hp => ?_, hcalm''⟩
        rcases List.mem_append.1 hp with hold | hnew
        · exact hdone.1 p hold
        · rw [List.mem_singleton.1 hnew]
  refine hrestored.mono (fun restored control' h => ?_) fun _ _ h => h
  obtain ⟨done, -, rfl, hdone, hcalm'⟩ := h
  refine ⟨fun e he => ?_, hcalm'⟩
  obtain ⟨p, hp, rfl⟩ := List.mem_map.1 (Sorting.mem_sortByKey.1 he)
  exact hdone p hp

theorem ends_reattach (hsound : state.Sound) (hreconnecting : state.sessionState = .reconnecting) :
    Ends (w.reattach state control) (fun r control' => r.Staged ∧ control'.interrupted = false) fun _ _ => True := by
  unfold Surroundings.reattach
  split
  · trivial
  · simp only [ends_bind]
    refine (ends_command _).mono (fun _ control₁ _ => ?_) fun _ _ h => h
    refine (ends_command _).mono (fun _ control₂ _ => ?_) fun _ _ h => h
    refine (ends_command _).mono (fun _ control₃ hcalm₃ => ?_) fun _ _ h => h
    cases recordableReconnectTargets w.targets w.targetLimit with
    | error failure => trivial
    | ok infos =>
      dsimp only
      rw [ends_bind]
      refine (ends_restoreTargets infos hcalm₃).mono (fun targets control₄ h => ?_) fun _ _ h => h
      obtain ⟨hunknown, hcalm₄⟩ := h
      refine (ends_reduceCopy state _).mono (fun r control₅ h => ?_) fun _ _ h => h
      obtain ⟨rfl, order, hr⟩ := h
      exact ⟨staged_reconnected hsound hreconnecting hunknown hr, hcalm₄⟩

/-- What `stage_reconnection_effects` has so far. -/
def Staging.reduction (staging : Staging) : Reduction := { state := staging.state, effects := staging.staged }

theorem Staging.staged_push {staging : Staging} (h : staging.reduction.Staged) {effect : SupervisorEffect}
    (hquiet : effect.begun = none) : (staging.push effect).reduction.Staged := by
  refine ⟨h.sound, h.idle, h.going, fun e he => ?_⟩
  rcases List.mem_append.1 he with hold | hnew
  · exact h.quiet e hold
  · exact List.mem_singleton.1 hnew ▸ hquiet

theorem ends_stageEffect (hw : ReplaysUninterrupted state w) {staging : Staging} {effect : SupervisorEffect}
    (hstaged : staging.reduction.Staged) (hcalm : control.interrupted = false) (hquiet : effect.begun = none) :
    Ends (w.stageEffect staging effect control)
      (fun staging' control' => staging'.reduction.Staged ∧ control'.interrupted = false) fun _ _ => True := by
  cases effect with
  | publish _ | stopCapture _ | suspendCapture _ => exact ⟨Staging.staged_push hstaged rfl, hcalm⟩
  | detach session =>
    unfold Surroundings.stageEffect
    rw [ends_bind]
    exact (ends_command _).mono (fun _ _ hcalm' => ⟨hstaged, hcalm'⟩) fun _ _ h => h
  | restoreViewport context viewport =>
    unfold Surroundings.stageEffect
    rw [ends_recover, ends_bind]
    refine (ends_replayViewport hw hcalm _ _).mono (fun _ control₁ hcalm₁ => ⟨hstaged, hcalm₁⟩) fun _ control₁ hcalm₁ => ?_
    rw [ends_bind]
    refine (ends_reduceCopy _ _).mono (fun r control₂ h => ?_) fun _ _ h => h
    obtain ⟨rfl, order, hr⟩ := h
    have hfailed := staged_attachFailed hstaged.sound hstaged.idle hstaged.going hr
    refine ⟨⟨hfailed.sound, hfailed.idle, hfailed.going, fun e he => ?_⟩, hcalm₁⟩
    rcases List.mem_append.1 he with hold | hnew
    · exact hstaged.quiet e (List.mem_filter.1 hold).1
    · exact hfailed.quiet e hnew
  | startCapture _ | resumeCapture _ => cases hquiet
  | attach _ | releaseWaitingTarget _ | restoreSessionDomains _ _ | probeInitialVisibility _ _ | beginReconnect
  | shutdown _ => trivial

theorem ends_restoreMandatory (hw : ReplaysUninterrupted state w) {r : Reduction} (hstaged : r.Staged)
    (hcalm : control.interrupted = false) (keys : List String) :
    Ends (w.restoreMandatory r keys control) (fun r' control' => r'.Staged ∧ control'.interrupted = false)
      fun _ _ => True := by
  unfold Surroundings.restoreMandatory
  rw [ends_bind]
  have hdomains := ends_each (f := w.restoreDomains r.state) (l := keys) (s := control) (E := fun _ _ => True)
    (I := fun _ control => control.interrupted = false) hcalm fun before key after done control' _ _ hcalm' => by
      unfold Surroundings.restoreDomains
      cases r.state.targetsByKey[key]?.bind (·.transportSession) with
      | none => exact hcalm'
      | some session =>
        dsimp only
        rw [ends_bind]
        exact (ends_command _).mono (fun _ _ h => h) fun _ _ h => h
  refine hdomains.mono (fun _ control₁ h => ?_) fun _ _ h => h
  obtain ⟨-, -, -, hcalm₁⟩ := h
  unfold Surroundings.stageReconnectionEffects
  rw [ends_bind]
  have hstart : (Staging.mk r.state [] []).reduction.Staged :=
    ⟨hstaged.sound, hstaged.idle, hstaged.going, fun _ h => nomatch h⟩
  refine (ends_foldlM (I := fun staging control => staging.reduction.Staged ∧ control.interrupted = false) ⟨hstart, hcalm₁⟩
    fun effect heffect staging control' h => ends_stageEffect hw h.1 h.2 (hstaged.quiet effect heffect)).mono
    (fun staging control' h => ends_pure.2 h) fun _ _ h => h

theorem ends_mandatoryRestoration (hw : ReplaysUninterrupted state w) (hsound : state.Sound)
    (hreconnecting : state.sessionState = .reconnecting) :
    Ends (w.mandatoryRestoration state control) (fun restored control' => restored.2.Staged ∧ control'.interrupted = false)
      fun _ _ => True := by
  unfold Surroundings.mandatoryRestoration
  rw [ends_bind]
  refine (ends_reattach hsound hreconnecting).mono (fun r control₁ h => ?_) fun _ _ h => h
  rw [ends_bind]
  exact (ends_restoreMandatory hw h.1 h.2 _).mono (fun _ _ h => h) fun _ _ h => h

theorem ends_observeVisibility {r : Reduction} (hr : r.Captured) (key : String) :
    Ends (w.observeVisibility r key control) (fun r' _ => r'.Captured) fun _ _ => True := by
  unfold Surroundings.observeVisibility
  cases r.state.targetsByKey[key]? with
  | none => exact hr
  | some target =>
    dsimp only
    by_cases hfailed : target.lifecycle = .failed
    · rw [if_pos hfailed]
      exact hr
    · rw [if_neg hfailed]
      cases target.transportSession with
      | none => exact hr
      | some session =>
        dsimp only
        have hprobe : Ends (w.probeVisibility session control) (fun _ _ => True) fun _ _ => True := by
          cases w.probeVisibility session control <;> trivial
        rw [ends_bind]
        refine hprobe.mono (fun visibility control₁ _ => ?_) fun _ _ h => h
        rw [ends_bind, ends_get, ends_bind]
        refine (ends_reduceCopy _ _).mono (fun observed control₂ h => ?_) fun _ _ h => h
        obtain ⟨-, order, hobserved⟩ := h
        refine ends_pure.2 (hr.probe key ?_ hobserved)
        cases visibility with
        | none => exact .inr rfl
        | some visibility => exact .inl ⟨visibility, _, rfl⟩

theorem reconstructConnection_eq (w : Surroundings) (state : SupervisorState) :
    w.reconstructConnection state =
      (w.mandatoryRestoration state >>= fun restored => restored.1.foldlM w.observeVisibility restored.2) := by
  simp only [Surroundings.reconstructConnection, Surroundings.restoreTargetsForReconnection,
    Surroundings.mandatoryRestoration, bind_assoc, pure_bind]

theorem ends_reconstructConnection (hw : ReplaysUninterrupted state w) (hsound : state.Sound)
    (hreconnecting : state.sessionState = .reconnecting) :
    Ends (w.reconstructConnection state control) (fun r _ => r.Captured) fun _ _ => True := by
  rw [reconstructConnection_eq, ends_bind]
  refine (ends_mandatoryRestoration hw hsound hreconnecting).mono (fun restored control₁ h => ?_) fun _ _ h => h
  exact ends_foldlM (I := fun (r : Reduction) _ => r.Captured) h.1.captured fun key _ r _ hr => ends_observeVisibility hr key

theorem captures_iff (context : CaptureEffectContext) : state.Captures context ↔
    ∃ (key : String) (target : SupervisorTargetState), state.targetsByKey[key]? = some target ∧
      target.captureBinding = .active context := by
  constructor
  · rintro ⟨key, core, hcore, hactive⟩
    obtain ⟨target, htarget, rfl⟩ := exists_of_coreAt hcore
    exact ⟨key, target, htarget, hactive⟩
  · rintro ⟨key, target, htarget, hactive⟩
    exact ⟨key, target.core, coreAt_of_getElem? htarget, hactive⟩

theorem SupervisorState.Sound.live_of_active (h : state.Sound) {key : String} {core : TargetCore}
    (hcore : state.coreAt key = some core) {context : CaptureEffectContext} (hactive : core.captureBinding = .active context) :
    core.isTerminal = false := by
  by_contra hended
  cases ((h.settled key core hcore).1 (by simpa using hended)).symm.trans hactive

theorem not_isTerminal_of_failed {target : SupervisorTargetState} (h : target.lifecycle = .failed) :
    target.core.isTerminal = true := by
  change target.lifecycle.isTerminal = true
  rw [h]
  rfl

theorem captured_of_attempt (hw : ReplaysUninterrupted state w) (hsound : state.Sound)
    (hreconnecting : state.sessionState = .reconnecting) {r : Reduction} (hr : w.attempt state = .ok r) : r.Captured := by
  have hends : Ends (w.reconstructConnection state .start) (fun r _ => r.Captured) fun _ _ => True :=
    ends_reconstructConnection hw hsound hreconnecting
  unfold Surroundings.attempt at hr
  cases hresult : w.reconstructConnection state .start with
  | ok r' control' =>
    rw [hresult] at hr hends
    exact Except.ok.inj hr ▸ hends
  | error failure control' =>
    rw [hresult] at hr
    cases hr

theorem transactional_of_sound (hw : ReplaysUninterrupted state w) (hsound : state.Sound)
    (hreconnecting : state.sessionState = .reconnecting) : Transactional w state (w.attempt state) := by
  have hcaptured := fun r => captured_of_attempt (r := r) hw hsound hreconnecting
  refine ⟨fun hinterrupted => ?_, fun r hr context => ?_, fun r hr effect heffect context hbegun => ?_,
    fun r hr hapart effect heffect context hbegun key target htarget hfailed hid => ?_⟩
  · have hends : Ends (w.mandatoryRestoration state .start)
        (fun restored control' => restored.2.Staged ∧ control'.interrupted = false) fun _ _ => True :=
      ends_mandatoryRestoration hw hsound hreconnecting
    unfold Surroundings.interrupted at hinterrupted
    cases hresult : w.mandatoryRestoration state .start with
    | ok restored control' =>
      rw [hresult] at hends hinterrupted
      cases hends.2.symm.trans hinterrupted
    | error failure control' =>
      refine ⟨failure, ?_⟩
      have hfailed : w.reconstructConnection state .start = .error failure control' := by
        rw [reconstructConnection_eq]
        change EStateM.bind _ _ _ = _
        unfold EStateM.bind
        rw [hresult]
      unfold Surroundings.attempt
      rw [hfailed]
  · exact ((hcaptured r hr).captures context).trans (captures_iff context)
  · obtain ⟨key, core, hcore, hactive⟩ := (hcaptured r hr).begun effect heffect context hbegun
    have hlive := (hcaptured r hr).sound.live_of_active hcore hactive
    obtain ⟨target, htarget, rfl⟩ := exists_of_coreAt hcore
    exact ⟨key, target, htarget, hactive, fun hfailed => nomatch hlive.symm.trans (not_isTerminal_of_failed hfailed)⟩
  · obtain ⟨key', core, hcore, hactive⟩ := (hcaptured r hr).begun effect heffect context hbegun
    have hsound' := (hcaptured r hr).sound
    have hlive := hsound'.live_of_active hcore hactive
    have howned := hsound'.bindings key' core hcore
    unfold TargetCore.BindingSound at howned
    rw [hactive] at howned
    have htracked := coreAt_of_getElem? htarget
    obtain rfl := hapart key target.core key' core htracked hcore (hid.trans howned.1)
    obtain rfl := Option.some.inj (htracked.symm.trans hcore)
    cases hlive.symm.trans (not_isTerminal_of_failed hfailed)

/-- The state in which the attempt after an entry of a trace begins. -/
def stateAfter (after : List (SupervisorState × Surroundings × Except AttemptFailure Reduction)) (s : SupervisorState) :
    SupervisorState := (after.head?.map (·.1)).getD s

/-- Every attempt of a disconnected supervisor is a transaction, and one that fails leaves the state to the next. -/
theorem reconnections_transactional {trace : List (SupervisorState × Surroundings × Except AttemptFailure Reduction)}
    (h : Run reconnection ReplaysUninterrupted trace state) :
    (∀ entry ∈ trace, Transactional entry.2.1 entry.1 entry.2.2) ∧
      ∀ before entry after, trace = before ++ entry :: after → (∃ failure, entry.2.2 = .error failure) →
        stateAfter after state = entry.1 := by
  suffices H : state.Sound ∧ (∀ entry ∈ trace, Transactional entry.2.1 entry.1 entry.2.2) ∧
      ∀ before entry after, trace = before ++ entry :: after → (∃ failure, entry.2.2 = .error failure) →
        stateAfter after state = entry.1 from H.2
  refine h.traceInvariant (P := fun trace state => state.Sound ∧
    (∀ entry ∈ trace, Transactional entry.2.1 entry.1 entry.2.2) ∧
    ∀ before entry after, trace = before ++ entry :: after → (∃ failure, entry.2.2 = .error failure) →
      stateAfter after state = entry.1) (fun s hinit => ?_) fun trace s w outcome s' hP hw hstep => ?_
  · exact ⟨sound_of_reachable hinit.1, nofun, fun before entry after hsplit => by simp at hsplit⟩
  obtain ⟨hsound, htransactions, hnext⟩ := hP
  obtain ⟨hreconnecting, rfl, rfl⟩ := hstep
  have htransaction := transactional_of_sound hw hsound hreconnecting
  refine ⟨?_, fun entry hentry => ?_, fun before entry after hsplit hfailed => ?_⟩
  · cases houtcome : w.attempt s with
    | ok r => exact (captured_of_attempt hw hsound hreconnecting houtcome).sound
    | error failure => exact hsound
  · rcases List.mem_append.1 hentry with hold | hnew
    · exact htransactions entry hold
    · exact List.mem_singleton.1 hnew ▸ htransaction
  · rcases List.eq_nil_or_concat after with rfl | ⟨after', last, rfl⟩
    · obtain ⟨-, hlast⟩ := List.append_inj' hsplit rfl
      obtain rfl := List.singleton_inj.1 hlast
      obtain ⟨failure, houtcome⟩ := hfailed
      have houtcome : w.attempt s = .error failure := houtcome
      simp [stateAfter, houtcome]
    · rw [List.concat_eq_append, ← List.cons_append, ← List.append_assoc] at hsplit
      obtain ⟨htrace, hlast⟩ := List.append_inj' hsplit rfl
      obtain rfl := List.singleton_inj.1 hlast
      have hbefore := hnext before entry after' htrace hfailed
      cases after' with
      | nil => exact hbefore
      | cons first rest => exact hbefore

def desktop : ViewportMetrics := ⟨1024, 768, 1, false, false⟩

/-- A connection to one page, where the answers are as given. -/
def onePage (answer : Nat → AttemptCommand → Answer) : Surroundings where
  targetLimit := 4
  compatibility := chrome
  targets := [pageA]
  answer := answer
  probesOver _ := false
  sessionTime _ := ⟨2⟩
  order _ := .sorted

def accepted : Answer := ⟨false, false, true, some sessionB, some .visible⟩

def disconnectedPage : List SupervisorInput :=
  [.initialTargets [pageA], .attached "a" sessionA, .initialReconciliationCompleted, .viewportOverrideApplied "a" desktop,
    .visibilityChanged "a" .visible ⟨1⟩, .connectionLost]

/-- Every command is accepted in time, but the restoration of the domains when it is `late`. -/
def replies (late : Bool) : Nat → AttemptCommand → Answer
  | _, .restoreDomains _ => { accepted with expired := late }
  | _, _ => accepted

theorem replaysUninterrupted_replies (state : SupervisorState) (late : Bool) :
    ReplaysUninterrupted state (onePage (replies late)) := by
  intro turn command hreplays
  cases command <;> first | exact ⟨rfl, rfl⟩ | nomatch hreplays

/-- The capture of the page is resumed, after an attempt that ran out of time while it restored the domains. -/
theorem reconnections_transactional_second : ∃ trace state, Run reconnection ReplaysUninterrupted trace state ∧
    (trace.length = 2 ∧ state.sessionState = .ready) ∧
    (∀ entry ∈ trace, Transactional entry.2.1 entry.1 entry.2.2) ∧
      ∀ before entry after, trace = before ++ entry :: after → (∃ failure, entry.2.2 = .error failure) →
        stateAfter after state = entry.1 := by
  obtain ⟨_, state, hrun, htest⟩ := exists_unguardedRun disconnectedPage
    (fun _ state => state.sessionState == .reconnecting &&
      ((onePage (replies true)).attempt state).toOption.isNone &&
      ((onePage (replies false)).attempt state).toOption.any fun r =>
        r.state.sessionState == .ready && runCaptures r.effects != []) (by decide +kernel)
  simp only [Bool.and_eq_true, beq_iff_eq] at htest
  obtain ⟨⟨hreconnecting, hlate⟩, hready⟩ := htest
  cases hfirst : (onePage (replies true)).attempt state with
  | ok r => simp [hfirst, Except.toOption] at hlate
  | error failure =>
    cases hsecond : (onePage (replies false)).attempt state with
    | error failure => simp [hsecond, Except.toOption] at hready
    | ok r =>
      rw [hsecond] at hready
      have hstart : Run reconnection ReplaysUninterrupted [] state := .start ⟨hrun.reachable, hreconnecting⟩
      have hmiddle := hstart.next (replaysUninterrupted_replies state true) ⟨hreconnecting, hfirst.symm, rfl⟩
      have hend : Run reconnection ReplaysUninterrupted _ r.state :=
        hmiddle.next (replaysUninterrupted_replies state false) ⟨hreconnecting, hsecond.symm, rfl⟩
      exact ⟨_, r.state, hend, ⟨rfl, by simpa using (Bool.and_eq_true_iff.1 hready).1⟩, reconnections_transactional hend⟩

/-- The deadline passes while the viewport is replayed. -/
def lateReplay : Nat → AttemptCommand → Answer
  | _, .setDeviceMetrics _ _ => { accepted with expired := true }
  | _, _ => accepted

/-- Then the attempt succeeds, although its deadline has passed, and the page has failed. -/
theorem late_replay_succeeds : ¬∀ state, supervision.Reachable state → state.sessionState = .reconnecting →
    ∀ w : Surroundings, Transactional w state (w.attempt state) := by
  intro hall
  obtain ⟨_, state, hrun, htest⟩ := exists_unguardedRun disconnectedPage
    (fun _ state => state.sessionState == .reconnecting && (onePage lateReplay).interrupted state &&
      ((onePage lateReplay).attempt state).toOption.any fun r =>
        r.state.targetsByKey["a"]?.any fun target => target.lifecycle == .failed) (by decide +kernel)
  simp only [Bool.and_eq_true, beq_iff_eq] at htest
  obtain ⟨⟨hreconnecting, hinterrupted⟩, hfailed⟩ := htest
  obtain ⟨failure, houtcome⟩ := (hall state hrun.reachable hreconnecting (onePage lateReplay)).interrupted hinterrupted
  rw [houtcome] at hfailed
  cases hfailed

end Krometrail
