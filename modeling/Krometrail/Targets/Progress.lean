import Krometrail.Targets.Supervision

/-!
# Observations that the reducer refuses

Every lifecycle write of the reducer goes through the checked `transition`.  A transport observation fails in a reachable
state exactly when it delivers to a live target a session other than the one it holds (`attach` asks the transition
table to take `Attached`, `Recording` or `Hidden` to `Attached`, which no row allows), or to a target whose attachment
generation cannot grow.
-/

namespace Krometrail

open Results
open Std (ExtTreeMap)
open Runs (Run)
open TargetLifecycle (discovered attached recording suspended closed failed)

/-- The inputs that report what the browser did, with or without the generation of the connection that carried them. -/
def SupervisorInput.isTransportObservation : SupervisorInput → Bool
  | .attached .. | .unsolicitedAttached .. | .detached _ | .targetDestroyed _ | .targetAttachFailed _
  | .visibilityChanged .. | .domainSetupFailed _ | .captureStartFailed _ | .connectionLost => true
  | .forConnectionGeneration _ input => input.isTransportObservation
  | _ => false

/-- The delivery of a session to a live target that holds another one, or that has no attachment generation left. -/
def Refuses (state : SupervisorState) (key : String) (session : TransportSessionId) : Prop :=
  ∃ target, state.targetsByKey[key]? = some target ∧ target.isTerminal = false ∧
    target.transportSession ≠ some session ∧
    (target.transportSession ≠ none ∨ u64Max ≤ target.target.attachmentGeneration)

theorem transition_failed {target : SupervisorTargetState} (h : ¬target.isTerminal = true) :
    target.lifecycle.transition failed = .ok failed := by
  simp only [TargetLifecycle.transition_eq_ok, TargetLifecycle.allowsTransition_failed, and_true]
  simpa [SupervisorTargetState.isTerminal] using h

variable (r : Reduction) (key : String)

theorem attach_ok_iff (session : TransportSessionId) (probeVisibility unsolicited : Bool)
    (hsound : ∀ target : SupervisorTargetState, r.state.targetsByKey[key]? = some target → target.core.Sound) :
    (∃ r', attach r key session probeVisibility unsolicited = .ok r') ↔ ¬Refuses r.state key session := by
  unfold attach Refuses
  cases ht : r.state.targetsByKey[key]? with
  | none => simp
  | some target =>
    have hcore := hsound target ht
    by_cases hterminal : target.isTerminal = true
    · simp [hterminal]
    · by_cases hsame : target.transportSession = some session
      · simp [hterminal, hsame]
      · have hlive : target.core.isTerminal = false := by simpa using hterminal
        have hallows := hcore.allows_resumed_iff hlive
        simp only [SupervisorTargetState.lifecycle_core, SupervisorTargetState.transportSession_core] at hallows
        simp only [hterminal, hsame, Bool.false_eq_true, if_false, attachLive, bind_eq_ok, pure_eq_ok,
          attachedTarget_eq_ok, hallows]
        constructor
        · rintro ⟨_, _, ⟨hgeneration, hnone, -⟩, -⟩ ⟨target', htarget', -, -, hheld | hfull⟩
          all_goals cases htarget'
          · exact hheld hnone
          · omega
        · intro hnot
          have hfree : target.transportSession = none ∧ target.target.attachmentGeneration + 1 ≤ u64Max := by
            by_contra hbusy
            refine hnot ⟨target, rfl, by simpa using hterminal, hsame, ?_⟩
            rcases not_and_or.1 hbusy with hheld | hfull
            · exact .inl hheld
            · exact .inr (by omega)
          exact ⟨_, _, ⟨hfree.2, hfree.1, rfl⟩, rfl⟩

theorem detachFailed_total (session : TransportSessionId) : ∃ r', detachFailed r session = .ok r' := by
  unfold detachFailed
  cases r.state.targetKeyBySession[session]? with
  | none => exact ⟨_, rfl⟩
  | some key =>
    simp only
    cases r.state.targetsByKey[key]? with
    | none => exact ⟨_, rfl⟩
    | some target =>
      by_cases hterminal : target.isTerminal = true
      · simp [hterminal]
      · simp only [hterminal, transition_failed hterminal, ok_bind]
        exact ⟨_, rfl⟩

theorem domainSetupFailed_total : ∃ r', domainSetupFailed r key = .ok r' := by
  unfold domainSetupFailed
  cases r.state.targetsByKey[key]? with
  | none => exact ⟨_, rfl⟩
  | some target =>
    by_cases hterminal : target.isTerminal = true
    · simp [hterminal]
    · simp only [hterminal, transition_failed hterminal, ok_bind]
      exact ⟨_, rfl⟩

theorem destroy_total : ∃ r', destroy r key = .ok r' := by
  unfold destroy
  cases r.state.targetsByKey[key]? with
  | none => exact ⟨_, rfl⟩
  | some target =>
    by_cases hclosed : target.lifecycle = closed
    · simp [hclosed]
    · by_cases hfailed : target.lifecycle = failed
      · simp only [hfailed, if_true, ok_bind]
        exact ⟨_, rfl⟩
      · have hallowed : target.lifecycle.transition closed = .ok closed := by
          simp only [TargetLifecycle.transition_eq_ok, TargetLifecycle.allowsTransition_closed, and_true]
          cases hl : target.lifecycle <;> simp_all [TargetLifecycle.isTerminal]
        simp only [hclosed, hfailed, hallowed]
        exact ⟨_, rfl⟩

theorem targetAttachFailed_total : ∃ r', targetAttachFailed r key = .ok r' := by
  unfold targetAttachFailed
  cases r.state.targetsByKey[key]? with
  | none => exact ⟨_, rfl⟩
  | some target =>
    by_cases hterminal : target.isTerminal = true
    · simp [hterminal]
    · simp only [hterminal, transition_failed hterminal, ok_bind]
      exact ⟨_, rfl⟩

theorem visibilityLifecycle_total (lifecycle : TargetLifecycle) (visibility : TargetVisibility) :
    (if visibilityLifecycle lifecycle visibility ≠ lifecycle then
      lifecycle.transition (visibilityLifecycle lifecycle visibility)
    else .ok (visibilityLifecycle lifecycle visibility)) = .ok (visibilityLifecycle lifecycle visibility) := by
  cases lifecycle <;> cases visibility <;> rfl

theorem visibilityChanged_total (visibility : TargetVisibility) (observedAt : SessionTime) :
    ∃ r', visibilityChanged r key visibility observedAt = .ok r' := by
  unfold visibilityChanged
  cases r.state.targetsByKey[key]? with
  | none => exact ⟨_, rfl⟩
  | some target =>
    by_cases hterminal : target.isTerminal = true
    · simp [hterminal]
    · by_cases hstale : (target.lastVisibilityObservedAt.any fun last => decide (observedAt.nanos < last.nanos)) = true
      · simp [hterminal, hstale]
      · by_cases hsame : target.target.visibility = visibility
        · simp [hterminal, hstale, hsame]
        · simp only [hterminal, hstale, hsame, Bool.false_eq_true, if_false, bind_eq_ok, pure_eq_ok]
          exact ⟨_, _, visibilityLifecycle_total target.lifecycle visibility, rfl⟩

theorem setSessionState_total {next : BrowserSessionState}
    (h : r.state.sessionState = next ∨ r.state.sessionState.allows next = true) :
    ∃ r', setSessionState r next = .ok r' := by
  unfold setSessionState
  split
  · exact ⟨_, rfl⟩
  · rename_i hother
    rw [if_pos (h.resolve_left hother)]
    exact ⟨_, rfl⟩

theorem connectionLost_total (order : VisitOrder) (h : discards r.state .connectionLost = false) :
    ∃ r', connectionLost order r = .ok r' := by
  have hallowed : r.state.sessionState = .reconnecting ∨ r.state.sessionState.allows .reconnecting = true := by
    cases hs : r.state.sessionState <;>
      simp_all [discards, BrowserSessionState.allows, SupervisorInput.isDroppedWhileReconnecting]
  obtain ⟨r₁, hr₁⟩ := setSessionState_total r hallowed
  obtain ⟨es, -, hsuspended⟩ := suspendTargets_eq r₁ (order.keys r₁.state.targetsByKey)
  exact ⟨_, by
    unfold connectionLost
    rw [hr₁, ok_bind, hsuspended]
    rfl⟩

variable {state : SupervisorState}

theorem observe_total_iff (hstate : state.Sound) (order : VisitOrder) {payload : SupervisorInput}
    (hobservation : payload.isTransportObservation = true) (hdiscards : discards state payload = false) :
    (∃ r, observe order { state, effects := [] } payload = .ok r) ↔
      ∀ key session, payload.delivery = some (key, session) → ¬Refuses state key session := by
  have hsound : ∀ (key : String) (target : SupervisorTargetState), state.targetsByKey[key]? = some target →
      target.core.Sound :=
    fun key target ht => hstate.cores key _ (coreAt_of_getElem? ht)
  cases payload with
  | attached key session | unsolicitedAttached key session =>
    rw [observe, attach_ok_iff _ _ _ _ _ (hsound key)]
    simp [SupervisorInput.delivery]
  | detached session =>
    exact iff_of_true (detachFailed_total _ session) (by simp [SupervisorInput.delivery])
  | targetDestroyed key => exact iff_of_true (destroy_total _ key) (by simp [SupervisorInput.delivery])
  | targetAttachFailed key => exact iff_of_true (targetAttachFailed_total _ key) (by simp [SupervisorInput.delivery])
  | visibilityChanged key visibility observedAt =>
    exact iff_of_true (visibilityChanged_total _ key visibility observedAt) (by simp [SupervisorInput.delivery])
  | domainSetupFailed key => exact iff_of_true (domainSetupFailed_total _ key) (by simp [SupervisorInput.delivery])
  | captureStartFailed context =>
    refine iff_of_true ?_ (by simp [SupervisorInput.delivery])
    simp only [observe]
    split
    · split <;> exact ⟨_, rfl⟩
    · exact ⟨_, rfl⟩
  | connectionLost =>
    exact iff_of_true (connectionLost_total { state, effects := [] } order hdiscards) (by simp [SupervisorInput.delivery])
  | forConnectionGeneration generation input =>
    exact iff_of_true ⟨_, rfl⟩ (by simp [SupervisorInput.delivery])
  | _ => simp [SupervisorInput.isTransportObservation] at hobservation

theorem isTransportObservation_of_accepted {input payload : SupervisorInput} (h : input.accepted state = some payload)
    (hobservation : input.isTransportObservation = true) : payload.isTransportObservation = true := by
  induction input with
  | forConnectionGeneration generation input ih =>
    simp only [SupervisorInput.accepted] at h
    split at h
    · exact ih h hobservation
    · cases h
  | _ =>
    simp only [SupervisorInput.accepted] at h
    split at h
    · cases h
    · exact Option.some.inj h ▸ hobservation

/-- In a reachable state a transport observation succeeds exactly when it makes no delivery that is refused. -/
theorem reduce_observation_ok_iff {state : SupervisorState} (hreachable : supervision.Reachable state)
    (order : VisitOrder) {input : SupervisorInput} (hobservation : input.isTransportObservation = true) :
    (∃ r, reduce order state input = .ok r) ↔
      ∀ payload key session, input.accepted state = some payload → payload.delivery = some (key, session) →
        ¬Refuses state key session := by
  rw [reduce_eq]
  cases haccepted : input.accepted state with
  | none => simp
  | some payload =>
    have hobserve := observe_total_iff (sound_of_reachable hreachable) order
      (isTransportObservation_of_accepted haccepted hobservation) (discards_of_accepted haccepted)
    simp only [bind_eq_ok, pure_eq_ok, Option.some.injEq]
    constructor
    · rintro ⟨_, r, hr, -⟩ _ key session rfl
      exact hobserve.1 ⟨r, hr⟩ key session
    · intro h
      obtain ⟨r, hr⟩ := hobserve.2 fun key session => h payload key session rfl
      exact ⟨_, r, hr, rfl⟩

/-- The recordable keys that a run reports. -/
def recordableKeys (trace : List (SupervisorState × SupervisorInput × List SupervisorEffect)) : List String :=
  (trace.flatMap fun step => step.2.1.kept).dedup

/-- A tracked target that is live and holds `session`. -/
def holdsLive (state : SupervisorState) (key : String) (session : TransportSessionId) : Bool :=
  state.targetsByKey[key]?.any fun target => !target.isTerminal && target.transportSession == some session

theorem exists_of_holdsLive {key : String} {session : TransportSessionId} (h : holdsLive state key session = true)
    : ∃ target : SupervisorTargetState,
      state.targetsByKey[key]? = some target ∧ target.isTerminal = false ∧ target.transportSession = some session := by
  simpa [holdsLive, Option.any_eq_true] using h

/-- At the first attachment of a page. -/
theorem reduce_observation_ok_iff_first : ∃ state, supervision.Reachable state ∧
    ((∃ r, reduce .sorted state (.attached "a" sessionA) = .ok r) ↔
      ∀ payload key session, (SupervisorInput.attached "a" sessionA).accepted state = some payload →
        payload.delivery = some (key, session) → ¬Refuses state key session) := by
  obtain ⟨trace, state, hrun, -⟩ := exists_unguardedRun [.initialTargets [pageA]] (fun _ _ => true) (by decide)
  exact ⟨state, hrun.reachable, reduce_observation_ok_iff hrun.reachable .sorted rfl⟩

/-- A second session for a live target that is attached makes the reducer fail. -/
theorem replacement_fails : ¬∀ trace state, Run supervision (fun _ _ => True) trace state →
    (recordableKeys trace).length ≤ maxKnownPageTargets → ∀ order input,
      SupervisorInput.isTransportObservation input = true → ∃ r, reduce order state input = .ok r := by
  intro h
  obtain ⟨trace, state, hrun, htest⟩ := exists_unguardedRun [.initialTargets [pageA], .attached "a" sessionA]
    (fun trace state => (recordableKeys trace).length == 1 && holdsLive state "a" sessionA &&
      ((SupervisorInput.attached "a" sessionB).accepted state).isSome) (by decide)
  simp only [Bool.and_eq_true, beq_iff_eq] at htest
  obtain ⟨⟨hkeys, hheld⟩, haccepted⟩ := htest
  obtain ⟨target, htarget, hlive, hsession⟩ := exists_of_holdsLive hheld
  have hrefuses : Refuses state "a" sessionB :=
    ⟨target, htarget, hlive, by rw [hsession]; decide, .inl (by simp [hsession])⟩
  obtain ⟨payload, haccepted⟩ := Option.isSome_iff_exists.1 haccepted
  have hpayload : payload = .attached "a" sessionB := by
    simp only [SupervisorInput.accepted] at haccepted
    split at haccepted
    · cases haccepted
    · exact (Option.some.inj haccepted).symm
  obtain ⟨r, hr⟩ := h trace state hrun (by rw [hkeys]; decide) .sorted (.attached "a" sessionB) rfl
  rw [reduce_eq, haccepted, hpayload] at hr
  simp only [bind_eq_ok] at hr
  obtain ⟨r', hr', -⟩ := hr
  have hobservation : (SupervisorInput.attached "a" sessionB).isTransportObservation = true := rfl
  exact (observe_total_iff (sound_of_reachable hrun.reachable) .sorted hobservation
    (hpayload ▸ discards_of_accepted haccepted)).1 ⟨r', hr'⟩ "a" sessionB rfl hrefuses

end Krometrail
