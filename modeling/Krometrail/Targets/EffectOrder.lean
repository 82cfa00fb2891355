import Krometrail.Targets.Advances
import Krometrail.Targets.AttemptEffects

/-!
# The order of the effects

A capture ends before its session is detached and before the connection or the process goes, and a viewport is restored
before the capture of its target starts (`WellOrdered`).  The arms of the reducer emit no effect about a capture; the pass
that follows queues those effects one by one, and queueing keeps the order.  Over a run the session asks for a shutdown
once, where it begins to stop.
-/

namespace Krometrail

open Results
open Std (ExtTreeMap)
open Runs (Run)

/-- The effect takes the session away from a capture: its own detachment, or the end of every session. -/
def SupervisorEffect.Severs (session : TransportSessionId) : SupervisorEffect → Prop
  | .detach detached => detached = session
  | .shutdown _ | .beginReconnect => True
  | _ => False

/-- Where both effects are asked for, the first must come before the second. -/
def SupervisorEffect.MustPrecede : SupervisorEffect → SupervisorEffect → Prop
  | .stopCapture context, later | .suspendCapture context, later => later.Severs context.transportSession
  | .restoreViewport context _, .startCapture capture | .restoreViewport context _, .resumeCapture capture =>
    capture.targetId = context.targetId
  | _, _ => False

/-- No effect comes after one that it must precede. -/
def WellOrdered (effects : List SupervisorEffect) : Prop :=
  effects.Pairwise fun earlier later => ¬later.MustPrecede earlier

variable {effect : SupervisorEffect} {context : CaptureEffectContext} {effects : List SupervisorEffect}
  {state : SupervisorState}

theorem isTeardownBarrier_of_severs {session : TransportSessionId} (h : effect.Severs session)
    : isTeardownBarrier session effect = true := by
  cases effect with
  | detach detached => exact decide_eq_true h
  | shutdown | beginReconnect => rfl
  | _ => exact h.elim

theorem SupervisorEffect.not_mustPrecede_ended {later : SupervisorEffect} (h : effect.ended = some context)
    : ¬later.MustPrecede effect := by
  cases effect with
  | stopCapture | suspendCapture => cases later <;> exact id
  | _ => cases h

theorem SupervisorEffect.not_mustPrecede_of_begun {earlier : SupervisorEffect} (h : effect.begun = some context)
    : ¬effect.MustPrecede earlier := by
  cases effect with
  | startCapture | resumeCapture => exact id
  | _ => cases h

theorem WellOrdered.queue_ended (h : WellOrdered effects) (hended : effect.ended = some context)
    (hprecedes : ∀ later, effect.MustPrecede later ↔ later.Severs context.transportSession)
    (hqueue : queueCaptureTeardown effects effect =
      effects.takeWhile (fun existing => !isTeardownBarrier context.transportSession existing) ++
        effect :: effects.dropWhile fun existing => !isTeardownBarrier context.transportSession existing) :
    WellOrdered (queueCaptureTeardown effects effect) := by
  rw [hqueue]
  unfold WellOrdered at h ⊢
  generalize hfree : (fun existing => !isTeardownBarrier context.transportSession existing) = free
  rw [← List.takeWhile_append_dropWhile (p := free) (l := effects)] at h
  obtain ⟨hbefore, hafter, hacross⟩ := List.pairwise_append.1 h
  refine List.pairwise_append.2 ⟨hbefore, List.pairwise_cons.2 ⟨?_, hafter⟩, ?_⟩
  · intro later _
    exact SupervisorEffect.not_mustPrecede_ended hended
  · intro earlier hearlier later hlater
    rcases List.mem_cons.1 hlater with rfl | hlater
    · intro hmust
      have hpassed := List.mem_takeWhile_imp hearlier
      have hbarrier := isTeardownBarrier_of_severs ((hprecedes earlier).1 hmust)
      simp [← hfree, hbarrier] at hpassed
    · exact hacross earlier hearlier later hlater

theorem WellOrdered.queue (h : WellOrdered effects) (hcapture : effect.isCapture = true)
    : WellOrdered (queueCaptureTeardown effects effect) := by
  have hlast : ∀ context, effect.begun = some context → WellOrdered (effects ++ [effect]) := by
    intro context hbegun
    refine List.pairwise_append.2 ⟨h, List.pairwise_singleton _ _, fun earlier _ later hlater => ?_⟩
    rw [List.mem_singleton.1 hlater]
    exact SupervisorEffect.not_mustPrecede_of_begun hbegun
  cases effect with
  | stopCapture context | suspendCapture context => exact h.queue_ended rfl (fun _ => Iff.rfl) rfl
  | startCapture context | resumeCapture context => exact hlast context rfl
  | _ => cases hcapture

theorem wellOrdered_of_passive (h : ∀ effect ∈ effects, effect.Passive) : WellOrdered effects := by
  refine List.pairwise_of_forall_mem_list fun earlier hearlier later hlater hmust => ?_
  obtain ⟨hbegun, -⟩ := h earlier hearlier
  obtain ⟨-, hended⟩ := h later hlater
  cases later with
  | stopCapture | suspendCapture => cases hended
  | restoreViewport =>
    cases earlier with
    | startCapture | resumeCapture => cases hbegun
    | _ => exact hmust
  | _ => exact hmust

theorem observe_passive {order : VisitOrder} {payload : SupervisorInput} {r : Reduction}
    (h : observe order { state, effects := [] } payload = .ok r) : ∀ effect ∈ r.effects, effect.Passive :=
  (observe_moves h).passive fun _ heffect => nomatch heffect

theorem reduce_wellOrdered {order : VisitOrder} {input : SupervisorInput} {r : Reduction} (h : reduce order state input = .ok r)
    : WellOrdered r.effects := by
  rw [reduce_eq] at h
  cases haccepted : input.accepted state with
  | none =>
    rw [haccepted] at h
    exact Except.ok.inj h ▸ List.Pairwise.nil
  | some payload =>
    rw [haccepted] at h
    simp only [bind_eq_ok, pure_eq_ok] at h
    obtain ⟨observed, hobserved, rfl⟩ := h
    exact reconcileCaptureBindings_queues (fun _ _ hcapture heffects => heffects.queue hcapture)
      (wellOrdered_of_passive (observe_passive hobserved))

/-- The effects that a run asks for, in order. -/
def emitted (trace : List (SupervisorState × SupervisorInput × List SupervisorEffect)) : List SupervisorEffect :=
  trace.flatMap (·.2.2)

theorem shutdowns_of_run {trace : List (SupervisorState × SupervisorInput × List SupervisorEffect)}
    (h : Run supervision (fun _ _ => True) trace state) : shutdowns (emitted trace) = state.sessionState.isClosing.toNat := by
  refine h.traceInvariant (P := fun trace state => shutdowns (emitted trace) = state.sessionState.isClosing.toNat) ?_ ?_
  · rintro _ ⟨compatibility, rfl⟩
    rfl
  · rintro trace s input effects s' hbefore - ⟨order, hreduce⟩
    obtain ⟨created, -, hadvances⟩ := reduce_advances hreduce
    have hbalance := hadvances.balance
    have hstep : emitted (trace ++ [(s, input, effects)]) = emitted trace ++ effects := by simp [emitted]
    rw [hstep, shutdowns_append, hbefore]
    simp only [shutdowns, List.countP_nil] at hbalance ⊢
    omega

/-- Every reduction emits its effects in order; over any run the session shuts down once at most, and a session that
stops goes on to its end alone. -/
theorem effects_well_ordered {trace : List (SupervisorState × SupervisorInput × List SupervisorEffect)}
    {state : SupervisorState} (h : Run supervision (fun _ _ => True) trace state) :
    shutdowns (emitted trace) ≤ 1 ∧ ∀ order input r, reduce order state input = .ok r →
      WellOrdered r.effects ∧
        (state.sessionState = .stopping → r.state.sessionState = .stopping ∨ r.state.sessionState = .ended) := by
  refine ⟨?_, fun order input r hreduce => ⟨reduce_wellOrdered hreduce, fun hstopping => ?_⟩⟩
  · rw [shutdowns_of_run h]
    exact Bool.toNat_le _
  · obtain ⟨created, -, hadvances⟩ := reduce_advances hreduce
    have hclosing := hadvances.closing (by rw [hstopping]; rfl)
    cases hnext : r.state.sessionState with
    | stopping => exact .inl rfl
    | ended => exact .inr rfl
    | _ =>
      rw [hnext] at hclosing
      cases hclosing

/-- The captures that a run starts and stops, and its shutdown, where these are all it asks for. -/
def startsAndStops (trace : List (SupervisorState × SupervisorInput × List SupervisorEffect)) : Bool :=
  match (emitted trace).filter fun effect => effect.isCapture || effect.isShutdown with
  | [.startCapture started, .stopCapture stopped, .shutdown _] => started == stopped
  | _ => false

/-- A page is captured until the session stops. -/
theorem effects_well_ordered_stop : ∃ trace state, Run supervision (fun _ _ => True) trace state ∧
    startsAndStops trace = true ∧ shutdowns (emitted trace) ≤ 1 ∧
      ∀ order input r, reduce order state input = .ok r → WellOrdered r.effects ∧
        (state.sessionState = .stopping → r.state.sessionState = .stopping ∨ r.state.sessionState = .ended) := by
  obtain ⟨trace, state, hrun, htest⟩ := exists_unguardedRun
    [.initialTargets [pageA], .attached "a" sessionA, .visibilityChanged "a" .visible ⟨1⟩,
      .initialReconciliationCompleted, .stopRequested]
    (fun trace _ => startsAndStops trace) (by decide +kernel)
  exact ⟨trace, state, hrun, htest, effects_well_ordered hrun⟩

end Krometrail
