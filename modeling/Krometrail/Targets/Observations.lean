import Krometrail.Targets.Decomposition

/-!
# Observations

Reconnection and the loss of the connection as moves, and with them every input: `Permits` lists, input by input, the
acts that an input can lead to, and `observe_moves` shows that the reducer takes no others before it reconciles the
capture bindings.  `reduce_eq` reads `reduce` as one decision, whether the input is accepted, and one observation.
-/

namespace Krometrail

open Results
open Std (ExtTreeMap)
open TargetLifecycle (discovered attached recording suspended closed failed)

section

variable {A : Act → Prop} {r r' : Reduction} {key : String}

variable {reconnected : ReconnectedTarget} {order : VisitOrder}

theorem establishRestored_moves (hvacant : r.state.coreAt reconnected.info.targetKey = none)
    (hapart : r.state.pendingAttachedSessions[reconnected.info.targetKey]? = none)
    (h : establishRestored r reconnected = .ok r') (hreclaim : maxKnownPageTargets ≤ r.state.targetsByKey.size → A .reclaim)
    (hnote : A .note) (hcreate : ∀ core, A (.create reconnected.info.targetKey core))
    (hdeliver : ∀ core session, reconnected.session = some session → core.visibility = reconnected.visibility →
      A (.deliver reconnected.info.targetKey core session))
    : Moves A r r' := by
  unfold establishRestored at h
  simp only [bind_eq_ok] at h
  obtain ⟨created, hcreated, h⟩ := h
  obtain ⟨slot, revision, nextPageSequence, hslot, hstate, hcore⟩ := createTarget_cases hcreated
  have hnone : created.1.coreAt reconnected.info.targetKey = none := by
    obtain ⟨-, ⟨-, rfl⟩ | ⟨-, rfl⟩⟩ := preparePageTargetSlot_cases hslot
    · rw [hstate]
      change r.state.reclaimed.coreAt reconnected.info.targetKey = none
      rw [coreAt_reclaimed, hvacant]
      rfl
    · rw [hstate]
      exact hvacant
  have hpending : created.1.pendingAttachedSessions[reconnected.info.targetKey]? = none := by
    obtain ⟨-, ⟨-, rfl⟩ | ⟨-, rfl⟩⟩ := preparePageTargetSlot_cases hslot <;> (rw [hstate]; exact hapart)
  have hgeneration : slot.connectionGeneration = created.1.connectionGeneration := by rw [hstate]
  have hhashed : ∃ revision', targetIdFor revision slot.connectionGeneration reconnected.info.targetKey =
      targetIdFor revision' created.1.connectionGeneration reconnected.info.targetKey :=
    ⟨revision, by rw [hgeneration]⟩
  have hmoves : Moves A r (Reduction.store { r with state := created.1 } reconnected.info.targetKey created.2) :=
    (create_moves hcreated hreclaim hnote).trans
      (.single (hcreate _) (.create (by simp [hnone]) hpending hcore hhashed))
  refine hmoves.trans ?_
  split at h
  · rename_i session hsession
    have hcoreAt : (Reduction.store { r with state := created.1 } reconnected.info.targetKey created.2).state.coreAt
        reconnected.info.targetKey = some created.2.core := coreAt_of_getElem? (by simp [Reduction.store])
    refine attach_moves h (fun hnone => absurd (hcoreAt.symm.trans hnone) nofun) fun core hcore' => ?_
    obtain rfl := Option.some.inj (hcoreAt.symm.trans hcore')
    exact hdeliver _ _ hsession (by rw [hcore]; rfl)
  · simp only [pure_eq_ok] at h
    exact h ▸ push_moves _ rfl hnote

theorem refreshRestored_moves {target : SupervisorTargetState}
    (htracked : r.state.targetsByKey[reconnected.info.targetKey]? = some target)
    (h : refreshRestored r target reconnected = .ok r') (hnote : A .note)
    (hrevise : A (.revise (.visibilityRestored reconnected.visibility) reconnected.info.targetKey target.core))
    (hdeliver : ∀ core session, reconnected.session = some session → core.visibility = reconnected.visibility →
      A (.deliver reconnected.info.targetKey core session))
    : Moves A r r' := by
  unfold refreshRestored at h
  simp only [bind_eq_ok] at h
  obtain ⟨target', htarget', h⟩ := h
  have hcore : target'.core = target.core := by
    split at htarget'
    · exact withInfo_core htarget'
    · rw [Except.ok.inj htarget']
  generalize hrestored : ({ target' with
    target := { target'.target with visibility := reconnected.visibility } } : SupervisorTargetState) = restored at h
  have hrestoredCore : restored.core = (Change.visibilityRestored reconnected.visibility).core target.core := by
    rw [← hcore, ← hrestored]
    rfl
  have hmove : Moves A r (r.store reconnected.info.targetKey restored) :=
    .single hrevise (.revise (coreAt_of_getElem? htracked) trivial hrestoredCore .nil (by simp))
  refine hmove.trans ?_
  split at h
  · rename_i session hsession
    have hcoreAt : (r.store reconnected.info.targetKey restored).state.coreAt reconnected.info.targetKey =
        some restored.core := coreAt_of_getElem? (by simp [Reduction.store])
    refine attach_moves h (fun hnone => absurd (hcoreAt.symm.trans hnone) nofun) fun core hcore' => ?_
    obtain rfl := Option.some.inj (hcoreAt.symm.trans hcore')
    exact hdeliver _ _ hsession (by rw [hrestoredCore]; rfl)
  · simp only [pure_eq_ok] at h
    subst h
    split <;> split
    · exact (push_moves (targetChangedEvent restored) rfl hnote).trans (push_moves _ rfl hnote)
    · exact push_moves _ rfl hnote
    · exact push_moves _ rfl hnote
    · exact .refl

theorem attach_tracked_pending {target : SupervisorTargetState} {session : TransportSessionId}
    {probeVisibility unsolicited : Bool} (htracked : r.state.targetsByKey[key]? = some target)
    (h : attach r key session probeVisibility unsolicited = .ok r') :
    r'.state.pendingAttachedSessions = r.state.pendingAttachedSessions := by
  rcases attach_tracked htracked h with ⟨rfl, -⟩ | hattaches
  · rfl
  · obtain ⟨_, _, -, -, rfl⟩ := hattaches.result
    rfl

theorem reconcileRestored_pending (h : reconcileRestored r reconnected = .ok r') :
    r'.state.pendingAttachedSessions = r.state.pendingAttachedSessions := by
  unfold reconcileRestored at h
  split at h
  · unfold establishRestored at h
    simp only [bind_eq_ok] at h
    obtain ⟨created, hcreated, h⟩ := h
    obtain ⟨slot, revision, nextPageSequence, hslot, hstate, -⟩ := createTarget_cases hcreated
    have hpending : created.1.pendingAttachedSessions = r.state.pendingAttachedSessions := by
      obtain ⟨-, ⟨-, rfl⟩ | ⟨-, rfl⟩⟩ := preparePageTargetSlot_cases hslot <;> rw [hstate]
      rfl
    split at h
    · have hkept := attach_tracked_pending ExtTreeMap.getElem?_insert_self h
      exact hkept.trans hpending
    · simp only [pure_eq_ok] at h
      exact h ▸ hpending
  · rename_i target htracked
    unfold refreshRestored at h
    simp only [bind_eq_ok] at h
    obtain ⟨target', -, h⟩ := h
    split at h
    · have hkept := attach_tracked_pending (ExtTreeMap.getElem?_insert_self) h
      exact hkept
    · simp only [pure_eq_ok] at h
      subst h
      split <;> split <;> rfl

theorem reconcileRestored_moves (hpending : r.state.pendingAttachedSessions = ∅) (h : reconcileRestored r reconnected = .ok r')
    (hreclaim : A .reclaim) (hnote : A .note) (hcreate : ∀ core, A (.create reconnected.info.targetKey core))
    (hrevise : ∀ core, A (.revise (.visibilityRestored reconnected.visibility) reconnected.info.targetKey core))
    (hdeliver : ∀ core session, reconnected.session = some session → core.visibility = reconnected.visibility →
      A (.deliver reconnected.info.targetKey core session))
    : Moves A r r' := by
  unfold reconcileRestored at h
  cases ht : r.state.targetsByKey[reconnected.info.targetKey]? with
  | none =>
    simp only [ht] at h
    exact establishRestored_moves (by simp [SupervisorState.coreAt, ht]) (by simp [hpending]) h (fun _ => hreclaim) hnote
      hcreate hdeliver
  | some target =>
    simp only [ht] at h
    exact refreshRestored_moves ht h hnote (hrevise _) hdeliver

theorem restore_moves {targets : List ReconnectedTarget} (hpending : r.state.pendingAttachedSessions = ∅)
    (h : targets.foldlM reconcileRestored r = .ok r') (hreclaim : A .reclaim) (hnote : A .note)
    (hcreate : ∀ e ∈ targets, ∀ core, A (.create e.info.targetKey core))
    (hrevise : ∀ e ∈ targets, ∀ core, A (.revise (.visibilityRestored e.visibility) e.info.targetKey core))
    (hdeliver : ∀ e ∈ targets, ∀ core session, e.session = some session → core.visibility = e.visibility →
      A (.deliver e.info.targetKey core session)) : Moves A r r' := by
  refine (foldlM_invariant (P := fun r' => Moves A r r' ∧ r'.state.pendingAttachedSessions = ∅)
    (fun e he r₁ r₂ hr₁ hr₂ => ?_) ⟨.refl, hpending⟩ h).1
  exact ⟨hr₁.1.trans (reconcileRestored_moves hr₁.2 hr₂ hreclaim hnote (hcreate e he) (hrevise e he) (hdeliver e he)),
    (reconcileRestored_pending hr₂).trans hr₁.2⟩

theorem resolveUnresolvedOpeners_moves (hannotate : A .annotate) :
    Moves A r { r with state := resolveUnresolvedOpeners r.state } := by
  refine annotate_move (fun key => ?_) hannotate
  rw [ExtTreeMap.getElem?_map, SupervisorState.coreAt]
  cases r.state.targetsByKey[key]? with
  | none => rfl
  | some target =>
    simp only [Option.map_some]
    split <;> rfl

/-- A reconnection that is taken up: a new generation, the end of the targets that the snapshot does not list, and
from a state without sessions the restoration of those it lists. -/
theorem reconnect_cases {snapshot : ReconnectedSnapshot} (h : reconnect order r snapshot = .ok r') :
    (r' = r ∧ (r.state.sessionState = .stopping ∨ r.state.sessionState = .ended ∨
        snapshot.connectionGeneration ≤ r.state.connectionGeneration)) ∨
      r.state.sessionState ≠ .stopping ∧ r.state.connectionGeneration < snapshot.connectionGeneration ∧
      ((snapshot.targets.filter (·.info.isRecordable)).map (·.info.targetKey)).dedup.length ≤ maxKnownPageTargets ∧
      ∃ r₁ r₂,
        destroyMissing order
            { r with state := { r.state with
              connectionGeneration := snapshot.connectionGeneration
              compatibility := snapshot.compatibility } }
            ((snapshot.targets.filter (·.info.isRecordable)).map (·.info.targetKey)) = .ok r₁ ∧
        (snapshot.targets.filter (·.info.isRecordable)).foldlM reconcileRestored
            { r₁ with state := clearSessions r₁.state } = .ok r₂ ∧
        setSessionState (reconcileSelection { r₂ with state := resolveUnresolvedOpeners r₂.state }) .ready = .ok r' := by
  unfold reconnect at h
  split at h
  · rename_i hclosed
    exact .inl ⟨(Except.ok.inj h).symm, hclosed.imp_right .inl⟩
  · rename_i hopen
    split at h
    · rename_i hgeneration
      exact .inl ⟨(Except.ok.inj h).symm, .inr (.inr hgeneration)⟩
    · rename_i hgeneration
      unfold ensurePageTargetCount at h
      simp only [bind_eq_ok] at h
      obtain ⟨_, hcount, r₁, hr₁, r₂, hr₂, h⟩ := h
      refine .inr ⟨(not_or.1 hopen).1, by omega, ?_, r₁, r₂, hr₁, hr₂, h⟩
      split at hcount
      · cases hcount
      · omega

theorem suspendTarget_eq (r : Reduction) (key : String) :
    ∃ es, Quiet es ∧ suspendTarget r key = .ok
      { state := { r.state with
          targetsByKey := Tables.rewriteAt (fun _ target => target.suspend) r.state.targetsByKey key }
        effects := r.effects ++ es } := by
  unfold suspendTarget Tables.rewriteAt
  cases ht : r.state.targetsByKey[key]? with
  | none => exact ⟨[], .nil, by simp⟩
  | some target =>
    simp only [SupervisorTargetState.suspend]
    by_cases hterminal : target.isTerminal = true
    · refine ⟨[], .nil, ?_⟩
      have hsame : r.state.targetsByKey.insert key target = r.state.targetsByKey := by
        refine ExtTreeMap.ext_getElem? fun key' => ?_
        rw [ExtTreeMap.getElem?_insert]
        by_cases hkey : key = key'
        · subst hkey
          simp [ht]
        · simp [hkey]
      simp [hterminal, hsame]
    · by_cases hsuspended : target.lifecycle = suspended
      · exact ⟨[], .nil, by simp [hterminal, hsuspended, Reduction.store]⟩
      · have hallowed : target.lifecycle.transition suspended = .ok suspended := by
          rw [TargetLifecycle.transition_eq_ok]
          refine ⟨?_, rfl⟩
          change ¬target.lifecycle.isTerminal = true at hterminal
          cases hl : target.lifecycle <;> simp_all [TargetLifecycle.isTerminal, TargetLifecycle.allowsTransition,
            TargetLifecycle.transitions]
        simp only [hterminal, hsuspended, hallowed, ok_bind]
        exact ⟨_, publish_quiet (.targetChanged _), rfl⟩

theorem suspendTargets_eq (r : Reduction) (keys : List String) :
    ∃ es, Quiet es ∧ keys.foldlM suspendTarget r = .ok
      { state := { r.state with
          targetsByKey := keys.foldl (Tables.rewriteAt fun _ target => target.suspend) r.state.targetsByKey }
        effects := r.effects ++ es } := by
  induction keys generalizing r with
  | nil => exact ⟨[], .nil, by simp [pure, Except.pure]⟩
  | cons key keys ih =>
    obtain ⟨es, hes, hfirst⟩ := suspendTarget_eq r key
    obtain ⟨es', hes', hrest⟩ := ih { state := { r.state with
      targetsByKey := Tables.rewriteAt (fun _ target => target.suspend) r.state.targetsByKey key }, effects := r.effects ++ es }
    refine ⟨es ++ es', by simp [hes, hes'], ?_⟩
    rw [List.foldlM_cons, hfirst, ok_bind, hrest, List.foldl_cons, List.append_assoc]

theorem connectionLost_cases (h : connectionLost order r = .ok r') :
    ∃ r₁ es, setSessionState r .reconnecting = .ok r₁ ∧ Quiet es ∧
      r' = { state := clearSessions { r₁.state with
               targetsByKey := r₁.state.targetsByKey.map fun _ target => target.suspend }
             effects := r₁.effects ++ es } := by
  unfold connectionLost at h
  simp only [bind_eq_ok, pure_eq_ok] at h
  obtain ⟨r₁, hr₁, r₂, hr₂, rfl⟩ := h
  obtain ⟨es, hes, heq⟩ := suspendTargets_eq r₁ (order.keys r₁.state.targetsByKey)
  rw [Tables.foldl_rewriteAt _ (order.perm r₁.state.targetsByKey)] at heq
  obtain rfl := Except.ok.inj (heq.symm.trans hr₂)
  exact ⟨r₁, es ++ [.beginReconnect], hr₁, by simp [hes, SupervisorEffect.isQuiet], by simp [Reduction.push]⟩

theorem connectionLost_moves (h : connectionLost order r = .ok r') (henter : A (.enter .reconnecting)) (hlose : A .lose)
    : Moves A r r' := by
  obtain ⟨r₁, es, hr₁, hes, rfl⟩ := connectionLost_cases h
  exact (setSessionState_moves hr₁ nofun henter).trans (.single hlose (.lose hes))

theorem reconnect_moves {snapshot : ReconnectedSnapshot} (h : reconnect order r snapshot = .ok r')
    (hrenew : A (.renew snapshot.connectionGeneration))
    (hfinish : ∀ key ∉ (snapshot.targets.filter (·.info.isRecordable)).map (·.info.targetKey), ∀ core,
      A (.finish .destroyed key core))
    (hforget : A .forget) (hreclaim : A .reclaim) (hnote : A .note) (hannotate : A .annotate) (hrepair : A .repair)
    (henter : A (.enter .ready))
    (hcreate : ∀ e ∈ snapshot.targets.filter (·.info.isRecordable), ∀ core, A (.create e.info.targetKey core))
    (hrevise : ∀ e ∈ snapshot.targets.filter (·.info.isRecordable), ∀ core,
      A (.revise (.visibilityRestored e.visibility) e.info.targetKey core))
    (hdeliver : ∀ e ∈ snapshot.targets.filter (·.info.isRecordable), ∀ core session, e.session = some session →
      core.visibility = e.visibility → A (.deliver e.info.targetKey core session))
    : Moves A r r' := by
  obtain ⟨rfl, -⟩ | ⟨-, hgeneration, -, r₁, r₂, hr₁, hr₂, hr'⟩ := reconnect_cases h
  · exact .refl
  · refine .trans (.single hrenew (.renew snapshot.compatibility hgeneration)) ?_
    refine .trans (destroyMissing_moves hr₁ hfinish) ?_
    refine .trans (.single hforget .forget) ?_
    refine .trans (restore_moves rfl hr₂ hreclaim hnote hcreate hrevise hdeliver) ?_
    refine .trans (resolveUnresolvedOpeners_moves hannotate) ?_
    exact .trans (.single hrepair .repair)
      (setSessionState_moves hr' (fun _ => selectionSound_reconcileSelection _) henter)

end

/-- The keys that the input reports with a recordable URL. -/
def SupervisorInput.kept : SupervisorInput → List String
  | .initialTargets infos => (infos.filter (·.isRecordable)).map (·.targetKey)
  | .targetCreated info | .targetInfoChanged info => ([info].filter (·.isRecordable)).map (·.targetKey)
  | .reconnected snapshot => (snapshot.targets.filter (·.info.isRecordable)).map (·.info.targetKey)
  | _ => []

/-- The targets that a reconnection lists. -/
def SupervisorInput.restored : SupervisorInput → List ReconnectedTarget
  | .reconnected snapshot => snapshot.targets.filter (·.info.isRecordable)
  | _ => []

/-- The delivery that an observation makes. -/
def SupervisorInput.delivery : SupervisorInput → Option (String × TransportSessionId)
  | .attached key session | .unsolicitedAttached key session => some (key, session)
  | _ => none

/-- The input delivers a session to a tracked target with this core. -/
def SupervisorInput.Delivers (state : SupervisorState) (key : String) (core : TargetCore)
    (session : TransportSessionId) : SupervisorInput → Prop
  | .attached key' session' | .unsolicitedAttached key' session' =>
    key' = key ∧ session' = session ∧ state.coreAt key = some core
  | input => ∃ e ∈ input.restored, e.info.targetKey = key ∧ e.session = some session ∧ core.visibility = e.visibility

/-- The acts that an input, observed in a state, can lead to. -/
def SupervisorInput.Permits (state : SupervisorState) (input : SupervisorInput) : Act → Prop
  | .note | .repair | .annotate | .reclaim | .unhold _ => True
  | .enter next =>
    match next with
    | .ready => input = .initialReconciliationCompleted ∨ ∃ snapshot, input = .reconnected snapshot
    | .reconnecting => input = .connectionLost
    | .stopping => True
    | _ => False
  | .select key => input = .selectTarget key
  | .renew generation => ∃ snapshot, input = .reconnected snapshot ∧ snapshot.connectionGeneration = generation
  | .hold key session => input = .attached key session ∨ input = .unsolicitedAttached key session
  | .forget => ∃ snapshot, input = .reconnected snapshot
  | .lose => input = .connectionLost
  | .create key _ | .adopt key _ _ => key ∈ input.kept
  | .deliver key core session => input.Delivers state key core session
  | .finish ending key core => key ∉ input.kept ∧
    match ending with
    | .detached session => input = .detached session
    | .domainFailed => input = .domainSetupFailed key ∧ state.coreAt key = some core
    | .attachFailed => input = .targetAttachFailed key ∧ state.coreAt key = some core
    | .destroyed => True
  | .release session => input = .detached session
  | .revise change key core =>
    match change with
    | .visibilityRestored visibility => ∃ e ∈ input.restored, e.info.targetKey = key ∧ e.visibility = visibility
    | .captureStartFailed context => input = .captureStartFailed context ∧ state.coreAt key = some core
    | .visibilityObserved _ | .visibilityProbeFailed => state.coreAt key = some core

/-- The payload of an input that is not dropped: of the right connection generation, and not discarded. -/
def SupervisorInput.accepted (state : SupervisorState) : SupervisorInput → Option SupervisorInput
  | .forConnectionGeneration generation input =>
    if generation = state.connectionGeneration then input.accepted state else none
  | input => if discards state input then none else some input

theorem reduce_eq (order : VisitOrder) (state : SupervisorState) (input : SupervisorInput) :
    reduce order state input =
      match input.accepted state with
      | none => .ok { state, effects := [] }
      | some payload => do
        let r ← observe order { state, effects := [] } payload
        return reconcileCaptureBindings order r := by
  induction input with
  | forConnectionGeneration generation input ih =>
    simp only [reduce, SupervisorInput.accepted, ne_eq, ite_not]
    split
    · exact ih
    · rfl
  | _ =>
    simp only [reduce, SupervisorInput.accepted]
    split <;> rfl

theorem find?_coreAt {order : VisitOrder} {state : SupervisorState} {p : SupervisorTargetState → Bool} {key : String}
    (h : (order.keys state.targetsByKey).find? (fun key => state.targetsByKey[key]?.any p) = some key) :
    ∃ target, state.targetsByKey[key]? = some target ∧ p target = true := by
  have hp := List.find?_some h
  simpa [Option.any_eq_true] using hp

theorem observe_moves {order : VisitOrder} {state : SupervisorState} {input : SupervisorInput} {r : Reduction}
    (h : observe order { state, effects := [] } input = .ok r) :
    Moves (input.Permits state) { state, effects := [] } r := by
  cases input with
  | initialTargets infos =>
    exact reconcileInitial_moves h (fun key hkey core => ⟨hkey, trivial⟩) trivial trivial trivial (fun _ => trivial)
      (fun key hkey _ => hkey) (fun key hkey _ _ => hkey)
  | initialReconciliationCompleted => exact initialReconciliationCompleted_moves h (.inl rfl) trivial
  | targetCreated info | targetInfoChanged info =>
    refine reconcileOne_moves h (fun hnot core => ⟨?_, trivial⟩) (fun _ => trivial) trivial trivial trivial
      (fun hrecordable _ => ?_) (fun hrecordable _ _ => ?_)
    · simp [SupervisorInput.kept, hnot]
    · simp [SupervisorInput.Permits, SupervisorInput.kept, hrecordable]
    · simp [SupervisorInput.Permits, SupervisorInput.kept, hrecordable]
  | attached key session => exact attach_moves h (fun _ => .inl rfl) fun core hcore => ⟨rfl, rfl, hcore⟩
  | unsolicitedAttached key session => exact attach_moves h (fun _ => .inr rfl) fun core hcore => ⟨rfl, rfl, hcore⟩
  | targetAttachFailed key => exact targetAttachFailed_moves h fun core hcore => ⟨by simp [SupervisorInput.kept], rfl, hcore⟩
  | captureStartFailed context =>
    simp only [observe] at h
    split at h
    · cases hkey : activeCaptureKey order state context with
      | none =>
        simp only [hkey, Except.ok.injEq] at h
        exact .of_eq h.symm
      | some key =>
        simp only [hkey, Except.ok.injEq] at h
        obtain ⟨target, htarget, hactive⟩ := find?_coreAt hkey
        exact h ▸ captureStartFailed_moves htarget (of_decide_eq_true hactive) ⟨rfl, coreAt_of_getElem? htarget⟩
    · exact .of_eq (Except.ok.inj h).symm
  | detached session =>
    exact (removePendingSession_moves session fun _ => trivial).trans
      (detachFailed_moves h rfl fun key core => ⟨by simp [SupervisorInput.kept], rfl⟩)
  | targetDestroyed key =>
    have hmove : Move (.unhold key) { state, effects := [] } _ := .unhold true
    have hpermit : (SupervisorInput.targetDestroyed key).Permits state (.unhold key) := trivial
    exact .trans (.single hpermit hmove) (destroy_moves h fun core _ => ⟨by simp [SupervisorInput.kept], trivial⟩)
  | visibilityChanged key visibility observedAt => exact visibilityChanged_moves h fun core hcore => hcore
  | domainSetupFailed key => exact domainSetupFailed_moves h fun core hcore => ⟨by simp [SupervisorInput.kept], rfl, hcore⟩
  | initialVisibilityProbeFailed key => exact Except.ok.inj h ▸ initialVisibilityProbeFailed_moves fun core hcore => hcore
  | captureVisibilityChanged targetId visibility observedAt =>
    simp only [observe] at h
    split at h
    · exact visibilityChanged_moves h fun core hcore => hcore
    · exact .of_eq (Except.ok.inj h).symm
  | selectTarget key => exact selectTarget_moves h rfl
  | viewportOverrideApplied key viewport => exact viewportOverrideApplied_moves h trivial
  | connectionLost => exact connectionLost_moves h rfl rfl
  | browserProcessTerminated | reconnectExhausted | cancelled => exact failSession_moves h trivial trivial
  | reconnected snapshot =>
    exact reconnect_moves h ⟨snapshot, rfl, rfl⟩ (fun key hkey core => ⟨hkey, trivial⟩) ⟨snapshot, rfl⟩ trivial trivial
      trivial trivial (.inr ⟨snapshot, rfl⟩) (fun e he _ => List.mem_map_of_mem he) (fun e he _ => ⟨e, he, rfl, rfl⟩)
      (fun e he core session hsession hvisibility => ⟨e, he, rfl, hsession, hvisibility⟩)
  | stopRequested => exact beginShutdown_moves h trivial trivial
  | forConnectionGeneration generation input => exact .of_eq (Except.ok.inj h).symm

end Krometrail
