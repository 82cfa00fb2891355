import Krometrail.Lib.Failures
import Krometrail.Targets.Snapshots
import Krometrail.Targets.Progress

/-!
# The limit on page targets

Where a reduction can run into the limit on page targets (`LimitRaised`): where a snapshot is counted, before anything
else, and where a target is to be created that the tracked targets leave no room for, which may be in the middle of a
loop over a snapshot.  No other failure is of that kind.  A loop never gets there: the targets that are live in it have
keys that the snapshot lists, and the snapshot was counted.
-/

namespace Krometrail

open Results
open Std (ExtTreeMap)
open Failures (Avoids bind_eq_error foldlM_eq_error)
open TargetLifecycle (discovered attached recording suspended closed failed)

/-- The error is the limit on resources. -/
def ExceedsLimit (error : KrometrailError) : Prop := error.code = .resourceLimitExceeded

/-- The computation never fails with the limit. -/
abbrev Unlimited {α : Type} (x : Result α) : Prop := Avoids ExceedsLimit x

/-- The targets that are not terminal leave no room for one more. -/
def SupervisorState.Full (state : SupervisorState) : Prop := maxKnownPageTargets ≤ (liveTargets state.targetsByKey).size

/-- No target that is not terminal is tracked under the key. -/
def SupervisorState.Vacant (state : SupervisorState) (key : String) : Prop :=
  ∀ core, state.coreAt key = some core → core.isTerminal = true

section

variable {r r' : Reduction} {key : String} {error : KrometrailError}

theorem unlimited_transition (lifecycle next : TargetLifecycle) : Unlimited (lifecycle.transition next) :=
  .ite (fun _ => .ok _) fun _ => .error (by rintro ⟨⟩)

theorem unlimited_okOr {α : Type} {value : Option α} (h : ¬ExceedsLimit error) : Unlimited (okOr value error) := by
  cases value with
  | none => exact .error h
  | some a => exact .ok a

theorem unlimited_pageTarget (id : TargetId) (browserTargetKey url title : String) :
    Unlimited (PageTarget.new id browserTargetKey url title) := by
  unfold PageTarget.new
  split
  · split
    · exact .ok _
    · exact .error (by rintro ⟨⟩)
  · exact .error (by rintro ⟨⟩)

theorem unlimited_pageSequence (value : Nat) : Unlimited (PageSequence.new value) := by
  unfold PageSequence.new
  split
  · exact .error (by rintro ⟨⟩)
  · exact .ok _

theorem unlimited_attachedTarget (target : SupervisorTargetState) (session : TransportSessionId) :
    Unlimited (attachedTarget target session) := by
  unfold attachedTarget
  refine .bind (unlimited_okOr nofun) fun generation _ => ?_
  refine .bind (unlimited_transition _ _) fun lifecycle _ => ?_
  refine .bind (.ite (fun _ => unlimited_transition _ _) fun _ => .ok _) fun lifecycle _ => ?_
  exact .ok _

theorem unlimited_attach (r : Reduction) (key : String) (session : TransportSessionId) (probeVisibility unsolicited : Bool) :
    Unlimited (attach r key session probeVisibility unsolicited) := by
  unfold attach
  split
  · exact .ok _
  · refine .ite (fun _ => .ok _) fun _ => .ite (fun _ => .ok _) fun _ => ?_
    exact .bind (unlimited_attachedTarget _ _) fun _ _ => .ok _

theorem unlimited_adoptPendingAttachment (r : Reduction) (key : String) : Unlimited (adoptPendingAttachment r key) := by
  unfold adoptPendingAttachment
  dsimp only
  split
  · exact .ok _
  · exact unlimited_attach _ _ _ _ _

theorem unlimited_setSessionState (r : Reduction) (next : BrowserSessionState) : Unlimited (setSessionState r next) := by
  unfold setSessionState
  exact .ite (fun _ => .ok _) fun _ => .ite (fun _ => .ok _) fun _ => .error (by rintro ⟨⟩)

theorem unlimited_beginShutdown (r : Reduction) (cause : ShutdownCause) : Unlimited (beginShutdown r cause) := by
  unfold beginShutdown
  refine .ite (fun _ => .ok _) fun _ => .ite (fun _ => .ok _) fun _ => ?_
  exact .bind (unlimited_setSessionState _ _) fun _ _ => .ok _

theorem unlimited_connectionLost (order : VisitOrder) (r : Reduction) : Unlimited (connectionLost order r) := by
  unfold connectionLost
  refine .bind (unlimited_setSessionState _ _) fun r₁ _ => ?_
  obtain ⟨es, -, hsuspended⟩ := suspendTargets_eq r₁ (order.keys r₁.state.targetsByKey)
  exact .bind (.of_ok ⟨_, hsuspended⟩) fun _ _ => .ok _

theorem unlimited_withInfo (target : SupervisorTargetState) (info : TransportTargetInfo) :
    Unlimited (withInfo target info) := .bind (unlimited_pageTarget _ _ _ _) fun _ _ => .ok _

theorem unlimited_refreshTarget (r : Reduction) (target : SupervisorTargetState) (info : TransportTargetInfo) :
    Unlimited (refreshTarget r target info) := by
  unfold refreshTarget
  refine .bind (.ite (fun _ => ?_) fun _ => .ok _) fun _ _ => unlimited_adoptPendingAttachment _ _
  exact .bind (unlimited_withInfo _ _) fun _ _ => .ok _

theorem unlimited_refreshRestored (r : Reduction) (target : SupervisorTargetState) (reconnected : ReconnectedTarget) :
    Unlimited (refreshRestored r target reconnected) := by
  unfold refreshRestored
  refine .bind (.ite (fun _ => unlimited_withInfo _ _) fun _ => .ok _) fun target' _ => ?_
  dsimp only
  split
  · exact unlimited_attach _ _ _ _ _
  · exact .ok _

theorem unlimited_destroyMissing (order : VisitOrder) (r : Reduction) (kept : List String) :
    Unlimited (destroyMissing order r kept) := by
  have hturn : ∀ key ∈ order.keys r.state.targetsByKey, ∀ r, True →
      ∃ r', (if kept.contains key then .ok r else destroy r key) = .ok r' ∧ True := by
    intro key _ r _
    split
    · exact ⟨_, rfl, trivial⟩
    · obtain ⟨r', hr'⟩ := destroy_total r key
      exact ⟨r', hr', trivial⟩
  obtain ⟨r', hr', -⟩ := foldlM_total (P := fun _ => True) hturn trivial
  exact .of_ok ⟨r', hr'⟩

theorem ensurePageTargetCount_eq_error {count : Nat} (h : ensurePageTargetCount count = .error error) :
    maxKnownPageTargets < count := by
  unfold ensurePageTargetCount at h
  split at h
  · assumption
  · cases h

theorem le_of_ensurePageTargetCount {count : Nat} {u : Unit} (h : ensurePageTargetCount count = .ok u) :
    count ≤ maxKnownPageTargets := by
  unfold ensurePageTargetCount at h
  split at h
  · cases h
  · rename_i hroom
    omega

variable {info : TransportTargetInfo}

theorem full_of_createTarget {state : SupervisorState} {visibility : TargetVisibility} {opener : Option TargetId}
    (h : createTarget state info visibility opener = .error error) (hlimit : ExceedsLimit error) : state.Full := by
  unfold createTarget at h
  rcases bind_eq_error.1 h with h | ⟨slot, -, h⟩
  · unfold preparePageTargetSlot at h
    rcases bind_eq_error.1 h with h | ⟨_, -, h⟩
    · exact Nat.le_of_lt_succ (ensurePageTargetCount_eq_error h)
    · split at h <;> cases h
  · refine absurd hlimit (Avoids.bind (unlimited_pageSequence _) (fun pageSequence _ => ?_) error h)
    refine .bind (unlimited_okOr nofun) fun nextPageSequence _ => ?_
    refine .bind ?_ fun _ _ => .ok _
    exact .bind (unlimited_pageTarget _ _ _ _) fun _ _ => .ok _

theorem full_of_establishTarget {opener : Option TargetId} {creationEvent : Bool}
    (h : establishTarget r info opener creationEvent = .error error) (hlimit : ExceedsLimit error) : r.state.Full := by
  unfold establishTarget at h
  rcases bind_eq_error.1 h with h | ⟨created, -, h⟩
  · exact full_of_createTarget h hlimit
  · dsimp only at h
    refine absurd hlimit (Avoids.ite (fun _ => ?_) (fun _ => ?_) error h)
    · exact unlimited_adoptPendingAttachment _ _
    · exact .ok _

theorem vacant_of_none (h : r.state.targetsByKey[key]? = none) : r.state.Vacant key := by
  intro core hcore
  simp [SupervisorState.coreAt, h] at hcore

theorem full_of_reconcileOne {creationEvent : Bool} (h : reconcileOne r info creationEvent = .error error)
    (hlimit : ExceedsLimit error) : info.isRecordable = true ∧ r.state.Vacant info.targetKey ∧ r.state.Full := by
  unfold reconcileOne at h
  cases hrecordable : info.isRecordable with
  | false =>
    simp only [hrecordable, Bool.not_false, if_true] at h
    refine absurd hlimit (Avoids.ite (fun _ => ?_) (fun _ => .ok _) error h)
    exact .of_ok (destroy_total r info.targetKey)
  | true =>
    simp only [hrecordable, Bool.not_true, Bool.false_eq_true, if_false] at h
    cases ht : r.state.targetsByKey[info.targetKey]? with
    | none =>
      simp only [ht] at h
      exact ⟨rfl, vacant_of_none ht, full_of_establishTarget h hlimit⟩
    | some target =>
      simp only [ht] at h
      split at h
      · rename_i hterminal
        have hvacant : r.state.Vacant info.targetKey := by
          intro core hcore
          obtain rfl := Option.some.inj ((coreAt_of_getElem? ht).symm.trans hcore)
          exact hterminal
        split at h
        · exact ⟨rfl, hvacant, full_of_establishTarget h hlimit⟩
        · cases h
      · exact absurd hlimit (unlimited_refreshTarget _ _ _ error h)

theorem full_of_reconcileRestored {reconnected : ReconnectedTarget} (h : reconcileRestored r reconnected = .error error)
    (hlimit : ExceedsLimit error) : r.state.Vacant reconnected.info.targetKey ∧ r.state.Full := by
  unfold reconcileRestored at h
  split at h
  · rename_i hnone
    unfold establishRestored at h
    rcases bind_eq_error.1 h with h | ⟨created, -, h⟩
    · exact ⟨vacant_of_none hnone, full_of_createTarget h hlimit⟩
    · dsimp only at h
      split at h
      · exact absurd hlimit (unlimited_attach _ _ _ _ _ error h)
      · cases h
  · exact absurd hlimit (unlimited_refreshRestored _ _ _ error h)

end

/-- Where the arm of an input runs into the limit: what it has made of the reduction `r` by then. -/
inductive LimitRaised (order : VisitOrder) (r : Reduction) : SupervisorInput → Reduction → Prop
  | initialCount {infos : List TransportTargetInfo}
      (exceeded : maxKnownPageTargets < (SupervisorInput.initialTargets infos).kept.dedup.length) :
      LimitRaised order r (.initialTargets infos) r
  | initialTurn {infos done rest : List TransportTargetInfo} {info : TransportTargetInfo} {r₁ r₂ : Reduction}
      (counted : (SupervisorInput.initialTargets infos).kept.dedup.length ≤ maxKnownPageTargets)
      (destroyed : destroyMissing order r (SupervisorInput.initialTargets infos).kept = .ok r₁)
      (listed : infos.filter (·.isRecordable) = done ++ info :: rest)
      (reconciled : done.foldlM (fun r info => reconcileOne r info true) r₁ = .ok r₂)
      (vacant : r₂.state.Vacant info.targetKey) (full : r₂.state.Full) : LimitRaised order r (.initialTargets infos) r₂
  | created {info : TransportTargetInfo} (vacant : r.state.Vacant info.targetKey) (full : r.state.Full) :
      LimitRaised order r (.targetCreated info) r
  | changed {info : TransportTargetInfo} (vacant : r.state.Vacant info.targetKey) (full : r.state.Full) :
      LimitRaised order r (.targetInfoChanged info) r
  | reconnectCount {snapshot : ReconnectedSnapshot}
      (exceeded : maxKnownPageTargets < (SupervisorInput.reconnected snapshot).kept.dedup.length) :
      LimitRaised order r (.reconnected snapshot) r
  | reconnectTurn {snapshot : ReconnectedSnapshot} {done rest : List ReconnectedTarget} {reconnected : ReconnectedTarget}
      {r₁ r₂ : Reduction} (counted : (SupervisorInput.reconnected snapshot).kept.dedup.length ≤ maxKnownPageTargets)
      (destroyed : destroyMissing order
        { r with state := { r.state with
          connectionGeneration := snapshot.connectionGeneration
          compatibility := snapshot.compatibility } } (SupervisorInput.reconnected snapshot).kept = .ok r₁)
      (listed : (SupervisorInput.reconnected snapshot).restored = done ++ reconnected :: rest)
      (restored : done.foldlM reconcileRestored { r₁ with state := clearSessions r₁.state } = .ok r₂)
      (vacant : r₂.state.Vacant reconnected.info.targetKey) (full : r₂.state.Full) :
      LimitRaised order r (.reconnected snapshot) r₂

section

variable {order : VisitOrder} {r r' : Reduction} {error : KrometrailError}

theorem limitRaised_of_reconcileInitial {infos : List TransportTargetInfo}
    (h : reconcileInitial order r infos = .error error) (hlimit : ExceedsLimit error) :
    ∃ left, LimitRaised order r (.initialTargets infos) left := by
  unfold reconcileInitial at h
  rcases bind_eq_error.1 h with h | ⟨_, hcount, h⟩
  · exact ⟨r, .initialCount (ensurePageTargetCount_eq_error h)⟩
  · have hcounted : (SupervisorInput.initialTargets infos).kept.dedup.length ≤ maxKnownPageTargets :=
      le_of_ensurePageTargetCount hcount
    rcases bind_eq_error.1 h with h | ⟨r₁, hr₁, h⟩
    · exact absurd hlimit (unlimited_destroyMissing _ _ _ error h)
    · obtain ⟨done, info, rest, r₂, hlisted, hdone, hturn⟩ := foldlM_eq_error h
      obtain ⟨-, hvacant, hfull⟩ := full_of_reconcileOne hturn hlimit
      exact ⟨r₂, .initialTurn hcounted hr₁ hlisted hdone hvacant hfull⟩

theorem limitRaised_of_reconnect {snapshot : ReconnectedSnapshot} (h : reconnect order r snapshot = .error error)
    (hlimit : ExceedsLimit error) : ∃ left, LimitRaised order r (.reconnected snapshot) left := by
  unfold reconnect at h
  split at h
  · cases h
  · split at h
    · cases h
    · rcases bind_eq_error.1 h with h | ⟨_, hcount, h⟩
      · exact ⟨r, .reconnectCount (ensurePageTargetCount_eq_error h)⟩
      · have hcounted : (SupervisorInput.reconnected snapshot).kept.dedup.length ≤ maxKnownPageTargets :=
          le_of_ensurePageTargetCount hcount
        rcases bind_eq_error.1 h with h | ⟨r₁, hr₁, h⟩
        · exact absurd hlimit (unlimited_destroyMissing _ _ _ error h)
        · rcases bind_eq_error.1 h with h | ⟨r₃, -, h⟩
          · obtain ⟨done, reconnected, rest, r₂, hlisted, hdone, hturn⟩ := foldlM_eq_error h
            obtain ⟨hvacant, hfull⟩ := full_of_reconcileRestored hturn hlimit
            exact ⟨r₂, .reconnectTurn hcounted hr₁ hlisted hdone hvacant hfull⟩
          · exact absurd hlimit (unlimited_setSessionState _ _ error h)

theorem limitRaised_of_observe {payload : SupervisorInput} (h : observe order r payload = .error error)
    (hlimit : ExceedsLimit error) : ∃ left, LimitRaised order r payload left := by
  have hother : ∀ x : Result Reduction, Unlimited x → x = .error error → ∃ left, LimitRaised order r payload left :=
    fun x hx h => absurd hlimit (hx error h)
  cases payload with
  | initialTargets infos => exact limitRaised_of_reconcileInitial h hlimit
  | targetCreated info =>
    obtain ⟨-, hvacant, hfull⟩ := full_of_reconcileOne h hlimit
    exact ⟨r, .created hvacant hfull⟩
  | targetInfoChanged info =>
    obtain ⟨-, hvacant, hfull⟩ := full_of_reconcileOne h hlimit
    exact ⟨r, .changed hvacant hfull⟩
  | reconnected snapshot => exact limitRaised_of_reconnect h hlimit
  | initialReconciliationCompleted =>
    refine hother _ ?_ h
    exact .ite (fun _ => .error (by rintro ⟨⟩)) fun _ => unlimited_setSessionState _ _
  | attached key session | unsolicitedAttached key session => exact hother _ (unlimited_attach _ _ _ _ _) h
  | targetAttachFailed key => exact hother _ (.of_ok (targetAttachFailed_total r key)) h
  | captureStartFailed context =>
    simp only [observe] at h
    split at h
    · split at h <;> cases h
    · cases h
  | detached session => exact hother _ (.of_ok (detachFailed_total _ session)) h
  | targetDestroyed key => exact hother _ (.of_ok (destroy_total _ key)) h
  | visibilityChanged key visibility observedAt =>
    exact hother _ (.of_ok (visibilityChanged_total r key visibility observedAt)) h
  | domainSetupFailed key => exact hother _ (.of_ok (domainSetupFailed_total r key)) h
  | initialVisibilityProbeFailed key => cases h
  | captureVisibilityChanged targetId visibility observedAt =>
    simp only [observe] at h
    split at h
    · exact hother _ (.of_ok (visibilityChanged_total r _ visibility observedAt)) h
    · cases h
  | selectTarget key =>
    refine hother (selectTarget r key) ?_ h
    exact .ite (fun _ => .ok _) fun _ => .error (by rintro ⟨⟩)
  | viewportOverrideApplied key viewport =>
    refine hother _ ?_ h
    change Unlimited (viewportOverrideApplied r key viewport)
    unfold viewportOverrideApplied
    split
    · exact .error (by rintro ⟨⟩)
    · exact .ite (fun _ => .error (by rintro ⟨⟩)) fun _ => .ok _
  | connectionLost => exact hother _ (unlimited_connectionLost order r) h
  | browserProcessTerminated | reconnectExhausted | cancelled => exact hother _ (unlimited_beginShutdown _ _) h
  | stopRequested => exact hother _ (unlimited_beginShutdown r _) h
  | forConnectionGeneration generation input => cases h

/-- Every target that is not terminal has one of the keys. -/
def SupervisorState.LiveWithin (keys : List String) (state : SupervisorState) : Prop :=
  ∀ key core, state.coreAt key = some core → core.isTerminal = false → key ∈ keys

variable {keys : List String}

theorem SupervisorState.LiveWithin.not_full {state : SupervisorState} {key : String} (h : state.LiveWithin keys)
    (hkey : key ∈ keys) (hvacant : state.Vacant key) (hcounted : keys.dedup.length ≤ maxKnownPageTargets) : ¬state.Full := by
  intro hfull
  have hlive : ∀ key' ∈ (liveTargets state.targetsByKey).keys, key' ∈ keys ∧ key' ≠ key := by
    intro key' hkey'
    rw [ExtTreeMap.mem_keys, ExtTreeMap.mem_iff_isSome_getElem?, Option.isSome_iff_exists] at hkey'
    obtain ⟨target, htarget⟩ := hkey'
    rw [liveTargets, ExtTreeMap.getElem?_filter', Option.filter_eq_some_iff] at htarget
    obtain ⟨htracked, hnot⟩ := htarget
    have hcore := coreAt_of_getElem? htracked
    have hopen : target.core.isTerminal = false := by simpa using hnot
    refine ⟨h key' _ hcore hopen, ?_⟩
    rintro rfl
    cases hopen.symm.trans (hvacant _ hcore)
  have hnodup : (key :: (liveTargets state.targetsByKey).keys).Nodup :=
    List.nodup_cons.2 ⟨fun hmem => (hlive key hmem).2 rfl, ExtTreeMap.nodup_keys⟩
  have hsubset : key :: (liveTargets state.targetsByKey).keys ⊆ keys.dedup := by
    intro key' hkey'
    rw [List.mem_dedup]
    rcases List.mem_cons.1 hkey' with rfl | hkey'
    · exact hkey
    · exact (hlive key' hkey').1
  have hlength := (List.subperm_of_subset hnodup hsubset).length_le
  rw [List.length_cons, ExtTreeMap.length_keys] at hlength
  unfold SupervisorState.Full at hfull
  omega

theorem keeps_liveWithin {A : Act → Prop} (hcreate : ∀ key core, A (.create key core) → key ∈ keys) (hlose : ¬A .lose)
    : Keeps A (fun key core => core.isTerminal = false → key ∈ keys) (fun _ _ => True) where
  hold _ _ _ := trivial
  lose hA := absurd hA hlose
  create key _ _ hA _ := hcreate key _ hA
  createAdopt key _ _ _ hA _ _ := hcreate key _ hA
  adopt _ _ _ _ h _ hlive _ _ _ := h hlive
  deliver _ _ _ _ h hlive _ _ _ := h hlive
  finish ending _ core _ _ hlive := absurd ((ending.isTerminal_core core).symm.trans hlive) nofun
  release _ _ _ h hlive := h hlive
  revise change _ core _ h _ hlive := h (by simpa using hlive)

theorem liveWithin_destroyMissing (h : destroyMissing order r keys = .ok r') : r'.state.LiveWithin keys := by
  intro key core hcore hlive
  rw [destroyMissing_coreAt h] at hcore
  by_contra hmissing
  rw [if_neg hmissing] at hcore
  obtain ⟨core', -, rfl⟩ := Option.map_eq_some_iff.1 hcore
  cases core'.isTerminal_destroyed.symm.trans hlive

theorem SupervisorState.LiveWithin.moves {A : Act → Prop} (h : r.state.LiveWithin keys) (hmoves : Moves A r r')
    (hcreate : ∀ key core, A (.create key core) → key ∈ keys) (hlose : ¬A .lose) : r'.state.LiveWithin keys :=
  (hmoves.entries (keeps_liveWithin hcreate hlose) ⟨h, fun _ _ _ => trivial⟩).cores

theorem LimitRaised.unchanged {payload : SupervisorInput} (h : LimitRaised order r payload r') : r' = r := by
  cases h with
  | initialCount | created | changed | reconnectCount => rfl
  | initialTurn counted destroyed listed reconciled vacant full =>
    rename_i infos done rest info r₁
    have hkeys : ∀ info' ∈ done ++ info :: rest, info'.isRecordable = true ∧
        info'.targetKey ∈ (SupervisorInput.initialTargets infos).kept := by
      intro info' hinfo'
      rw [← listed] at hinfo'
      exact ⟨(List.mem_filter.1 hinfo').2, List.mem_map_of_mem hinfo'⟩
    have hmoves : Moves (Establishes (SupervisorInput.initialTargets infos).kept) r₁ r' := by
      refine foldlM_rel (fun _ => .refl) (fun _ _ _ => .trans) (fun info' hinfo' r r' hturn => ?_) reconciled
      obtain ⟨hrecordable, hkey⟩ := hkeys info' (by simp [hinfo'])
      exact reconcileOne_moves hturn (fun hnot => absurd (hrecordable.symm.trans hnot) nofun) (fun _ => trivial) trivial
        trivial trivial (fun _ _ => hkey) fun _ _ _ => hkey
    have hwithin := (liveWithin_destroyMissing destroyed).moves hmoves (fun _ _ hA => hA) id
    -- the turn of a listed key without a live target finds room
    exact absurd full (hwithin.not_full (hkeys info (by simp)).2 vacant counted)
  | reconnectTurn counted destroyed listed restored vacant full =>
    rename_i snapshot done rest reconnected r₁
    have hkeys : ∀ e ∈ done ++ reconnected :: rest, e ∈ (SupervisorInput.reconnected snapshot).restored ∧
        e.info.targetKey ∈ (SupervisorInput.reconnected snapshot).kept := by
      intro e he
      rw [← listed] at he
      exact ⟨he, List.mem_map_of_mem he⟩
    have hlisted : ∀ e ∈ done, e ∈ (SupervisorInput.reconnected snapshot).restored :=
      fun e he => (hkeys e (by simp [he])).1
    have hmoves : Moves (Restores (SupervisorInput.reconnected snapshot).restored)
        { r₁ with state := clearSessions r₁.state } r' :=
      restore_moves rfl restored trivial trivial (fun e he _ => ⟨e, hlisted e he, rfl⟩)
        (fun e he _ => ⟨e, hlisted e he, rfl, rfl⟩)
        fun e he core session hsession hvisibility => ⟨e, hlisted e he, rfl, hsession, hvisibility⟩
    have hcleared : (clearSessions r₁.state).LiveWithin (SupervisorInput.reconnected snapshot).kept :=
      liveWithin_destroyMissing destroyed
    have hwithin := SupervisorState.LiveWithin.moves (r := { r₁ with state := clearSessions r₁.state }) hcleared hmoves
      (fun key core hA => by
        obtain ⟨e, he, rfl⟩ := hA
        exact List.mem_map_of_mem he) id
    exact absurd full (hwithin.not_full (hkeys reconnected (by simp)).2 vacant counted)

end

end Krometrail
