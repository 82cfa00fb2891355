import Krometrail.Lib.Slots
import Krometrail.Targets.Snapshots

/-!
# Reconnection as slots

Which targets are live after a reconnection does not depend on their sessions, titles or generations: the target table
is a table of slots that are live or dead, a snapshot first makes the slots dead whose keys it does not list, and then
takes the keys that it lists.  A key that is still tracked as closed or failed stays so, where the first snapshot of a
session establishes it again, unless a new key before it made room.
-/

namespace Krometrail

open Results
open Std (ExtTreeMap)
open Runs (Run)
open TargetLifecycle (discovered attached recording suspended closed failed)

/-- The tracked keys, and whether their targets are live. -/
def SupervisorState.slots (state : SupervisorState) : ExtTreeMap String Bool :=
  state.targetsByKey.map fun _ target => !target.isTerminal

theorem getElem?_slots (state : SupervisorState) (key : String) :
    state.slots[key]? = (state.coreAt key).map (!·.isTerminal) := by
  unfold SupervisorState.slots SupervisorState.coreAt
  rw [ExtTreeMap.getElem?_map]
  cases state.targetsByKey[key]? <;> rfl

theorem size_slots (state : SupervisorState) : state.slots.size = state.targetsByKey.size := ExtTreeMap.size_map

variable {state state' : SupervisorState} {key : String} {core : TargetCore} {r r' : Reduction}
  {reconnected : ReconnectedTarget}

theorem slots_ext {slots : ExtTreeMap String Bool} (h : ∀ key, (state.coreAt key).map (!·.isTerminal) = slots[key]?)
    : state.slots = slots :=
  ExtTreeMap.ext_getElem? fun key => (getElem?_slots state key).trans (h key)

theorem slots_congr (h : ∀ key, state'.coreAt key = state.coreAt key) :
    state'.slots = state.slots := slots_ext fun key => by rw [h, getElem?_slots]

theorem slots_reclaimed (state : SupervisorState) : state.reclaimed.slots = Slots.reclaim state.slots := by
  refine slots_ext fun key => ?_
  rw [Slots.getElem?_reclaim, getElem?_slots, coreAt_reclaimed]
  cases state.coreAt key with
  | none => rfl
  | some core => cases hterminal : core.isTerminal <;> simp [Option.filter, hterminal]

theorem slots_update (hlive : core.isTerminal = false)
    (h : ∀ key', state'.coreAt key' = if key = key' then some core else state.coreAt key') :
    state'.slots = state.slots.insert key true := by
  refine slots_ext fun key' => ?_
  rw [Tables.getElem?_insert, h, getElem?_slots]
  by_cases hkey : key = key' <;> simp [hkey, hlive]

theorem slots_same {core' : TargetCore} (htracked : state.coreAt key = some core)
    (hterminal : core'.isTerminal = core.isTerminal)
    (h : ∀ key', state'.coreAt key' = if key = key' then some core' else state.coreAt key') : state'.slots = state.slots := by
  refine slots_ext fun key' => ?_
  rw [h, getElem?_slots]
  by_cases hkey : key = key'
  · subst hkey
    simp [htracked, hterminal]
  · simp [hkey]

theorem attach_slots {session : TransportSessionId} {probeVisibility unsolicited : Bool}
    (hcore : r.state.coreAt key = some core) (hsound : core.Sound)
    (h : attach r key session probeVisibility unsolicited = .ok r') : r'.state.slots = r.state.slots := by
  obtain ⟨target, htarget, rfl⟩ := exists_of_coreAt hcore
  rcases attach_tracked htarget h with ⟨rfl, -⟩ | hattaches
  · rfl
  · have hnone := (hsound.allows_resumed_iff hattaches.live).1 hattaches.allowed
    refine slots_same hcore ?_ hattaches.coreAt
    exact (TargetCore.isTerminal_of_isLive (hsound.isLive_attach hattaches.live hnone session)).trans
      hattaches.live.symm

theorem establishRestored_slots (huntracked : r.state.coreAt reconnected.info.targetKey = none)
    (h : establishRestored r reconnected = .ok r') :
    r'.state.slots = Slots.take maxKnownPageTargets r.state.slots reconnected.info.targetKey := by
  unfold establishRestored at h
  simp only [bind_eq_ok] at h
  obtain ⟨created, hcreated, h⟩ := h
  obtain ⟨slot, revision, nextPageSequence, hslot, hstate, hcore⟩ := createTarget_cases hcreated
  have hfree : r.state.slots[reconnected.info.targetKey]? = none := by simp [getElem?_slots, huntracked]
  have htaken : (Reduction.store { r with state := created.1 } reconnected.info.targetKey created.2).state.slots =
      Slots.take maxKnownPageTargets r.state.slots reconnected.info.targetKey := by
    have hstored : (Reduction.store { r with state := created.1 } reconnected.info.targetKey created.2).state.slots =
        slot.slots.insert reconnected.info.targetKey true := by
      have hlive : created.2.core.isTerminal = false := by
        rw [hcore]
        rfl
      have hslotted : created.1.targetsByKey = slot.targetsByKey := by rw [hstate]
      refine slots_update hlive fun key => ?_
      have hinserted := map_core_insert created.1.targetsByKey reconnected.info.targetKey created.2 key
      rw [hslotted] at hinserted
      exact hstate ▸ hinserted
    obtain ⟨-, ⟨hfull, rfl⟩ | ⟨hroom, rfl⟩⟩ := preparePageTargetSlot_cases hslot
    · rw [hstored, slots_reclaimed, Slots.take_of_full hfree (by rwa [size_slots])]
    · rw [hstored, Slots.take_of_room hfree (by rwa [size_slots])]
  have hcreatedAt : (Reduction.store { r with state := created.1 } reconnected.info.targetKey created.2).state.coreAt
      reconnected.info.targetKey = some created.2.core := coreAt_of_getElem? (by simp [Reduction.store])
  split at h
  · rw [attach_slots hcreatedAt (hcore ▸ .fresh _ _) h, htaken]
  · simp only [pure_eq_ok] at h
    exact h ▸ htaken

theorem refreshRestored_slots {target : SupervisorTargetState}
    (htracked : r.state.targetsByKey[reconnected.info.targetKey]? = some target) (hsound : target.core.Sound)
    (h : refreshRestored r target reconnected = .ok r') : r'.state.slots = r.state.slots := by
  unfold refreshRestored at h
  simp only [bind_eq_ok] at h
  obtain ⟨target', htarget', h⟩ := h
  have hcore : target'.core = target.core := by
    split at htarget'
    · exact withInfo_core htarget'
    · rw [Except.ok.inj htarget']
  generalize hrestored : ({ target' with
    target := { target'.target with visibility := reconnected.visibility } } : SupervisorTargetState) = restored at h
  have hrestoredCore : restored.core = (Change.visibilityRestored reconnected.visibility).core target.core := by
    rw [← hcore, ← hrestored]
    rfl
  have hstored : (r.store reconnected.info.targetKey restored).state.slots = r.state.slots := by
    refine slots_same (coreAt_of_getElem? htracked) ?_ (map_core_insert _ _ _)
    rw [hrestoredCore, Change.isTerminal_core]
  split at h
  · have hcoreAt : (r.store reconnected.info.targetKey restored).state.coreAt reconnected.info.targetKey =
        some restored.core := coreAt_of_getElem? (by simp [Reduction.store])
    rw [attach_slots hcoreAt (hrestoredCore ▸ hsound.change _) h, hstored]
  · simp only [pure_eq_ok] at h
    subst h
    split <;> split <;> exact hstored

theorem reconcileRestored_slots (hsound : ∀ key core, r.state.coreAt key = some core → core.Sound)
    (h : reconcileRestored r reconnected = .ok r') :
    r'.state.slots = Slots.take maxKnownPageTargets r.state.slots reconnected.info.targetKey := by
  unfold reconcileRestored at h
  cases ht : r.state.targetsByKey[reconnected.info.targetKey]? with
  | none =>
    simp only [ht] at h
    exact establishRestored_slots (by simp [SupervisorState.coreAt, ht]) h
  | some target =>
    simp only [ht] at h
    have hcore := coreAt_of_getElem? ht
    have hmem : r.state.slots[reconnected.info.targetKey]?.isSome = true := by simp [getElem?_slots, hcore]
    rw [Slots.take_of_mem hmem]
    exact refreshRestored_slots ht (hsound _ _ hcore) h

theorem restore_slots {targets : List ReconnectedTarget} (hpending : r.state.pendingAttachedSessions = ∅)
    (hsound : r.state.Entries (fun _ core => core.Sound ∧ core.BindingSound) fun _ _ => True)
    (h : targets.foldlM reconcileRestored r = .ok r') :
    r'.state.slots = (targets.map (·.info.targetKey)).foldl (Slots.take maxKnownPageTargets) r.state.slots := by
  have hprefix := foldlM_prefix (P := fun visited r' => Moves (fun _ => True) r r' ∧
      r'.state.pendingAttachedSessions = ∅ ∧
      r'.state.slots = (visited.map (·.info.targetKey)).foldl (Slots.take maxKnownPageTargets) r.state.slots)
    (fun visited e rest r₁ r₂ _ hr₁ hr₂ => ?_) ⟨.refl, hpending, rfl⟩ h
  · exact hprefix.2.2
  obtain ⟨hmoves, hnone, hslots⟩ := hr₁
  refine ⟨hmoves.trans (reconcileRestored_moves hnone hr₂ trivial trivial (fun _ => trivial) (fun _ => trivial)
    fun _ _ _ _ => trivial), (reconcileRestored_pending hr₂).trans hnone, ?_⟩
  have hcores := (hmoves.entries keeps_sound hsound).cores
  rw [reconcileRestored_slots (fun key core hcore => (hcores key core hcore).1) hr₂, hslots, List.map_append,
    List.foldl_append]
  rfl

/-- The listed keys that can be recorded. -/
def ReconnectedSnapshot.recordableKeys (snapshot : ReconnectedSnapshot) : List String :=
  (snapshot.targets.filter (·.info.isRecordable)).map (·.info.targetKey)

/-- The non-terminal targets are those that the snapshot lists as recordable, and a target that it does not list is
terminal. -/
def Authoritative (snapshot : ReconnectedSnapshot) (state : SupervisorState) : Prop :=
  (∀ key : String, (∃ target : SupervisorTargetState, state.targetsByKey[key]? = some target ∧
    target.isTerminal = false) ↔ key ∈ snapshot.recordableKeys) ∧
  ∀ key ∉ snapshot.targets.map (·.info.targetKey), ∀ target : SupervisorTargetState,
    state.targetsByKey[key]? = some target → target.isTerminal = true

theorem getElem?_slots_eq_true :
    state.slots[key]? = some true ↔ ∃ target : SupervisorTargetState, state.targetsByKey[key]? = some target ∧
      target.isTerminal = false := by
  rw [getElem?_slots, SupervisorState.coreAt]
  cases state.targetsByKey[key]? <;> simp

theorem getElem?_slots_eq_false :
    state.slots[key]? = some false ↔ ∃ target : SupervisorTargetState, state.targetsByKey[key]? = some target ∧
      target.isTerminal = true := by
  rw [getElem?_slots, SupervisorState.coreAt]
  cases state.targetsByKey[key]? <;> simp

theorem reconnect_slots {order : VisitOrder} {snapshot : ReconnectedSnapshot} (hsound : state.Sound)
    (hreconnecting : state.sessionState = .reconnecting)
    (hgeneration : state.connectionGeneration < snapshot.connectionGeneration)
    (h : reconnect order { state, effects := [] } snapshot = .ok r) :
    r.state.slots = snapshot.recordableKeys.foldl (Slots.take maxKnownPageTargets)
      (state.slots.map fun key live => live && snapshot.recordableKeys.contains key) := by
  obtain ⟨-, hclosed⟩ | ⟨-, -, -, r₁, r₂, hr₁, hr₂, hr⟩ := reconnect_cases h
  · rcases hclosed with hclosed | hclosed | hclosed
    · cases hreconnecting.symm.trans hclosed
    · cases hreconnecting.symm.trans hclosed
    · exact absurd hclosed (Nat.not_le.2 hgeneration)
  have hended : r₁.state.slots = state.slots.map fun key live => live && snapshot.recordableKeys.contains key := by
    refine slots_ext fun key => ?_
    rw [destroyMissing_coreAt hr₁, ExtTreeMap.getElem?_map, getElem?_slots]
    change ((if key ∈ snapshot.recordableKeys then state.coreAt key else (state.coreAt key).map TargetCore.destroyed).map
      fun core => !core.isTerminal) = _
    cases hcore : state.coreAt key with
    | none => simp
    | some core => by_cases hkept : key ∈ snapshot.recordableKeys <;> simp [hkept, TargetCore.isTerminal_destroyed]
  have hmissing : Moves (fun _ => True) { state, effects := [] } r₁ :=
    .trans (.single trivial (.renew snapshot.compatibility hgeneration)) (destroyMissing_moves hr₁ fun _ _ _ => trivial)
  have hentries : (clearSessions r₁.state).Entries (fun _ core => core.Sound ∧ core.BindingSound) fun _ _ => True :=
    ⟨(hmissing.entries keeps_sound hsound.entries).cores, fun _ _ _ => trivial⟩
  have hrestored : r₂.state.slots = snapshot.recordableKeys.foldl (Slots.take maxKnownPageTargets) r₁.state.slots :=
    restore_slots (r := { r₁ with state := clearSessions r₁.state }) rfl hentries hr₂
  rw [← hended, ← hrestored]
  refine slots_congr fun key => ?_
  rw [coreAt_setSessionState hr, coreAt_reconcileSelection]
  exact coreAt_resolveUnresolvedOpeners r₂.state key

theorem reconnect_live_iff {order : VisitOrder} {snapshot : ReconnectedSnapshot} (hsound : state.Sound)
    (hreconnecting : state.sessionState = .reconnecting)
    (hgeneration : state.connectionGeneration < snapshot.connectionGeneration) (hdistinct : snapshot.recordableKeys.Nodup)
    (h : reconnect order { state, effects := [] } snapshot = .ok r) (key : String) :
    r.state.slots[key]? = some true ↔ key ∈ snapshot.recordableKeys ∧
      (state.slots[key]? = some false → Slots.MakesRoom maxKnownPageTargets state.slots snapshot.recordableKeys key) := by
  have hended : ∀ key, (state.slots.map fun key live => live && snapshot.recordableKeys.contains key)[key]? =
      state.slots[key]?.map fun live => live && snapshot.recordableKeys.contains key := fun key => ExtTreeMap.getElem?_map
  have hmakes : Slots.MakesRoom maxKnownPageTargets
      (state.slots.map fun key live => live && snapshot.recordableKeys.contains key) snapshot.recordableKeys key ↔
      Slots.MakesRoom maxKnownPageTargets state.slots snapshot.recordableKeys key := by
    unfold Slots.MakesRoom
    simp only [hended, ExtTreeMap.size_map, Option.map_eq_none_iff, Option.isNone_map]
  rw [reconnect_slots hsound hreconnecting hgeneration h, Slots.foldl_take hdistinct, hmakes, hended]
  by_cases hkey : key ∈ snapshot.recordableKeys
  · cases state.slots[key]? with
    | none => simp [hkey]
    | some live => cases live <;> simp [hkey]
  · simp [hkey]

/-- A snapshot that a reconnecting supervisor takes up is authoritative exactly when it makes room before the turn of
every recordable key that is tracked as closed or failed. -/
theorem reconnected_authoritative_iff {state : SupervisorState} (hreachable : supervision.Reachable state)
    (hreconnecting : state.sessionState = .reconnecting) {input : SupervisorInput} {snapshot : ReconnectedSnapshot}
    (haccepted : input.accepted state = some (.reconnected snapshot))
    (hgeneration : state.connectionGeneration < snapshot.connectionGeneration)
    (hdistinct : (snapshot.targets.map (·.info.targetKey)).Nodup) {effects : List SupervisorEffect}
    {state' : SupervisorState} (hstep : supervision.step state input effects state') :
    Authoritative snapshot state' ↔ ∀ key ∈ snapshot.recordableKeys, ∀ target : SupervisorTargetState,
      state.targetsByKey[key]? = some target → target.isTerminal = true →
        Slots.MakesRoom maxKnownPageTargets state.slots snapshot.recordableKeys key := by
  obtain ⟨hdropped, -⟩ | ⟨payload, order, r, haccepted', hr, hpass⟩ := supervision_step_cases hstep
  · cases haccepted.symm.trans hdropped
  obtain rfl := Option.some.inj (haccepted.symm.trans haccepted')
  have hnodup : snapshot.recordableKeys.Nodup := hdistinct.sublist (List.filter_sublist.map _)
  have hlive := reconnect_live_iff (sound_of_reachable hreachable) hreconnecting hgeneration hnodup hr
  have hslots : state'.slots = r.state.slots := by
    obtain rfl := congrArg Reduction.state hpass
    refine slots_ext fun key => ?_
    rw [coreAt_reconcileCaptureBindings, getElem?_slots]
    cases r.state.coreAt key <;> rfl
  unfold Authoritative
  simp only [← getElem?_slots_eq_true, hslots, hlive]
  constructor
  · rintro ⟨hlisted, -⟩ key hkey target htarget hterminal
    exact ((hlisted key).2 hkey).2 (getElem?_slots_eq_false.2 ⟨target, htarget, hterminal⟩)
  · intro hroom
    refine ⟨fun key => ⟨fun h => h.1, fun hkey => ⟨hkey, fun hdead => ?_⟩⟩, fun key hkey target htarget => ?_⟩
    · obtain ⟨target, htarget, hterminal⟩ := getElem?_slots_eq_false.1 hdead
      exact hroom key hkey target htarget hterminal
    · by_contra hlivetarget
      have htrue : state'.slots[key]? = some true := getElem?_slots_eq_true.2 ⟨target, htarget, by simpa using hlivetarget⟩
      rw [hslots, hlive] at htrue
      exact hkey ((List.filter_sublist.map _).subset htrue.1)

/-- A snapshot that lists page `a`, with a new session. -/
def snapshotA : ReconnectedSnapshot := ⟨1, chrome, [⟨pageA, some sessionB, .visible⟩]⟩

theorem accepted_reconnected (state : SupervisorState) (snapshot : ReconnectedSnapshot) :
    (SupervisorInput.reconnected snapshot).accepted state = some (.reconnected snapshot) := by
  simp [SupervisorInput.accepted, discards, SupervisorInput.isDroppedWhileReconnecting]

/-- A page that was attached when the connection was lost is live again. -/
theorem reconnected_authoritative_iff_attached : ∃ state effects state', supervision.Reachable state ∧
    supervision.step state (.reconnected snapshotA) effects state' ∧ state'.targetsByKey.contains "a" = true ∧
      Authoritative snapshotA state' := by
  obtain ⟨trace, state, hrun, htest⟩ := exists_unguardedRun [.initialTargets [pageA], .attached "a" sessionA, .connectionLost]
    (fun _ state => state.sessionState == .reconnecting && state.connectionGeneration == 0 &&
      (state.targetsByKey["a"]?.all fun target => !target.isTerminal) &&
      (execute state (.reconnected snapshotA)).any fun next => next.2.targetsByKey.contains "a") (by decide)
  simp only [Bool.and_eq_true, beq_iff_eq] at htest
  obtain ⟨⟨⟨hreconnecting, hgeneration⟩, hlive⟩, hnext⟩ := htest
  obtain ⟨⟨effects, state'⟩, hnext, hheld⟩ := (Option.any_eq_true _ _).1 hnext
  have hstep := step_of_execute hnext
  refine ⟨state, effects, state', hrun.reachable, hstep, hheld, ?_⟩
  refine (reconnected_authoritative_iff hrun.reachable hreconnecting (accepted_reconnected state snapshotA)
    (by rw [hgeneration]; decide) (by decide) hstep).2 fun key hkey target htarget hterminal => ?_
  obtain rfl : key = "a" := List.mem_singleton.1 hkey
  simp [htarget, hterminal] at hlive

/-- A page that failed before the connection was lost stays failed, although the snapshot lists it. -/
theorem failed_not_restored : ¬∀ state, supervision.Reachable state → state.sessionState = .reconnecting →
    ∀ snapshot effects state', state.connectionGeneration < snapshot.connectionGeneration →
      (snapshot.targets.map (·.info.targetKey)).Nodup → snapshot.recordableKeys.length ≤ maxKnownPageTargets →
      supervision.step state (.reconnected snapshot) effects state' → Authoritative snapshot state' := by
  intro h
  obtain ⟨trace, state, hrun, htest⟩ := exists_unguardedRun
    [.initialTargets [pageA], .attached "a" sessionA, .domainSetupFailed "a", .connectionLost]
    (fun _ state => state.sessionState == .reconnecting && state.connectionGeneration == 0 &&
      (execute state (.reconnected snapshotA)).any fun next => next.2.targetsByKey["a"]?.all (·.isTerminal)) (by decide)
  simp only [Bool.and_eq_true, beq_iff_eq] at htest
  obtain ⟨⟨hreconnecting, hgeneration⟩, hnext⟩ := htest
  obtain ⟨⟨effects, state'⟩, hnext, hterminal⟩ := (Option.any_eq_true _ _).1 hnext
  have hlisted := (h state hrun.reachable hreconnecting snapshotA effects state' (by rw [hgeneration]; decide) (by decide)
    (by decide) (step_of_execute hnext)).1 "a"
  obtain ⟨target, htarget, hlive⟩ := hlisted.2 (by decide)
  simp [htarget, hlive] at hterminal

end Krometrail
