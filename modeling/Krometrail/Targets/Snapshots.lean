import Krometrail.Targets.Supervision

/-!
# The phases of a reconnection

A reconnection that is taken up first ends the targets that its snapshot does not list, then forgets every session, and
then restores what the snapshot lists.  `destroyMissing_coreAt` says what the first phase leaves of every target, and
`reconnect_phases` puts the phases together.
-/

namespace Krometrail

open Results
open Std (ExtTreeMap)
open TargetLifecycle (discovered attached recording suspended closed failed)

/-- A target after `destroy`. -/
def TargetCore.destroyed (core : TargetCore) : TargetCore :=
  if core.lifecycle = closed then core else Ending.destroyed.core core

theorem TargetCore.isTerminal_destroyed (core : TargetCore) : core.destroyed.isTerminal = true := by
  unfold destroyed
  split
  · rename_i hclosed
    simp [isTerminal, hclosed, TargetLifecycle.isTerminal]
  · simp

theorem TargetCore.destroyed_destroyed (core : TargetCore) : core.destroyed.destroyed = core.destroyed := by
  unfold destroyed
  by_cases hclosed : core.lifecycle = closed
  · simp [hclosed]
  · by_cases hfailed : core.lifecycle = failed <;> simp [hclosed, hfailed, Ending.core]

variable {key : String} {r r' : Reduction} {order : VisitOrder}

theorem Move.finish_coreAt {ending : Ending} {core : TargetCore} (h : Move (.finish ending key core) r r') (key' : String) :
    r'.state.coreAt key' = if key = key' then some (ending.core core) else r.state.coreAt key' := by
  cases h with
  | finish tracked enabled result quiet emitted =>
    rw [coreAt_reconcileSelection, ← result]
    exact map_core_insert _ _ _ _

theorem destroy_coreAt (h : destroy r key = .ok r') (key' : String) :
    r'.state.coreAt key' = if key = key' then (r.state.coreAt key').map TargetCore.destroyed else r.state.coreAt key' := by
  obtain ⟨rfl, hclosed⟩ | ⟨core, htracked, hclosed, hmove⟩ := destroy_cases h
  · by_cases hkey : key = key'
    · subst hkey
      cases hcore : r'.state.coreAt key with
      | none => simp
      | some core => simp [TargetCore.destroyed, hclosed core hcore]
    · rw [if_neg hkey]
  · rw [hmove.finish_coreAt]
    by_cases hkey : key = key'
    · subst hkey
      simp [htracked, TargetCore.destroyed, hclosed]
    · rw [if_neg hkey, if_neg hkey]

theorem mem_keys_of_coreAt {state : SupervisorState} {core : TargetCore} (h : state.coreAt key = some core)
    : key ∈ order.keys state.targetsByKey := by
  obtain ⟨target, htarget, -⟩ := exists_of_coreAt h
  rw [(order.perm _).mem_iff, ExtTreeMap.mem_keys, ExtTreeMap.mem_iff_isSome_getElem?, htarget]
  rfl

theorem destroyMissing_coreAt {kept : List String} (h : destroyMissing order r kept = .ok r') (key : String) :
    r'.state.coreAt key = if key ∈ kept then r.state.coreAt key else (r.state.coreAt key).map TargetCore.destroyed := by
  unfold destroyMissing at h
  have hvisited := foldlM_prefix (P := fun visited r' => ∀ key, r'.state.coreAt key =
      if key ∈ visited ∧ key ∉ kept then (r.state.coreAt key).map TargetCore.destroyed else r.state.coreAt key)
    (fun visited key' _ r₁ r₂ _ hr₁ hr₂ key => ?_) (fun key => by simp) h key
  · rw [hvisited]
    by_cases hkept : key ∈ kept
    · simp [hkept]
    · cases hcore : r.state.coreAt key with
      | none => simp
      | some core =>
        have hmem : key ∈ order.keys r.state.targetsByKey := mem_keys_of_coreAt hcore
        simp [hmem, hkept]
  · split at hr₂
    · rename_i hkept
      cases hr₂
      rw [hr₁]
      have hkept : key' ∈ kept := by simpa using hkept
      by_cases hkey : key = key'
      · subst hkey
        simp [hkept]
      · simp [hkey]
    · rename_i hkept
      have hkept : key' ∉ kept := by simpa using hkept
      rw [destroy_coreAt hr₂, hr₁]
      by_cases hkey : key' = key
      · subst hkey
        by_cases hvisited : key' ∈ visited
        · simp [hvisited, hkept, Function.comp_def, TargetCore.destroyed_destroyed]
        · simp [hvisited, hkept]
      · have hkey' : ¬key = key' := fun he => hkey he.symm
        simp [hkey, hkey']

/-- The acts of the first phase. -/
def Missing (kept : List String) : Act → Prop
  | .renew _ => True
  | .finish .destroyed key _ => key ∉ kept
  | _ => False

/-- The acts of the second phase. -/
def Restores (targets : List ReconnectedTarget) : Act → Prop
  | .note | .reclaim | .annotate | .repair | .enter .ready => True
  | .create key _ => ∃ e ∈ targets, e.info.targetKey = key
  | .revise (.visibilityRestored visibility) key _ => ∃ e ∈ targets, e.info.targetKey = key ∧ e.visibility = visibility
  | .deliver key core session =>
    ∃ e ∈ targets, e.info.targetKey = key ∧ e.session = some session ∧ core.visibility = e.visibility
  | _ => False

/-- The acts of the second phase of the first snapshot. -/
def Establishes (kept : List String) : Act → Prop
  | .note | .reclaim | .annotate | .unhold _ => True
  | .create key _ | .adopt key _ _ => key ∈ kept
  | _ => False

theorem reconcileInitial_phases {infos : List TransportTargetInfo} (h : reconcileInitial order r infos = .ok r') :
    ∃ r₁, Moves (Missing (SupervisorInput.initialTargets infos).kept) r r₁ ∧
      (∀ key, r₁.state.coreAt key = if key ∈ (SupervisorInput.initialTargets infos).kept then r.state.coreAt key
        else (r.state.coreAt key).map TargetCore.destroyed) ∧
      Moves (Establishes (SupervisorInput.initialTargets infos).kept) r₁ r' := by
  unfold reconcileInitial at h
  simp only [bind_eq_ok] at h
  obtain ⟨_, -, r₁, hr₁, h⟩ := h
  refine ⟨r₁, destroyMissing_moves hr₁ fun key hkey _ => hkey, destroyMissing_coreAt hr₁, ?_⟩
  refine foldlM_rel (fun _ => .refl) (fun _ _ _ => .trans) (fun info hinfo r r' h => ?_) h
  have hkey : info.targetKey ∈ (SupervisorInput.initialTargets infos).kept := List.mem_map_of_mem hinfo
  have hrecordable : info.isRecordable = true := (List.mem_filter.1 hinfo).2
  exact reconcileOne_moves h (fun hnot => by cases hrecordable.symm.trans hnot) (fun _ => trivial) trivial trivial
    trivial (fun _ _ => hkey) fun _ _ _ => hkey

/-- A reconnection does nothing, or takes up the snapshot: it ends the targets that are missing, forgets the sessions,
and restores the targets that are listed. -/
theorem reconnect_phases {snapshot : ReconnectedSnapshot} (h : reconnect order r snapshot = .ok r') :
    r' = r ∨ r.state.sessionState ≠ .stopping ∧ r.state.connectionGeneration < snapshot.connectionGeneration ∧
      r'.state.sessionState = .ready ∧
      ∃ r₁, Moves (Missing (SupervisorInput.reconnected snapshot).kept) r r₁ ∧
        (∀ key, r₁.state.coreAt key = if key ∈ (SupervisorInput.reconnected snapshot).kept then r.state.coreAt key
          else (r.state.coreAt key).map TargetCore.destroyed) ∧
        Moves (Restores (SupervisorInput.reconnected snapshot).restored) { r₁ with state := clearSessions r₁.state } r' := by
  obtain ⟨rfl, -⟩ | ⟨hopen, hgeneration, -, r₁, r₂, hr₁, hr₂, hr'⟩ := reconnect_cases h
  · exact .inl rfl
  have hended := destroyMissing_coreAt hr₁
  have hrenew : Missing (SupervisorInput.reconnected snapshot).kept (.renew snapshot.connectionGeneration) := trivial
  have hrepair : Restores (SupervisorInput.reconnected snapshot).restored .repair := trivial
  refine .inr ⟨hopen, hgeneration, setSessionState_sessionState hr', r₁, ?_, hended, ?_⟩
  · exact .trans (.single hrenew (.renew snapshot.compatibility hgeneration))
      (destroyMissing_moves hr₁ fun key hkey _ => hkey)
  · refine .trans (restore_moves rfl hr₂ trivial trivial (fun e he _ => ⟨e, he, rfl⟩) (fun e he _ => ⟨e, he, rfl, rfl⟩)
      fun e he core session hsession hvisibility => ⟨e, he, rfl, hsession, hvisibility⟩) ?_
    refine .trans (resolveUnresolvedOpeners_moves trivial) ?_
    exact .trans (.single hrepair .repair)
      (setSessionState_moves hr' (fun _ => selectionSound_reconcileSelection _) trivial)

end Krometrail
