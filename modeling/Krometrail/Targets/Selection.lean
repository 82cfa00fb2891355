import Krometrail.Targets.Custody

/-!
# The selection

A selection that the supervisor keeps names an eligible target, and it falls back to the least eligible one.  What a
move does to the eligible targets depends on its act: most acts leave them alone, an attachment adds a target, and the
end of a target or the loss of the connection takes targets away.  A reduction first takes targets away and then adds
some, so the fallback is the least of the targets that were eligible before and stay eligible.
-/

namespace Krometrail

open Std (ExtTreeMap)
open Runs (Run)
open TargetLifecycle (discovered attached recording suspended closed failed)

/-! ### Eligible targets -/

variable {core : TargetCore} {key : String} {act : Act}

@[simp] theorem Change.isCandidate_core {change : Change} : (change.core core).isCandidate = core.isCandidate := by
  have hsuspended : ((change.core core).lifecycle == suspended) = (core.lifecycle == suspended) := by
    cases change with
    | visibilityObserved visibility =>
      simp only [Change.core]
      split
      · rfl
      · cases core.lifecycle <;> cases visibility <;> rfl
    | visibilityRestored _ | captureStartFailed _ | visibilityProbeFailed => rfl
  unfold TargetCore.isCandidate
  rw [Change.transportSession_core, Change.isTerminal_core, hsuspended]

theorem TargetCore.not_isCandidate_of_isTerminal (h : core.isTerminal = true) : core.isCandidate = false := by
  simp [TargetCore.isCandidate, h]

theorem TargetCore.not_isCandidate_of_session (h : core.transportSession = none) : core.isCandidate = false := by
  simp [TargetCore.isCandidate, h]

theorem TargetCore.isCandidate_suspend (core : TargetCore) : core.suspend.isCandidate = false := by
  unfold TargetCore.suspend
  split
  · rename_i hterminal
    exact not_isCandidate_of_isTerminal hterminal
  · split <;> exact not_isCandidate_of_session rfl

/-- The act makes a target eligible. -/
def Act.Gains (key : String) : Act → Prop
  | .create key' _ | .adopt key' _ _ | .deliver key' _ _ => key' = key
  | _ => False

/-- The act takes an eligible target away. -/
def Act.Drops : Act → Prop
  | .finish .. | .lose => True
  | _ => False

/-- The core of an eligible target. -/
def Eligible (core : Option TargetCore) : Prop := core.any (·.isCandidate) = true

theorem eligible_some : Eligible (some core) ↔ core.isCandidate = true := by simp [Eligible]

theorem CoreMove.eligible_of {pending : Option TransportSessionId} {before after : Option TargetCore}
    (h : CoreMove key pending act before after) (hact : ¬act.Gains key) (hafter : Eligible after) : Eligible before := by
  cases h with
  | same => exact hafter
  | created | createdAttached | adopted | delivered => exact absurd rfl hact
  | finished => simp [eligible_some, TargetCore.isCandidate] at hafter
  | revised enabled => simpa [eligible_some] using hafter
  | lost =>
    cases before with
    | none => exact hafter
    | some core => simp [eligible_some, TargetCore.isCandidate_suspend] at hafter
  | reclaimed =>
    cases before with
    | none => exact hafter
    | some core =>
      unfold Eligible at hafter ⊢
      cases hterminal : core.isTerminal <;> simp_all [Option.filter]
  | released terminal => simp [eligible_some, TargetCore.isCandidate] at hafter

theorem CoreMove.eligible {pending : Option TransportSessionId} {before after : Option TargetCore}
    (h : CoreMove key pending act before after) (hact : ¬act.Drops) (hsound : ∀ core, before = some core → core.Sound)
    (hbefore : Eligible before) : Eligible after := by
  cases h with
  | same => exact hbefore
  | created vacant | createdAttached vacant =>
    obtain ⟨core, rfl, hcandidate⟩ := (Option.any_eq_true _ _).1 hbefore
    simp [TargetCore.isCandidate, vacant core rfl] at hcandidate
  | adopted held live other allowed =>
    have hnone := ((hsound _ rfl).allows_resumed_iff live).1 allowed
    simp [eligible_some, TargetCore.isCandidate, hnone] at hbefore
  | delivered live other allowed =>
    have hnone := ((hsound _ rfl).allows_resumed_iff live).1 allowed
    simp [eligible_some, TargetCore.isCandidate, hnone] at hbefore
  | finished | lost => exact absurd trivial hact
  | revised enabled => simpa [eligible_some] using hbefore
  | reclaimed =>
    cases before with
    | none => exact hbefore
    | some core =>
      have hlive : core.isTerminal = false := by
        rw [eligible_some] at hbefore
        unfold TargetCore.isCandidate at hbefore
        cases hterminal : core.isTerminal <;> simp_all
      simpa [Option.filter, hlive] using hbefore
  | released terminal => simp [eligible_some, TargetCore.isCandidate, terminal] at hbefore

theorem selectionCandidate_iff {state : SupervisorState} :
    selectionCandidate state key = true ↔ Eligible (state.coreAt key) := by
  rw [selectionCandidate_eq]
  rfl

theorem reconcileSelection_selected (r : Reduction) :
    (reconcileSelection r).state.selectedTargetKey = r.state.selectedTargetKey ∨
      r.state.selectedTargetKey.any (selectionCandidate (reconcileSelection r).state) = false ∧
        (reconcileSelection r).state.selectedTargetKey = leastCandidate (reconcileSelection r).state := by
  obtain ⟨selected, revision, es, -, hselected, heq⟩ := reconcileSelection_eq r
  rw [heq]
  exact hselected.imp (fun h => h.1) fun h => h

@[simp] theorem selectionCandidate_reconcileCaptureBindings (order : VisitOrder) (r : Reduction) (key : String) :
    selectionCandidate (reconcileCaptureBindings order r).state key = selectionCandidate r.state key := by
  rw [selectionCandidate_eq, selectionCandidate_eq, coreAt_reconcileCaptureBindings]
  cases r.state.coreAt key <;> rfl

/-- What a move does to the selection: it keeps it, chooses a key, or replaces a key that is not eligible by the least
one that is. -/
theorem Move.selected {r r' : Reduction} (h : Move act r r') :
    r'.state.selectedTargetKey = r.state.selectedTargetKey ∨ (∃ key, act = .select key) ∨
      r.state.selectedTargetKey.any (selectionCandidate r'.state) = false ∧
        r'.state.selectedTargetKey = leastCandidate r'.state := by
  cases h with
  | note | renew | enter | hold | unhold | forget | lose | reclaim | annotate | create | release | releaseTerminal
  | revise => exact .inl rfl
  | repair => exact (reconcileSelection_selected r).imp_right .inr
  | select => exact .inr (.inl ⟨_, rfl⟩)
  | adopt pending attaches | createAdopt vacant fresh hashed pending attaches | deliver attaches =>
    obtain ⟨_, _, -, -, rfl⟩ := attaches.result
    exact .inl rfl
  | finish tracked enabled result quiet emitted => exact (reconcileSelection_selected _).imp_right .inr

theorem Move.selectionSound {r r' : Reduction} (h : Move act r r') (hact : act ≠ .lose)
    (hsound : ∀ key core, r.state.coreAt key = some core → core.Sound) (hr : r.state.SelectionSound) :
    r'.state.SelectionSound := by
  intro key hkey
  rcases h.selected with hsame | ⟨key', rfl⟩ | ⟨-, hleast⟩
  · have hbefore := selectionCandidate_iff.1 (hr key (hsame ▸ hkey))
    by_cases hdrops : act.Drops
    · cases h with
      | finish => exact selectionSound_reconcileSelection _ key hkey
      | lose => exact absurd rfl hact
      | _ => exact hdrops.elim
    · exact selectionCandidate_iff.2 ((h.coreAt key).eligible hdrops (hsound key) hbefore)
  · cases h with
    | select candidate =>
      obtain ⟨_, _, -, heq⟩ := setSelection_eq r (some key')
      rw [heq] at hkey ⊢
      cases hkey
      exact candidate
  · exact (leastCandidate_eq_some (hleast ▸ hkey)).1

section

variable {A : Act → Prop} {r r' : Reduction}

/-- The moves of a reduction that makes no target eligible and does not choose a target: the selection stays, or it
falls back to the least target that is still eligible. -/
theorem Moves.fallback (h : Moves A r r') (hgains : ∀ act key, A act → ¬act.Gains key) (hlose : ¬A .lose)
    (hselect : ∀ key, ¬A (.select key))
    (hsound : r.state.Entries (fun _ core => core.Sound ∧ core.BindingSound) fun _ _ => True)
    (hr : r.state.SelectionSound) :
    (∀ key, selectionCandidate r'.state key = true → selectionCandidate r.state key = true) ∧
      r'.state.SelectionSound ∧
      (r'.state.selectedTargetKey = r.state.selectedTargetKey ∨
        ∀ key, selectionCandidate r'.state key = true → ∃ key', r'.state.selectedTargetKey = some key' ∧ key' ≤ key) := by
  have hinv := h.invariant (P := fun r' => Moves A r r' ∧
    (∀ key, selectionCandidate r'.state key = true → selectionCandidate r.state key = true) ∧ r'.state.SelectionSound ∧
      (r'.state.selectedTargetKey = r.state.selectedTargetKey ∨
        ∀ key, selectionCandidate r'.state key = true → ∃ key', r'.state.selectedTargetKey = some key' ∧ key' ≤ key))
    ?_ ⟨.refl, fun _ => id, hr, .inl rfl⟩
  · exact hinv.2
  rintro act r₁ r₂ hA hm ⟨hmoves, hback, hselection, hfallback⟩
  have hcores : ∀ key core, r₁.state.coreAt key = some core → core.Sound := fun key core hcore =>
    ((hmoves.entries keeps_sound hsound).cores key core hcore).1
  have hof : ∀ key, selectionCandidate r₂.state key = true → selectionCandidate r₁.state key = true := fun key hkey =>
    selectionCandidate_iff.2 ((hm.coreAt key).eligible_of (hgains act key hA) (selectionCandidate_iff.1 hkey))
  have hnot : act ≠ .lose := by
    rintro rfl
    exact hlose hA
  refine ⟨hmoves.trans (.single hA hm), fun key hkey => hback key (hof key hkey), hm.selectionSound hnot hcores hselection, ?_⟩
  rcases hm.selected with hsame | ⟨key, rfl⟩ | ⟨-, hleast⟩
  · rw [hsame]
    exact hfallback.imp_right fun hle key hkey => hle key (hof key hkey)
  · exact absurd hA (hselect key)
  · refine .inr fun key hkey => ?_
    rw [hleast]
    cases hnone : leastCandidate r₂.state with
    | none => cases (leastCandidate_eq_none hnone key).symm.trans hkey
    | some key' => exact ⟨key', rfl, (leastCandidate_eq_some hnone).2 key hkey⟩

/-- The moves of a reduction that takes no eligible target away and does not choose a target: the selection stays when
there is one. -/
theorem Moves.stable (h : Moves A r r') (hdrops : ∀ act, A act → ¬act.Drops) (hselect : ∀ key, ¬A (.select key))
    (hsound : r.state.Entries (fun _ core => core.Sound ∧ core.BindingSound) fun _ _ => True)
    (hr : r.state.SelectionSound) :
    (∀ key, selectionCandidate r.state key = true → selectionCandidate r'.state key = true) ∧
      r'.state.SelectionSound ∧
      (r'.state.selectedTargetKey = r.state.selectedTargetKey ∨ r.state.selectedTargetKey = none) := by
  have hinv := h.invariant (P := fun r' => Moves A r r' ∧
    (∀ key, selectionCandidate r.state key = true → selectionCandidate r'.state key = true) ∧ r'.state.SelectionSound ∧
      (r'.state.selectedTargetKey = r.state.selectedTargetKey ∨ r.state.selectedTargetKey = none))
    ?_ ⟨.refl, fun _ => id, hr, .inl rfl⟩
  · exact hinv.2
  rintro act r₁ r₂ hA hm ⟨hmoves, hkeep, hselection, hstable⟩
  have hcores : ∀ key core, r₁.state.coreAt key = some core → core.Sound := fun key core hcore =>
    ((hmoves.entries keeps_sound hsound).cores key core hcore).1
  have hof : ∀ key, selectionCandidate r₁.state key = true → selectionCandidate r₂.state key = true := fun key hkey =>
    selectionCandidate_iff.2 ((hm.coreAt key).eligible (hdrops act hA) (hcores key) (selectionCandidate_iff.1 hkey))
  have hnot : act ≠ .lose := by
    rintro rfl
    exact hdrops _ hA trivial
  refine ⟨hmoves.trans (.single hA hm), fun key hkey => hof key (hkeep key hkey), hm.selectionSound hnot hcores hselection, ?_⟩
  rcases hm.selected with hsame | ⟨key, rfl⟩ | ⟨hineligible, -⟩
  · rw [hsame]
    exact hstable
  · exact absurd hA (hselect key)
  · rcases hstable with hsame | hnone
    · cases hselected : r₁.state.selectedTargetKey with
      | none => exact .inr (hsame.symm.trans hselected)
      | some key =>
        rw [hselected, Option.any_some, hof key (hselection key hselected)] at hineligible
        cases hineligible
    · exact .inr hnone

theorem Moves.candidate_of (h : Moves A r r') {key : String} (hgains : ∀ act, A act → ¬act.Gains key)
    (hkey : selectionCandidate r'.state key = true) : selectionCandidate r.state key = true := by
  refine h.invariant (P := fun r' => selectionCandidate r'.state key = true → selectionCandidate r.state key = true)
    (fun act r₁ r₂ hA hm ih hkey => ih ?_) id hkey
  exact selectionCandidate_iff.2 ((hm.coreAt key).eligible_of (hgains act hA) (selectionCandidate_iff.1 hkey))

end

/-! ### One observation -/

/-- The target is eligible before and after. -/
def StaysEligible (state state' : SupervisorState) (key : String) : Prop :=
  selectionCandidate state key = true ∧ selectionCandidate state' key = true

/-- When the selected target is no longer eligible, the selection falls back to the least target that stays eligible;
when there is none, it is empty, or a target that has just become eligible. -/
def FallsBack (state state' : SupervisorState) : Prop :=
  ∀ key, state.selectedTargetKey = some key → selectionCandidate state key = true →
    selectionCandidate state' key = false →
    ((∃ key', StaysEligible state state' key') →
      ∃ key', state'.selectedTargetKey = some key' ∧ IsLeast {key | StaysEligible state state' key} key') ∧
    ((¬∃ key', StaysEligible state state' key') → ∀ key', state'.selectedTargetKey = some key' →
      selectionCandidate state key' = false ∧ selectionCandidate state' key' = true)

variable {state state' : SupervisorState} {r r' : Reduction}

theorem FallsBack.of_stable (hkeep : ∀ key, selectionCandidate state key = true → selectionCandidate state' key = true) :
    FallsBack state state' := fun key _ hbefore hafter => absurd ((hkeep key hbefore).symm.trans hafter) nofun

theorem FallsBack.of_phases {state₁ : SupervisorState}
    (hback : ∀ key, selectionCandidate state₁ key = true → selectionCandidate state key = true)
    (hsound₁ : state₁.SelectionSound) (hfallback : state₁.selectedTargetKey = state.selectedTargetKey ∨
      ∀ key, selectionCandidate state₁ key = true → ∃ key', state₁.selectedTargetKey = some key' ∧ key' ≤ key)
    (hkeep : ∀ key, selectionCandidate state₁ key = true → selectionCandidate state' key = true)
    (hsound' : state'.SelectionSound)
    (hstable : state'.selectedTargetKey = state₁.selectedTargetKey ∨ state₁.selectedTargetKey = none)
    (hstays : ∀ key, StaysEligible state state' key → selectionCandidate state₁ key = true) : FallsBack state state' := by
  intro key hselected hbefore hafter
  have hfallback : ∀ key, selectionCandidate state₁ key = true →
      ∃ key', state₁.selectedTargetKey = some key' ∧ key' ≤ key := by
    refine hfallback.resolve_left fun hsame => ?_
    have hstill := hkeep key (hsound₁ key (hsame.trans hselected))
    cases hstill.symm.trans hafter
  refine ⟨fun ⟨key', hstay⟩ => ?_, fun hnone key' hkey' => ?_⟩
  · obtain ⟨least, hleast, -⟩ := hfallback key' (hstays key' hstay)
    have hselected' : state'.selectedTargetKey = some least :=
      hstable.elim (·.trans hleast) fun hnone => absurd (hnone.symm.trans hleast) nofun
    refine ⟨least, hselected', ⟨hback least (hsound₁ least hleast), hsound' least hselected'⟩, fun key'' hstay' => ?_⟩
    obtain ⟨least', hleast', hle⟩ := hfallback key'' (hstays key'' hstay')
    obtain rfl := Option.some.inj (hleast.symm.trans hleast')
    exact hle
  · have hcandidate := hsound' key' hkey'
    refine ⟨?_, hcandidate⟩
    cases hwas : selectionCandidate state key' with
    | false => rfl
    | true => exact absurd ⟨key', hwas, hcandidate⟩ hnone

theorem Moves.fallsBack {A : Act → Prop} (h : Moves A r r') (hgains : ∀ act key, A act → ¬act.Gains key) (hlose : ¬A .lose)
    (hselect : ∀ key, ¬A (.select key))
    (hsound : r.state.Entries (fun _ core => core.Sound ∧ core.BindingSound) fun _ _ => True) (hr : r.state.SelectionSound)
    : FallsBack r.state r'.state := by
  obtain ⟨hback, hselection, hfallback⟩ := h.fallback hgains hlose hselect hsound hr
  exact .of_phases hback hselection hfallback (fun _ => id) hselection (.inl rfl) fun _ hstay => hstay.2

theorem stays_of_kept {A : Act → Prop} {r₁ r₂ : Reduction} {kept : List String}
    (hended : ∀ key, r₁.state.coreAt key = if key ∈ kept then r.state.coreAt key
      else (r.state.coreAt key).map TargetCore.destroyed)
    (h : Moves A r₂ r') (hsame : ∀ key, r₂.state.coreAt key = r₁.state.coreAt key)
    (hgains : ∀ key act, key ∉ kept → A act → ¬act.Gains key) (key : String) (hstay : StaysEligible r.state r'.state key)
    : selectionCandidate r₁.state key = true := by
  rw [selectionCandidate_iff]
  by_cases hkept : key ∈ kept
  · rw [hended, if_pos hkept]
    exact selectionCandidate_iff.1 hstay.1
  · rw [← hsame]
    exact selectionCandidate_iff.1 (h.candidate_of (fun act => hgains key act hkept) hstay.2)

theorem reconcileOne_fallsBack {info : TransportTargetInfo} {creationEvent : Bool}
    (h : reconcileOne { state, effects := [] } info creationEvent = .ok r) (hsound : state.Sound)
    (hselection : state.SelectionSound) : FallsBack state r.state := by
  cases hrecordable : info.isRecordable with
  | false =>
    have hmoves : Moves (fun act => (∀ key, ¬act.Gains key) ∧ act ≠ .lose ∧ ∀ key, act ≠ .select key)
        { state, effects := [] } r := by
      refine reconcileOne_moves h (fun _ _ => ?_) (fun _ => ?_) ?_ ?_ ?_ (fun hyes => ?_) fun hyes => ?_
      iterate 5 simp [Act.Gains]
      all_goals exact absurd (hrecordable.symm.trans hyes) nofun
    exact hmoves.fallsBack (fun act key hA => hA.1 key) (fun hA => hA.2.1 rfl) (fun key hA => hA.2.2 key rfl)
      hsound.entries hselection
  | true =>
    have hmoves : Moves (fun act => ¬act.Drops ∧ ∀ key, act ≠ .select key) { state, effects := [] } r := by
      refine reconcileOne_moves h (fun hnot => ?_) (fun _ => ?_) ?_ ?_ ?_ (fun _ _ => ?_) fun _ _ _ => ?_
      · cases hrecordable.symm.trans hnot
      all_goals simp [Act.Drops]
    exact .of_stable (hmoves.stable (fun act hA => hA.1) (fun key hA => hA.2 key rfl) hsound.entries hselection).1

theorem attach_fallsBack {key : String} {session : TransportSessionId} {probeVisibility unsolicited : Bool}
    (h : attach { state, effects := [] } key session probeVisibility unsolicited = .ok r) (hsound : state.Sound)
    (hselection : state.SelectionSound) : FallsBack state r.state := by
  have hmoves : Moves (fun act => ¬act.Drops ∧ ∀ key, act ≠ .select key) { state, effects := [] } r :=
    attach_moves h (fun _ => by simp [Act.Drops]) fun _ _ => by simp [Act.Drops]
  exact .of_stable (hmoves.stable (fun act hA => hA.1) (fun key hA => hA.2 key rfl) hsound.entries hselection).1

theorem Missing.not_gains {kept : List String} {act : Act} (h : Missing kept act) (key : String) : ¬act.Gains key := by
  cases act with
  | renew | finish => exact id
  | _ => exact h.elim

theorem observe_fallsBack {order : VisitOrder} {payload : SupervisorInput}
    (h : observe order { state, effects := [] } payload = .ok r) (hlost : payload ≠ .connectionLost) (hsound : state.Sound)
    (hselection : state.SelectionSound) : FallsBack state r.state := by
  cases payload with
  | initialTargets infos =>
    obtain ⟨r₁, hmissing, hended, hestablishes⟩ := reconcileInitial_phases h
    obtain ⟨hback, hsound₁, hfallback⟩ := hmissing.fallback (fun _ key hA => hA.not_gains key)
      id (fun _ => id) hsound.entries hselection
    obtain ⟨hkeep, hsound', hstable⟩ := hestablishes.stable (fun act hA => by cases act <;> simp_all [Establishes, Act.Drops])
      (fun _ => id) (hmissing.entries keeps_sound hsound.entries) hsound₁
    refine .of_phases hback hsound₁ hfallback hkeep hsound' hstable
      (stays_of_kept hended hestablishes (fun _ => rfl) fun key act hkept hA => ?_)
    cases act <;> simp_all [Establishes, Act.Gains] <;> (rintro rfl; exact hkept hA)
  | reconnected snapshot =>
    obtain rfl | ⟨-, -, -, r₁, hmissing, hended, hrestores⟩ := reconnect_phases h
    · exact .of_stable fun _ => id
    obtain ⟨hback, hsound₁, hfallback⟩ := hmissing.fallback (fun _ key hA => hA.not_gains key)
      id (fun _ => id) hsound.entries hselection
    have hentries := (hmissing.entries keeps_sound hsound.entries).cores
    obtain ⟨hkeep, hsound', hstable⟩ := hrestores.stable (fun act hA => by cases act <;> simp_all [Restores, Act.Drops])
      (fun _ => id) ⟨hentries, fun _ _ _ => trivial⟩ hsound₁
    refine .of_phases hback hsound₁ hfallback hkeep hsound' hstable
      (stays_of_kept hended hrestores (fun _ => rfl) fun key act hkept hA hgains => hkept ?_)
    cases act with
    | create key' _ =>
      obtain rfl := hgains
      obtain ⟨e, he, rfl⟩ := hA
      exact List.mem_map_of_mem he
    | deliver key' _ _ =>
      obtain rfl := hgains
      obtain ⟨e, he, rfl, -⟩ := hA
      exact List.mem_map_of_mem he
    | adopt => exact hA.elim
    | _ => exact hgains.elim
  | targetCreated info | targetInfoChanged info => exact reconcileOne_fallsBack h hsound hselection
  | attached key session | unsolicitedAttached key session => exact attach_fallsBack h hsound hselection
  | selectTarget key =>
    refine .of_stable fun key' hkey' => ?_
    unfold observe selectTarget at h
    simp only at h
    split at h
    · obtain ⟨_, _, -, heq⟩ := setSelection_eq { state, effects := [] } (some key)
      cases h
      rw [heq]
      exact hkey'
    · cases h
  | connectionLost => exact absurd rfl hlost
  | _ =>
    refine (observe_moves h).fallsBack (fun act key hA hgains => ?_) (fun hA => ?_) (fun key hA => ?_) hsound.entries
      hselection
    · cases act <;> simp_all [SupervisorInput.Permits, SupervisorInput.kept, SupervisorInput.Delivers,
        SupervisorInput.restored, Act.Gains]
    · simp [SupervisorInput.Permits] at hA
    · simp [SupervisorInput.Permits] at hA

/-- A supervisor that connects or is ready has a sound selection. -/
def SupervisorState.SelectionKept (state : SupervisorState) : Prop :=
  state.sessionState = .connecting ∨ state.sessionState = .ready → state.SelectionSound

theorem Move.selectionKept {act : Act} (h : Move act r r') (hact : act ≠ .lose)
    (hsound : ∀ key core, r.state.coreAt key = some core → core.Sound) (hr : r.state.SelectionKept) :
    r'.state.SelectionKept := by
  intro hopen
  rcases h.sessionState with hsame | ⟨hentered, hallowed⟩
  · exact h.selectionSound hact hsound (hr (by rwa [hsame] at hopen))
  · rcases hopen with hconnecting | hready
    · rw [hconnecting] at hallowed
      cases hbefore : r.state.sessionState <;> simp [hbefore, BrowserSessionState.allows] at hallowed
    · rw [hready] at hentered
      subst hentered
      cases h with
      | enter allowed selected => exact selected rfl

theorem SupervisorState.SelectionKept.step {input : SupervisorInput} {effects : List SupervisorEffect} (h : state.SelectionKept)
    (hsound : state.Sound) (hstep : supervision.step state input effects state') : state'.SelectionKept := by
  obtain ⟨-, rfl, -⟩ | ⟨payload, order, r, haccepted, hr, hpass⟩ := supervision_step_cases hstep
  · exact h
  suffices H : r.state.SelectionKept by
    obtain rfl := congrArg Reduction.state hpass
    intro hopen key hkey
    rw [sessionState_reconcileCaptureBindings] at hopen
    rw [selection_reconcileCaptureBindings] at hkey
    rw [selectionCandidate_reconcileCaptureBindings]
    exact H hopen key hkey
  by_cases hlost : payload = .connectionLost
  · subst hlost
    obtain ⟨r₁, es, hr₁, -, rfl⟩ := connectionLost_cases hr
    have hsession : r₁.state.sessionState = .reconnecting := setSessionState_sessionState hr₁
    rintro (hopen | hopen) <;> exact absurd (hsession.symm.trans hopen) nofun
  have hinv := (observe_moves hr).invariant (P := fun r => Moves (payload.Permits state) { state, effects := [] } r ∧
    r.state.SelectionKept) ?_ ⟨.refl, h⟩
  · exact hinv.2
  rintro act r₁ r₂ hA hm ⟨hmoves, hkept⟩
  have hnot : act ≠ .lose := by
    rintro rfl
    exact hlost hA
  have hcores := (hmoves.entries keeps_sound hsound.entries).cores
  exact ⟨hmoves.trans (.single hA hm), hm.selectionKept hnot (fun key core hcore => (hcores key core hcore).1) hkept⟩

theorem selectionKept_of_reachable (h : supervision.Reachable state) : state.SelectionKept := by
  suffices H : state.Sound ∧ state.SelectionKept from H.2
  refine h.invariant (P := fun state => state.Sound ∧ state.SelectionKept) ?_ ?_
  · rintro _ ⟨compatibility, rfl⟩
    exact ⟨.new compatibility, nofun⟩
  · rintro state input effects state' ⟨hsound, hkept⟩ hstep
    exact ⟨hsound.step hstep, hkept.step hsound hstep⟩

/-- The selection of a ready supervisor names a target with a session that is neither terminal nor suspended, and every
reduction but the loss of the connection falls back when the selected target is no longer eligible. -/
theorem selection_sound :
    (∀ state, supervision.Reachable state → state.sessionState = .ready → ∀ key : String,
      state.selectedTargetKey = some key → ∃ target : SupervisorTargetState, state.targetsByKey[key]? = some target ∧
        target.transportSession.isSome = true ∧ target.isTerminal = false ∧ target.lifecycle ≠ suspended) ∧
    ∀ state, supervision.Reachable state → ∀ input effects state', supervision.step state input effects state' →
      input.accepted state ≠ some .connectionLost → FallsBack state state' := by
  constructor
  · intro state hreachable hready key hkey
    have hcandidate := selectionKept_of_reachable hreachable (.inr hready) key hkey
    obtain ⟨target, htarget, hcandidate⟩ := (Option.any_eq_true _ _).1 hcandidate
    refine ⟨target, htarget, ?_⟩
    simpa [SupervisorTargetState.isCandidate, not_or] using hcandidate
  · intro state hreachable input effects state' hstep hlost
    obtain ⟨-, rfl, -⟩ | ⟨payload, order, r, haccepted, hr, hpass⟩ := supervision_step_cases hstep
    · exact .of_stable fun _ => id
    intro key hselected hbefore
    have hselection : state.SelectionSound := fun key' hkey' => Option.some.inj (hselected.symm.trans hkey') ▸ hbefore
    have hfalls := observe_fallsBack hr (fun heq => hlost (heq ▸ haccepted)) (sound_of_reachable hreachable) hselection
    obtain rfl := congrArg Reduction.state hpass
    have hcandidates : ∀ key, selectionCandidate (reconcileCaptureBindings order r).state key =
        selectionCandidate r.state key := selectionCandidate_reconcileCaptureBindings order r
    simp only [FallsBack, StaysEligible, hcandidates, selection_reconcileCaptureBindings] at hfalls ⊢
    exact hfalls key hselected hbefore

/-- The destruction of the selected page makes the supervisor fall back to the other one. -/
theorem selection_sound_destroyed : ∃ state effects state', supervision.Reachable state ∧
    state.selectedTargetKey = some "a" ∧ supervision.step state (.targetDestroyed "a") effects state' ∧
    FallsBack state state' ∧ state'.selectedTargetKey = some "b" := by
  obtain ⟨trace, state, hrun, htest⟩ := exists_unguardedRun
    [.initialTargets [pageA], .attached "a" sessionA, .initialReconciliationCompleted, .targetCreated pageB,
      .attached "b" sessionB]
    (fun _ state => state.selectedTargetKey == some "a" &&
      ((SupervisorInput.targetDestroyed "a").accepted state).any (· matches .targetDestroyed _) &&
      (execute state (.targetDestroyed "a")).any fun next => next.2.selectedTargetKey == some "b") (by decide +kernel)
  simp only [Bool.and_eq_true, beq_iff_eq] at htest
  obtain ⟨⟨hselected, haccepted⟩, hnext⟩ := htest
  obtain ⟨⟨effects, state'⟩, hnext, hselected'⟩ := (Option.any_eq_true _ _).1 hnext
  have hstep := step_of_execute hnext
  have hlost : (SupervisorInput.targetDestroyed "a").accepted state ≠ some .connectionLost := by
    intro hlost
    simp [hlost] at haccepted
  exact ⟨state, effects, state', hrun.reachable, hselected, hstep,
    selection_sound.2 state hrun.reachable _ effects state' hstep hlost, by simpa using hselected'⟩

/-- The loss of the connection leaves a selection that is no longer eligible. -/
theorem lost_selection_dangles : ¬∀ state, supervision.Reachable state → ∀ input effects state',
    supervision.step state input effects state' → ∀ key, state.selectedTargetKey = some key →
      selectionCandidate state key = true → selectionCandidate state' key = false →
      state'.selectedTargetKey = leastCandidate state' := by
  intro h
  obtain ⟨trace, state, hrun, htest⟩ := exists_unguardedRun
    [.initialTargets [pageA], .attached "a" sessionA, .initialReconciliationCompleted]
    (fun _ state => state.selectedTargetKey == some "a" && selectionCandidate state "a" &&
      (execute state .connectionLost).any fun next => !selectionCandidate next.2 "a" &&
        next.2.selectedTargetKey == some "a" && (leastCandidate next.2).isNone) (by decide)
  simp only [Bool.and_eq_true, beq_iff_eq] at htest
  obtain ⟨⟨hselected, hbefore⟩, hnext⟩ := htest
  obtain ⟨⟨effects, state'⟩, hnext, htest⟩ := (Option.any_eq_true _ _).1 hnext
  simp only [Bool.and_eq_true, Bool.not_eq_true', beq_iff_eq, Option.isNone_iff_eq_none] at htest
  obtain ⟨⟨hafter, hkept⟩, hnone⟩ := htest
  have hleast := h state hrun.reachable .connectionLost effects state' (step_of_execute hnext) "a" hselected hbefore hafter
  cases hkept.symm.trans (hleast.trans hnone)

end Krometrail
