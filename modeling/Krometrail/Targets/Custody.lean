import Krometrail.Targets.SessionMap

/-!
# Custody of the delivered sessions

A session that the transport delivers stays with the supervisor, in a target or among the pending sessions, until the
supervisor detaches it.  A reduction only detaches sessions that it takes away from the key that holds them
(`Moves.released`), so as long as every session has one key, nothing that is detached is still held.
-/

namespace Krometrail

open Std (ExtTreeMap)
open Runs (Run)
open TargetLifecycle (discovered attached recording suspended closed failed)

/-- The session is attached to a target that is not terminal, or it is pending. -/
def SupervisorState.InCustody (state : SupervisorState) (session : TransportSessionId) : Prop :=
  (∃ (key : String) (target : SupervisorTargetState), state.targetsByKey[key]? = some target ∧
    target.isTerminal = false ∧ target.transportSession = some session) ∨
    ∃ key : String, state.pendingAttachedSessions[key]? = some session

theorem SupervisorState.inCustody_iff {state : SupervisorState} {session : TransportSessionId} :
    state.InCustody session ↔
      (∃ key core, state.coreAt key = some core ∧ core.isTerminal = false ∧ core.transportSession = some session) ∨
        ∃ key : String, state.pendingAttachedSessions[key]? = some session := by
  refine or_congr_left (exists_congr fun key => ⟨?_, ?_⟩)
  · rintro ⟨target, htarget, hlive, hsession⟩
    exact ⟨target.core, coreAt_of_getElem? htarget, hlive, hsession⟩
  · rintro ⟨core, hcore, hlive, hsession⟩
    obtain ⟨target, htarget, rfl⟩ := exists_of_coreAt hcore
    exact ⟨target, htarget, hlive, hsession⟩

theorem SupervisorState.InCustody.holds {state : SupervisorState} {session : TransportSessionId}
    (h : state.InCustody session) : ∃ key, state.Holds session key := by
  rcases inCustody_iff.1 h with ⟨key, core, hcore, -, hsession⟩ | ⟨key, hpending⟩
  · exact ⟨key, .inl ⟨core, hcore, hsession⟩⟩
  · exact ⟨key, .inr hpending⟩

theorem inCustody_reconcileCaptureBindings (order : VisitOrder) {r : Reduction} {session : TransportSessionId} :
    (reconcileCaptureBindings order r).state.InCustody session ↔ r.state.InCustody session := by
  rw [SupervisorState.inCustody_iff, SupervisorState.inCustody_iff, pending_reconcileCaptureBindings]
  refine or_congr_left (exists_congr fun key => ?_)
  rw [coreAt_reconcileCaptureBindings]
  cases r.state.coreAt key with
  | none => simp
  | some core => simp [TargetCore.bound, TargetCore.isTerminal]

theorem mem_evictPending {sessions : ExtTreeMap String TransportSessionId} {effects : List SupervisorEffect}
    {order : List String} {effect : SupervisorEffect} :
    effect ∈ (evictPending sessions effects order).2.2 ↔ effect ∈ effects ∨
      ∃ (key : String) (session : TransportSessionId), sessions[key]? = some session ∧
        (evictPending sessions effects order).1[key]? = none ∧ effect = .detach session := by
  induction order generalizing sessions effects with
  | nil =>
    refine ⟨.inl, fun h => h.resolve_right ?_⟩
    rintro ⟨key, session, hheld, hgone, -⟩
    cases hheld.symm.trans hgone
  | cons oldest order ih =>
    have hkept : (∃ (key : String) (session : TransportSessionId), sessions[key]? = some session ∧
        sessions[key]? = none ∧ effect = .detach session) → effect ∈ effects := by
      rintro ⟨key, session, hheld, hgone, -⟩
      cases hheld.symm.trans hgone
    unfold evictPending
    split
    · cases holdest : sessions[oldest]? with
      | none => exact ih
      | some first =>
        have hgone : (evictPending (sessions.erase oldest) (effects ++ [.detach first]) order).1[oldest]? = none := by
          cases h : (evictPending (sessions.erase oldest) (effects ++ [.detach first]) order).1[oldest]? with
          | none => rfl
          | some session => exact absurd rfl (pending_erase (evictPending_subset h)).1
        simp only [ih, List.mem_append, List.mem_singleton]
        constructor
        · rintro ((h | rfl) | ⟨key, session, hheld, hkey, rfl⟩)
          · exact .inl h
          · exact .inr ⟨oldest, first, holdest, hgone, rfl⟩
          · exact .inr ⟨key, session, (pending_erase hheld).2, hkey, rfl⟩
        · rintro (h | ⟨key, session, hheld, hkey, rfl⟩)
          · exact .inl (.inl h)
          · by_cases hsame : oldest = key
            · subst hsame
              obtain rfl := Option.some.inj (holdest.symm.trans hheld)
              exact .inl (.inr rfl)
            · refine .inr ⟨key, session, ?_, hkey, rfl⟩
              rw [Tables.getElem?_erase, if_neg hsame]
              exact hheld
    · exact ⟨.inl, fun h => h.elim id hkept⟩

theorem evictPending_custody {sessions : ExtTreeMap String TransportSessionId} (effects : List SupervisorEffect)
    (order : List String) {key : String} {session : TransportSessionId} (h : sessions[key]? = some session) :
    (evictPending sessions effects order).1[key]? = some session ∨
      .detach session ∈ (evictPending sessions effects order).2.2 := by
  cases hkept : (evictPending sessions effects order).1[key]? with
  | none => exact .inr (mem_evictPending.2 (.inr ⟨key, session, h, hkept, rfl⟩))
  | some kept =>
    obtain rfl := Option.some.inj ((evictPending_subset hkept).symm.trans h)
    exact .inl rfl

/-! ### One move -/

/-- No tracked target has a pending session. -/
def SupervisorState.Apart (state : SupervisorState) : Prop :=
  ∀ key core, state.coreAt key = some core → state.pendingAttachedSessions[key]? = none

theorem SupervisorState.Apart.of_update {state state' : SupervisorState} {key : String} {core : TargetCore}
    (h : state.Apart) (hnone : state'.pendingAttachedSessions[key]? = none)
    (hcores : ∀ key', state'.coreAt key' = if key = key' then some core else state.coreAt key')
    (hpending : ∀ (key' : String) (session : TransportSessionId), state'.pendingAttachedSessions[key']? = some session →
      state.pendingAttachedSessions[key']? = some session) : state'.Apart := by
  intro key' core' hcore'
  rw [hcores] at hcore'
  split at hcore'
  · rename_i hkey
    exact hkey ▸ hnone
  · cases hsession : state'.pendingAttachedSessions[key']? with
    | none => rfl
    | some session => cases (h key' core' hcore').symm.trans (hpending key' session hsession)

theorem Move.apart {act : Act} {r r' : Reduction} (h : Move act r r') (hr : r.state.Apart) : r'.state.Apart := by
  cases h with
  | note | renew | enter => exact hr
  | repair => exact fun key core hcore => by simpa using hr key core (by simpa using hcore)
  | select candidate =>
    obtain ⟨_, _, -, heq⟩ := setSelection_eq r (some _)
    rw [heq]
    exact hr
  | hold unsolicited untracked =>
    rename_i key session
    intro key' core' hcore'
    have hcore' : r.state.coreAt key' = some core' := hcore'
    cases hheld : (holdPending r key session unsolicited).state.pendingAttachedSessions[key']? with
    | none => rfl
    | some session' =>
      have hinserted := evictPending_subset hheld
      rw [Tables.getElem?_insert] at hinserted
      split at hinserted
      · rename_i hkey
        subst hkey
        cases untracked.symm.trans hcore'
      · cases (hr key' core' hcore').symm.trans hinserted
  | unhold detach =>
    intro key' core' hcore'
    change (r.state.pendingAttachedSessions.erase _)[key']? = none
    rw [Tables.getElem?_erase, hr key' core' hcore', ite_self]
  | forget | lose => exact fun key core _ => by simp [clearSessions]
  | reclaim room full =>
    intro key core hcore
    rw [coreAt_reclaimed, Option.filter_eq_some_iff] at hcore
    exact hr key core hcore.1
  | annotate same => exact fun key core hcore => hr key core ((same key).symm.trans hcore)
  | create vacant apart fresh hashed =>
    rename_i key target id visibility
    exact hr.of_update apart (map_core_insert _ key target) fun _ _ h' => h'
  | adopt pending attaches =>
    rename_i key core session
    refine hr.of_update ?_ attaches.coreAt_adopted fun _ _ h' => (attaches.pending_adopted h').2
    rw [attaches.pending]
    simp [removePendingKey]
  | createAdopt vacant fresh hashed pending attaches =>
    rename_i key target id visibility session
    refine hr.of_update ?_ attaches.coreAt_created fun _ _ h' => (attaches.pending_created h').2
    rw [attaches.pending]
    simp [removePendingKey, Reduction.store]
  | deliver attaches =>
    rename_i key core session
    refine hr.of_update ?_ attaches.coreAt fun key' session' h' => ?_
    · rw [attaches.pending]
      exact hr key core attaches.tracked
    · rwa [attaches.pending] at h'
  | finish tracked enabled result quiet emitted =>
    rename_i ending key core target revision effects es
    refine hr.of_update ?_ (Move.finish tracked enabled result quiet emitted).finish_coreAt (by simp)
    rw [pending_reconcileSelection]
    exact hr key core tracked
  | release mapped untracked => exact hr
  | releaseTerminal mapped tracked terminal =>
    rename_i session key target
    exact hr.of_update (hr key _ (coreAt_of_getElem? tracked)) (map_core_insert _ key _) fun _ _ h' => h'
  | revise tracked enabled result quiet emitted =>
    rename_i change key core target effects es
    exact hr.of_update (hr key core tracked) (map_core_insert _ key target) fun _ _ h' => h'

theorem Move.holds {act : Act} {r r' : Reduction} (h : Move act r r') {session : TransportSessionId} {key : String}
    (hheld : r'.state.Holds session key) :
    r.state.Holds session key ∨ act = .hold key session ∨ ∃ core, act = .deliver key core session := by
  rcases hheld with ⟨core, hcore, hsession⟩ | hpending
  · have hmove := h.coreAt key
    unfold SupervisorState.Holds
    generalize r.state.coreAt key = before at hmove ⊢
    generalize r'.state.coreAt key = after at hmove hcore
    generalize r.state.pendingAttachedSessions[key]? = pending at hmove ⊢
    cases hmove with
    | same => exact .inl (.inl ⟨core, hcore, hsession⟩)
    | created vacant apart =>
      cases hcore
      cases hsession
    | createdAttached vacant held | adopted held live other allowed =>
      cases hcore
      cases hsession
      exact .inl (.inr held)
    | delivered live other allowed =>
      cases hcore
      cases hsession
      exact .inr (.inr ⟨_, rfl⟩)
    | finished =>
      rename_i ending before
      cases hcore
      cases ending with
      | attachFailed => exact .inl (.inl ⟨before, rfl, hsession⟩)
      | detached _ | domainFailed | destroyed => cases hsession
    | revised enabled =>
      cases hcore
      exact .inl (.inl ⟨_, rfl, by simpa using hsession⟩)
    | lost =>
      obtain ⟨core, rfl, rfl⟩ := Option.map_eq_some_iff.1 hcore
      refine .inl (.inl ⟨core, rfl, ?_⟩)
      unfold TargetCore.suspend at hsession
      split at hsession
      · exact hsession
      · split at hsession <;> cases hsession
    | reclaimed => exact .inl (.inl ⟨core, (Option.filter_eq_some_iff.1 hcore).1, hsession⟩)
    | released terminal =>
      cases hcore
      cases hsession
  · rcases h.pending hpending with hbefore | hact
    · exact .inl (.inr hbefore)
    · exact .inr (.inl hact)

/-- The act takes a session away from the key. -/
def Act.Releases (key : String) : Act → Prop
  | .unhold key' | .finish _ key' _ => key' = key
  | _ => False

theorem not_mem_of_quiet {es : List SupervisorEffect} (h : Quiet es) (session : TransportSessionId) :
    .detach session ∉ es := fun hmem => absurd (h _ hmem) nofun

theorem mem_detaches {sessions : List TransportSessionId} {session : TransportSessionId} :
    .detach session ∈ detaches sessions ↔ session ∈ sessions := by
  simp [detaches]

theorem Attaches.detach_free {key : String} {core : TargetCore} {session session' : TransportSessionId}
    {r r' : Reduction} (h : Attaches key core session r r') (hsound : core.Sound)
    (hdetached : .detach session' ∈ r'.effects) : .detach session' ∈ r.effects := by
  obtain ⟨target, es, -, hquiet, rfl⟩ := h.result
  have hnone : core.transportSession = none := (hsound.allows_resumed_iff h.live).1 h.allowed
  simpa [hnone, detaches, not_mem_of_quiet hquiet] using hdetached

theorem Move.released {act : Act} {r r' : Reduction} (h : Move act r r') (hhold : ∀ key session, act ≠ .hold key session)
    (hsound : ∀ key core, r.state.coreAt key = some core → core.Sound) (hapart : r.state.Apart)
    {session : TransportSessionId} (hdetached : .detach session ∈ r'.effects) :
    .detach session ∈ r.effects ∨ ∃ key, act.Releases key ∧ r.state.Holds session key ∧ ¬r'.state.Holds session key := by
  cases h with
  | note revision nextPageSequence quiet | lose quiet =>
    exact .inl (by simpa [not_mem_of_quiet quiet] using hdetached)
  | repair =>
    obtain ⟨_, _, es, hquiet, -, heq⟩ := reconcileSelection_eq r
    rw [heq] at hdetached
    exact .inl (by simpa [not_mem_of_quiet hquiet] using hdetached)
  | select candidate =>
    obtain ⟨_, es, hquiet, heq⟩ := setSelection_eq r (some _)
    rw [heq] at hdetached
    exact .inl (by simpa [not_mem_of_quiet hquiet] using hdetached)
  | enter => exact .inl (by simpa [publish] using hdetached)
  | hold => exact absurd rfl (hhold _ _)
  | unhold detach =>
    rename_i key
    rcases List.mem_append.1 hdetached with hdetached | hdetached
    · exact .inl hdetached
    · cases detach with
      | false => simp at hdetached
      | true =>
        have hpending : r.state.pendingAttachedSessions[key]? = some session := by
          simpa [mem_detaches] using hdetached
        refine .inr ⟨key, rfl, .inr hpending, ?_⟩
        rintro (⟨core, hcore, -⟩ | hheld)
        · cases (hapart key core hcore).symm.trans hpending
        · exact (pending_erase hheld).1 rfl
  | renew | forget | reclaim | annotate | create | release | releaseTerminal => exact .inl hdetached
  | adopt pending attaches => exact .inl (attaches.detach_free (hsound _ _ attaches.tracked) hdetached)
  | createAdopt vacant fresh hashed pending attaches =>
    exact .inl (attaches.detach_free (fresh ▸ .fresh _ _) hdetached)
  | deliver attaches => exact .inl (attaches.detach_free (hsound _ _ attaches.tracked) hdetached)
  | finish tracked enabled result quiet emitted =>
    rename_i ending key core target revision effects es
    obtain ⟨_, _, es', hquiet', -, heq⟩ := reconcileSelection_eq
      { state := { r.state with
          targetKeyBySession := ending.unmap core r.state.targetKeyBySession
          targetsByKey := r.state.targetsByKey.insert key target
          revision }
        effects }
    rw [heq] at hdetached ⊢
    have hdetached : .detach session ∈ r.effects ∨ session ∈ ending.released core := by
      simpa [emitted, mem_detaches, not_mem_of_quiet quiet, not_mem_of_quiet hquiet'] using hdetached
    refine hdetached.imp_right fun hreleased => ?_
    have hheld : core.transportSession = some session := by
      cases ending with
      | domainFailed | destroyed => simpa [Ending.released] using hreleased
      | detached _ | attachFailed => simp [Ending.released] at hreleased
    refine ⟨key, rfl, .inl ⟨core, tracked, hheld⟩, ?_⟩
    rintro (⟨core', hcore', hsession⟩ | hpending)
    · have hcore' := (map_core_insert r.state.targetsByKey key target key).symm.trans hcore'
      rw [if_pos rfl, result] at hcore'
      cases hcore'
      cases ending with
      | domainFailed | destroyed => cases hsession
      | detached _ | attachFailed => simp [Ending.released] at hreleased
    · cases (hapart key core tracked).symm.trans hpending
  | revise tracked enabled result quiet emitted =>
    rw [emitted] at hdetached
    exact .inl (by simpa [not_mem_of_quiet quiet] using hdetached)

section

variable {A : Act → Prop} {r r' : Reduction}

theorem Moves.apart (h : Moves A r r') (hr : r.state.Apart) : r'.state.Apart :=
  h.invariant (P := fun r => r.state.Apart) (fun _ _ _ _ hm => hm.apart) hr

theorem Moves.adopt_free (h : Moves A r r') (hr : r.state.Apart) :
    Moves (fun act => A act ∧ ∀ key core session, act ≠ .adopt key core session) r r' := by
  have hinv := h.invariant (P := fun r' => r'.state.Apart ∧
    Moves (fun act => A act ∧ ∀ key core session, act ≠ .adopt key core session) r r') ?_ ⟨hr, .refl⟩
  · exact hinv.2
  rintro act r₁ r₂ hA hm ⟨hapart, hmoves⟩
  have hnot : ∀ key core session, act ≠ .adopt key core session := by
    rintro key core session rfl
    cases hm with
    | adopt pending attaches => cases (hapart key core attaches.tracked).symm.trans pending
  have hpermitted : (fun act => A act ∧ ∀ key core session, act ≠ .adopt key core session) act := ⟨hA, hnot⟩
  exact ⟨hm.apart hapart, hmoves.trans (.single hpermitted hm)⟩

theorem Moves.holds (h : Moves A r r') {session : TransportSessionId} {key : String}
    (hheld : r'.state.Holds session key) :
    r.state.Holds session key ∨ A (.hold key session) ∨ ∃ core, A (.deliver key core session) := by
  refine h.invariant (P := fun r' => r'.state.Holds session key →
    r.state.Holds session key ∨ A (.hold key session) ∨ ∃ core, A (.deliver key core session)) ?_ .inl hheld
  intro act r₁ r₂ hA hm ih hheld
  rcases hm.holds hheld with hheld | rfl | ⟨core, rfl⟩
  · exact ih hheld
  · exact .inr (.inl hA)
  · exact .inr (.inr ⟨core, hA⟩)

theorem Moves.released (hhold : ∀ key session, ¬A (.hold key session))
    (hdeliver : ∀ key core session, ¬A (.deliver key core session)) (h : Moves A r r')
    (hsound : r.state.Entries (fun _ core => core.Sound ∧ core.BindingSound) fun _ _ => True) (hapart : r.state.Apart)
    {session : TransportSessionId} (hdetached : .detach session ∈ r'.effects) :
    .detach session ∈ r.effects ∨ ∃ key, (∃ act, A act ∧ act.Releases key) ∧ r.state.Holds session key ∧
      ¬r'.state.Holds session key := by
  have hinv := h.invariant (P := fun r' => Moves A r r' ∧ (.detach session ∈ r'.effects →
    .detach session ∈ r.effects ∨ ∃ key, (∃ act, A act ∧ act.Releases key) ∧ r.state.Holds session key ∧
      ¬r'.state.Holds session key)) ?_ ⟨.refl, .inl⟩
  · exact hinv.2 hdetached
  rintro act r₁ r₂ hA hm ⟨hmoves, ih⟩
  have hback : ∀ {r₁ r₂ : Reduction} {key : String}, Moves A r₁ r₂ → r₂.state.Holds session key →
      r₁.state.Holds session key := fun hmoves hheld =>
    (hmoves.holds hheld).resolve_right fun h => h.elim (hhold _ _) fun ⟨_, h⟩ => hdeliver _ _ _ h
  refine ⟨hmoves.trans (.single hA hm), fun hdetached => ?_⟩
  have hnot : ∀ key session, act ≠ .hold key session := by
    rintro key session rfl
    exact hhold key session hA
  have hcores : ∀ key core, r₁.state.coreAt key = some core → core.Sound := fun key core hcore =>
    ((hmoves.entries keeps_sound hsound).cores key core hcore).1
  rcases hm.released hnot hcores (hmoves.apart hapart) hdetached with hdetached | ⟨key, hreleases, hheld, hgone⟩
  · rcases ih hdetached with hbefore | ⟨key, hact, hheld, hgone⟩
    · exact .inl hbefore
    · exact .inr ⟨key, hact, hheld, fun hlater => hgone (hback (.single hA hm) hlater)⟩
  · exact .inr ⟨key, ⟨act, hA, hreleases⟩, hback hmoves hheld, hgone⟩

theorem Moves.detach_free (hhold : ∀ key session, ¬A (.hold key session)) (hkeep : ∀ act key, A act → ¬act.Releases key)
    (h : Moves A r r') (hsound : r.state.Entries (fun _ core => core.Sound ∧ core.BindingSound) fun _ _ => True)
    (hapart : r.state.Apart) {session : TransportSessionId} (hdetached : .detach session ∈ r'.effects) :
    .detach session ∈ r.effects := by
  have hinv := h.invariant (P := fun r' => Moves A r r' ∧ (.detach session ∈ r'.effects → .detach session ∈ r.effects))
    ?_ ⟨.refl, id⟩
  · exact hinv.2 hdetached
  rintro act r₁ r₂ hA hm ⟨hmoves, ih⟩
  refine ⟨hmoves.trans (.single hA hm), fun hdetached => ?_⟩
  have hnot : ∀ key session, act ≠ .hold key session := by
    rintro key session rfl
    exact hhold key session hA
  have hcores : ∀ key core, r₁.state.coreAt key = some core → core.Sound := fun key core hcore =>
    ((hmoves.entries keeps_sound hsound).cores key core hcore).1
  rcases hm.released hnot hcores (hmoves.apart hapart) hdetached with hdetached | ⟨key, hreleases, -, -⟩
  · exact ih hdetached
  · exact absurd hreleases (hkeep act key hA)

end

/-- Every session is held for one key. -/
def SupervisorState.OneKey (state : SupervisorState) : Prop :=
  ∀ session key key', state.Holds session key → state.Holds session key' → key = key'

/-- The transport does not deliver the pending session of a key again. -/
def FreshDelivery (state : SupervisorState) (input : SupervisorInput) : Prop :=
  ∀ payload, input.accepted state = some payload → ∀ key session, payload.delivery = some (key, session) →
    state.pendingAttachedSessions[key]? ≠ some session

theorem observe_holds {order : VisitOrder} {state : SupervisorState} {payload : SupervisorInput} {r : Reduction}
    (h : observe order { state, effects := [] } payload = .ok r) {session : TransportSessionId} {key : String}
    (hheld : r.state.Holds session key) : state.Holds session key ∨ (key, session) ∈ payload.reports := by
  refine ((observe_moves h).holds hheld).imp_right ?_
  rintro ((rfl | rfl) | ⟨core, hdelivers⟩)
  · simp [SupervisorInput.reports]
  · simp [SupervisorInput.reports]
  · cases payload with
    | attached | unsolicitedAttached =>
      obtain ⟨rfl, rfl, -⟩ := hdelivers
      simp [SupervisorInput.reports]
    | reconnected snapshot =>
      obtain ⟨e, he, rfl, hsession, -⟩ := hdelivers
      exact List.mem_filterMap.2 ⟨e, he, by simp [hsession]⟩
    | _ => simp [SupervisorInput.Permits, SupervisorInput.Delivers, SupervisorInput.restored] at hdelivers

theorem attach_released {r r' : Reduction} {key : String} {session : TransportSessionId}
    {probeVisibility unsolicited : Bool} (h : attach r key session probeVisibility unsolicited = .ok r')
    (hsound : ∀ key core, r.state.coreAt key = some core → core.Sound) (hapart : r.state.Apart) (honeKey : r.state.OneKey)
    (hunshared : ∀ key', r.state.Holds session key' → key' = key)
    (hfresh : r.state.pendingAttachedSessions[key]? ≠ some session)
    {session' : TransportSessionId} (hdetached : .detach session' ∈ r'.effects) :
    .detach session' ∈ r.effects ∨ ∀ key', ¬r'.state.Holds session' key' := by
  cases ht : r.state.targetsByKey[key]? with
  | some target =>
    rcases attach_tracked ht h with ⟨rfl, -⟩ | hattaches
    · exact .inl hdetached
    · exact .inl (hattaches.detach_free (hsound key _ hattaches.tracked) hdetached)
  | none =>
    have hnone : r.state.coreAt key = none := by simp [SupervisorState.coreAt, ht]
    unfold attach at h
    simp only [ht, Except.ok.injEq] at h
    subst h
    have hmove : Move (.hold key session) r _ := .hold unsolicited hnone
    -- every session of the state after has one owner: the key that held it before, or the key of the delivery
    have howner : ∀ key', (holdPending r key session unsolicited).state.Holds session' key' →
        r.state.Holds session' key' ∨ session' = session ∧ key' = key := by
      intro key' hheld
      rcases hmove.holds hheld with hbefore | hact | ⟨core, hact⟩
      · exact .inl hbefore
      · obtain ⟨rfl, rfl⟩ := Act.hold.inj hact
        exact .inr ⟨rfl, rfl⟩
      · cases hact
    rcases mem_evictPending.1 hdetached with hbefore | ⟨key', session'', hheld, hgone, heq⟩
    · -- the session that the delivery replaces
      have hbefore : .detach session' ∈ r.effects ∨ r.state.pendingAttachedSessions[key]? = some session' := by
        cases unsolicited <;> simpa [eq_comm] using hbefore
      refine hbefore.imp_right fun hreplaced key' hheld => ?_
      have hother : session ≠ session' := fun hsame => hfresh (hsame ▸ hreplaced)
      have hkey : key' = key := (howner key' hheld).elim (honeKey session' key' key · (.inr hreplaced)) fun h => h.2
      subst hkey
      rcases hheld with ⟨core, hcore, -⟩ | hpending
      · cases hnone.symm.trans hcore
      · have hinserted := evictPending_subset hpending
        rw [Tables.getElem?_insert, if_pos rfl] at hinserted
        exact hother (Option.some.inj hinserted)
    · -- a session that was evicted
      obtain rfl : session' = session'' := by simpa using heq
      rw [Tables.getElem?_insert] at hheld
      refine .inr fun key'' hheld' => ?_
      have hkey : key'' = key' := by
        split at hheld
        · rename_i hkey
          cases hheld
          exact hkey ▸ (howner key'' hheld').elim (hunshared key'') fun h => h.2
        · exact (howner key'' hheld').elim (honeKey session' key'' key' · (.inr hheld)) fun h =>
            (hunshared key' (h.1 ▸ .inr hheld)).symm ▸ h.2
      subst hkey
      rcases hheld' with ⟨core, hcore, -⟩ | hpending
      · split at hheld
        · rename_i hkey
          subst hkey
          cases hnone.symm.trans hcore
        · cases (hapart key'' core hcore).symm.trans hheld
      · cases hgone.symm.trans hpending

theorem attach_custody {r r' : Reduction} {key : String} {session : TransportSessionId}
    {probeVisibility unsolicited : Bool} (h : attach r key session probeVisibility unsolicited = .ok r')
    (hsound : ∀ key core, r.state.coreAt key = some core → core.Sound)
    (hlive : ∀ core, r.state.coreAt key = some core → core.isTerminal = false) :
    r'.state.InCustody session ∨ .detach session ∈ r'.effects := by
  cases ht : r.state.targetsByKey[key]? with
  | some target =>
    have hcore := coreAt_of_getElem? ht
    rcases attach_tracked ht h with ⟨rfl, hterminal | hheld⟩ | hattaches
    · cases (hlive _ hcore).symm.trans hterminal
    · exact .inl (SupervisorState.inCustody_iff.2 (.inl ⟨key, _, hcore, hlive _ hcore, hheld⟩))
    · have hnone := ((hsound key _ hcore).allows_resumed_iff hattaches.live).1 hattaches.allowed
      have hafter := (hattaches.coreAt key).trans (if_pos rfl)
      have hlive := (hsound key _ hcore).isLive_attach hattaches.live hnone session
      exact .inl (SupervisorState.inCustody_iff.2 (.inl ⟨key, _, hafter, TargetCore.isTerminal_of_isLive hlive, rfl⟩))
  | none =>
    unfold attach at h
    simp only [ht, Except.ok.injEq] at h
    subst h
    refine (evictPending_custody _ _ ?_).imp (fun hkept => .inr ⟨key, hkept⟩) id
    exact ExtTreeMap.getElem?_insert_self

theorem observe_released {order : VisitOrder} {state : SupervisorState} {payload : SupervisorInput} {r : Reduction}
    (h : observe order { state, effects := [] } payload = .ok r) (hsound : state.Sound) (hapart : state.Apart)
    (honeKey : state.OneKey)
    (hunshared : ∀ key session, (key, session) ∈ payload.reports →
      ∀ key', state.Holds session key' ∨ (key', session) ∈ payload.reports → key' = key)
    (hfresh : ∀ key session, payload.delivery = some (key, session) →
      state.pendingAttachedSessions[key]? ≠ some session)
    {session : TransportSessionId} (hdetached : .detach session ∈ r.effects) :
    ∀ key, ¬r.state.Holds session key := by
  have hentries := hsound.entries
  have hnothing : .detach session ∉ ({ state, effects := [] } : Reduction).effects := List.not_mem_nil
  by_cases hdelivery : ∃ key session, payload.delivery = some (key, session)
  · obtain ⟨key, session', hdelivery⟩ := hdelivery
    obtain ⟨hreports, unsolicited, hattach⟩ : (key, session') ∈ payload.reports ∧
        ∃ unsolicited, attach { state, effects := [] } key session' true unsolicited = .ok r := by
      cases payload with
      | attached | unsolicitedAttached =>
        cases hdelivery
        exact ⟨List.mem_singleton_self _, _, h⟩
      | _ => cases hdelivery
    exact (attach_released hattach hsound.cores hapart honeKey (fun key' hheld => hunshared key session' hreports key'
      (.inl hheld)) (hfresh key session' hdelivery) hdetached).resolve_left hnothing
  by_cases hsnapshot : ∃ snapshot, payload = .reconnected snapshot
  · obtain ⟨snapshot, rfl⟩ := hsnapshot
    obtain rfl | ⟨-, -, -, r₁, hmissing, -, hrestores⟩ := reconnect_phases h
    · exact absurd hdetached hnothing
    have hr₁ := hmissing.entries keeps_sound hentries
    have hcleared : (clearSessions r₁.state).Apart := fun key core _ => by simp [clearSessions]
    have hdetached₁ : .detach session ∈ r₁.effects := by
      refine Moves.detach_free ?_ ?_ hrestores ⟨hr₁.cores, fun _ _ _ => trivial⟩ hcleared hdetached
      · exact fun _ _ h => h.elim
      · rintro (_ | _ | _) key hA hreleases <;> first | exact hreleases | exact hA
    obtain ⟨key₀, ⟨act, hA, hreleases⟩, hheld₀, hgone⟩ := (Moves.released (fun _ _ h => h.elim) (fun _ _ _ h => h.elim)
      hmissing hentries hapart hdetached₁).resolve_left hnothing
    have hmissed : key₀ ∉ (SupervisorInput.reconnected snapshot).kept := by
      cases act with
      | finish ending key core =>
        cases ending with
        | destroyed =>
          obtain rfl := hreleases
          exact hA
        | detached _ | domainFailed | attachFailed => exact hA.elim
      | unhold key => exact hA.elim
      | _ => exact hreleases.elim
    intro key hheld
    rcases hrestores.holds hheld with (⟨core, hcore, hsession⟩ | hpending) | hhold | ⟨core, e, he, rfl, hsession, -⟩
    · have hbefore : state.Holds session key := (hmissing.holds (.inl ⟨core, hcore, hsession⟩)).resolve_right
        (by rintro (h | ⟨_, h⟩) <;> exact h.elim)
      obtain rfl := honeKey session key key₀ hbefore hheld₀
      exact hgone (.inl ⟨core, hcore, hsession⟩)
    · simp [clearSessions] at hpending
    · exact hhold.elim
    · have hreported : (e.info.targetKey, session) ∈ (SupervisorInput.reconnected snapshot).reports :=
        List.mem_filterMap.2 ⟨e, he, by simp [hsession]⟩
      exact hmissed (hunshared _ session hreported key₀ (.inl hheld₀) ▸ List.mem_map_of_mem he)
  · have hhold : ∀ key session, ¬payload.Permits state (.hold key session) := by
      rintro key session (rfl | rfl) <;> exact hdelivery ⟨key, session, rfl⟩
    have hdeliver : ∀ key core session, ¬payload.Permits state (.deliver key core session) := by
      intro key core session hdelivers
      cases payload with
      | attached key session | unsolicitedAttached key session => exact hdelivery ⟨key, session, rfl⟩
      | reconnected snapshot => exact hsnapshot ⟨snapshot, rfl⟩
      | _ => simp [SupervisorInput.Permits, SupervisorInput.Delivers, SupervisorInput.restored] at hdelivers
    have hmoves := observe_moves h
    obtain ⟨key₀, -, hheld₀, hgone⟩ :=
      (Moves.released hhold hdeliver hmoves hentries hapart hdetached).resolve_left hnothing
    intro key hheld
    have hbefore : state.Holds session key := (hmoves.holds hheld).resolve_right
      (by
        rintro (h | ⟨_, h⟩)
        · exact hhold _ _ h
        · exact hdeliver _ _ _ h)
    exact hgone (honeKey session key key₀ hbefore hheld₀ ▸ hheld)

/-! ### Runs -/

/-- The invariant of the runs in which no session is shared. -/
structure SupervisorState.Custodial (state : SupervisorState) : Prop where
  sound : state.Sound
  apart : state.Apart
  oneKey : state.OneKey

theorem SupervisorState.Apart.step {state state' : SupervisorState} {input : SupervisorInput}
    {effects : List SupervisorEffect} (h : state.Apart) (hstep : supervision.step state input effects state') :
    state'.Apart := by
  obtain ⟨-, rfl, -⟩ | ⟨payload, order, r, haccepted, hr, hpass⟩ := supervision_step_cases hstep
  · exact h
  have hapart := (observe_moves hr).apart h
  obtain rfl := congrArg Reduction.state hpass
  intro key core hcore
  rw [coreAt_reconcileCaptureBindings] at hcore
  obtain ⟨core₀, hcore₀, -⟩ := Option.map_eq_some_iff.1 hcore
  rw [pending_reconcileCaptureBindings]
  exact hapart key core₀ hcore₀

theorem SupervisorState.Apart.new (compatibility : BrowserCompatibility) : (SupervisorState.new compatibility).Apart :=
  fun key core _ => by simp [SupervisorState.new]

theorem SupervisorState.Custodial.step {state state' : SupervisorState} {input : SupervisorInput}
    {effects : List SupervisorEffect} (h : state.Custodial) (hunshared : UnsharedReports state input)
    (hstep : supervision.step state input effects state') : state'.Custodial := by
  refine ⟨h.sound.step hstep, h.apart.step hstep, ?_⟩
  obtain ⟨-, rfl, -⟩ | ⟨payload, order, r, haccepted, hr, hpass⟩ := supervision_step_cases hstep
  · exact h.oneKey
  · have hunshared := hunshared payload haccepted
    obtain rfl := congrArg Reduction.state hpass
    intro session key key' hkey hkey'
    rcases observe_holds hr (holds_reconcileCaptureBindings.1 hkey) with hkey | hkey <;>
      rcases observe_holds hr (holds_reconcileCaptureBindings.1 hkey') with hkey' | hkey'
    · exact h.oneKey session key key' hkey hkey'
    · exact hunshared key' session hkey' key (.inl hkey)
    · exact (hunshared key session hkey key' (.inl hkey')).symm
    · exact hunshared key' session hkey' key (.inr hkey)

theorem SupervisorState.Custodial.new (compatibility : BrowserCompatibility) :
    (SupervisorState.new compatibility).Custodial :=
  ⟨.new compatibility, .new compatibility, (SessionsOwned.new compatibility).oneKey⟩

/-- A delivery that is accepted, to a key whose target is not terminal, leaves the session in custody or detaches it;
and in every run that reports each session for one target, and delivers no pending session again, no reduction detaches
a session that is still held afterwards. -/
theorem session_custody :
    (∀ state, supervision.Reachable state → ∀ input payload key session effects state',
      SupervisorInput.accepted state input = some payload → payload.delivery = some (key, session) →
      (∀ target : SupervisorTargetState, state.targetsByKey[key]? = some target → target.isTerminal = false) →
      supervision.step state input effects state' → state'.InCustody session ∨ .detach session ∈ effects) ∧
    ∀ trace state, Run supervision (fun state input => UnsharedReports state input ∧ FreshDelivery state input) trace state →
      ∀ input effects state', UnsharedReports state input → FreshDelivery state input →
        supervision.step state input effects state' → ∀ session, .detach session ∈ effects → ¬state'.InCustody session := by
  constructor
  · intro state hreachable input payload key session effects state' haccepted hdelivery hlive hstep
    obtain ⟨hdropped, -⟩ | ⟨payload', order, r, haccepted', hr, hpass⟩ := supervision_step_cases hstep
    · cases haccepted.symm.trans hdropped
    obtain rfl := Option.some.inj (haccepted.symm.trans haccepted')
    obtain ⟨unsolicited, hattach⟩ :
        ∃ unsolicited, attach { state, effects := [] } key session true unsolicited = .ok r := by
      cases payload with
      | attached | unsolicitedAttached =>
        cases hdelivery
        exact ⟨_, hr⟩
      | _ => cases hdelivery
    have hcustody := attach_custody hattach (sound_of_reachable hreachable).cores fun core hcore => by
      obtain ⟨target, htarget, rfl⟩ := exists_of_coreAt hcore
      exact hlive target htarget
    rw [← inCustody_reconcileCaptureBindings order, ← detach_mem_reconcileCaptureBindings, hpass] at hcustody
    exact hcustody
  · intro trace state hrun input effects state' hunshared hfresh hstep session hdetached hheld
    have hstate : state.Custodial := by
      refine hrun.invariant ?_ fun _ _ _ _ hcustodial hguard hstep => hcustodial.step hguard.1 hstep
      rintro _ ⟨compatibility, rfl⟩
      exact .new compatibility
    obtain ⟨-, -, rfl⟩ | ⟨payload, order, r, haccepted, hr, hpass⟩ := supervision_step_cases hstep
    · cases hdetached
    obtain ⟨rfl, rfl⟩ : _ = state' ∧ _ = effects := ⟨congrArg Reduction.state hpass, congrArg Reduction.effects hpass⟩
    obtain ⟨key, hheld⟩ := hheld.holds
    exact observe_released hr hstate.sound hstate.apart hstate.oneKey (hunshared payload haccepted)
      (hfresh payload haccepted) (detach_mem_reconcileCaptureBindings.1 hdetached) key
      (holds_reconcileCaptureBindings.1 hheld)

/-- A test for `FreshDelivery`, of the inputs below. -/
def deliversFresh (state : SupervisorState) : SupervisorInput → Bool
  | .attached key session => state.pendingAttachedSessions[key]? != some session
  | .initialTargets _ | .targetAttachFailed _ | .detached _ | .targetDestroyed _ => true
  | _ => false

theorem freshDelivery_of_test {state : SupervisorState} {input : SupervisorInput}
    (h : deliversFresh state input = true) : FreshDelivery state input := by
  intro payload haccepted key session hdelivery
  cases input with
  | attached =>
    simp only [SupervisorInput.accepted] at haccepted
    split at haccepted
    · cases haccepted
    · cases haccepted
      cases hdelivery
      simpa [deliversFresh] using h
  | initialTargets | targetAttachFailed | detached | targetDestroyed =>
    simp only [SupervisorInput.accepted] at haccepted
    split at haccepted
    · cases haccepted
    · cases haccepted
      cases hdelivery
  | _ => cases h

/-- A page that is destroyed: its session is detached, and no longer held. -/
theorem session_custody_destroyed : ∃ trace state effects state',
    Run supervision (fun state input => UnsharedReports state input ∧ FreshDelivery state input) trace state ∧
      supervision.step state (.targetDestroyed "a") effects state' ∧ .detach sessionA ∈ effects ∧
      ¬state'.InCustody sessionA := by
  obtain ⟨trace, state, hrun, htest⟩ := exists_supervisionRun
    (fun state input => UnsharedReports state input ∧ FreshDelivery state input)
    (fun state input => reportsUnshared state input && deliversFresh state input)
    (fun state input h => by
      obtain ⟨hunshared, hfresh⟩ := Bool.and_eq_true_iff.1 h
      exact ⟨unsharedReports_of_test hunshared, freshDelivery_of_test hfresh⟩)
    [.initialTargets [pageA], .attached "a" sessionA]
    (fun _ state => (execute state (.targetDestroyed "a")).any fun next => next.1.contains (.detach sessionA)) (by decide)
  obtain ⟨⟨effects, state'⟩, hnext, hdetached⟩ := (Option.any_eq_true _ _).1 htest
  have hstep := step_of_execute hnext
  have hdetached : .detach sessionA ∈ effects := by simpa using hdetached
  exact ⟨trace, state, effects, state', hrun, hstep, hdetached, session_custody.2 trace state hrun _ effects state'
    (unsharedReports_of_test rfl) (freshDelivery_of_test rfl) hstep sessionA hdetached⟩

/-- While the supervisor reconnects, a delivery is dropped: the session is neither held nor detached. -/
theorem delivery_dropped : ¬∀ state, supervision.Reachable state → ∀ key session effects state',
    supervision.step state (.attached key session) effects state' →
      state'.InCustody session ∨ .detach session ∈ effects := by
  intro h
  obtain ⟨trace, state, hrun, htest⟩ := exists_unguardedRun [.initialTargets [pageA], .connectionLost]
    (fun _ state => (execute state (.attached "a" sessionA)).any fun next => next.1.isEmpty &&
      (next.2.targetsByKey.toList.all fun entry => entry.2.transportSession != some sessionA) &&
      next.2.pendingAttachedSessions.toList.all fun entry => entry.2 != sessionA) (by decide)
  obtain ⟨⟨effects, state'⟩, hnext, htest⟩ := (Option.any_eq_true _ _).1 htest
  simp only [Bool.and_eq_true] at htest
  obtain ⟨⟨heffects, htargets⟩, hpending⟩ := htest
  rcases h state hrun.reachable "a" sessionA effects state' (step_of_execute hnext) with hheld | hdetached
  · rcases hheld with ⟨key, target, htarget, -, hsession⟩ | ⟨key, hsession⟩
    · have htest := Tables.forall_of_all (p := fun (_ : String) (t : SupervisorTargetState) =>
        t.transportSession != some sessionA) htargets key target htarget
      simp [hsession] at htest
    · have htest := Tables.forall_of_all (p := fun (_ : String) (s : TransportSessionId) => s != sessionA)
        hpending key sessionA hsession
      simp at htest
  · simp [List.isEmpty_iff.1 heffects] at hdetached

end Krometrail
