import Krometrail.Targets.CaptureBindings

/-!
# What the moves keep, entry by entry

A property of every tracked target and of every pending session is kept by the moves when each act that is allowed keeps
it (`Keeps`, `Moves.entries`): one condition for each thing that can happen to a core.
-/

namespace Krometrail

open Std (ExtTreeMap)
open TargetLifecycle (discovered attached recording suspended closed failed)

/-- Every tracked target satisfies `P` and every pending session satisfies `Q`. -/
structure SupervisorState.Entries (P : String → TargetCore → Prop) (Q : String → TransportSessionId → Prop)
    (state : SupervisorState) : Prop where
  cores : ∀ key core, state.coreAt key = some core → P key core
  pending : ∀ key session, state.pendingAttachedSessions[key]? = some session → Q key session

/-- The acts that `A` allows keep `P` of the tracked targets and `Q` of the pending sessions. -/
structure Keeps (A : Act → Prop) (P : String → TargetCore → Prop) (Q : String → TransportSessionId → Prop) : Prop where
  hold : ∀ key session, A (.hold key session) → Q key session
  lose : A .lose → ∀ key core, P key core → P key core.suspend
  create : ∀ key id visibility, A (.create key (.fresh id visibility)) → P key (.fresh id visibility)
  createAdopt : ∀ key id visibility session, A (.create key (.fresh id visibility)) → Q key session →
    P key ((TargetCore.fresh id visibility).attach session)
  adopt : ∀ key core session, A (.adopt key core session) → P key core → Q key session →
    core.isTerminal = false → core.lifecycle.allowsTransition core.resumed = true →
    core.transportSession ≠ some session → P key (core.attach session)
  deliver : ∀ key core session, A (.deliver key core session) → P key core → core.isTerminal = false →
    core.lifecycle.allowsTransition core.resumed = true → core.transportSession ≠ some session →
    P key (core.attach session)
  finish : ∀ ending key core, A (.finish ending key core) → P key core → P key (ending.core core)
  release : ∀ key core, core.isTerminal = true → P key core → P key { core with transportSession := none }
  revise : ∀ change key core, A (.revise change key core) → P key core → change.Enabled core →
    P key (change.core core)

theorem map_core_insert (table : TargetTable) (key : String) (target : SupervisorTargetState) (key' : String) :
    (table.insert key target)[key']?.map SupervisorTargetState.core =
      if key = key' then some target.core else table[key']?.map SupervisorTargetState.core := by
  rw [ExtTreeMap.getElem?_insert]
  by_cases hkey : key = key' <;> simp [hkey]

@[simp] theorem coreAt_reconcileSelection (r : Reduction) (key : String) :
    (reconcileSelection r).state.coreAt key = r.state.coreAt key := by
  obtain ⟨_, _, _, -, -, heq⟩ := reconcileSelection_eq r
  rw [heq]
  rfl

variable {r r' : Reduction} {key : String} {session : TransportSessionId}

theorem coreAt_setSessionState {next : BrowserSessionState} (h : setSessionState r next = .ok r') (key : String)
    : r'.state.coreAt key = r.state.coreAt key := by
  unfold setSessionState at h
  split at h
  · exact Except.ok.inj h ▸ rfl
  · split at h
    · exact Except.ok.inj h ▸ rfl
    · cases h

theorem coreAt_resolveUnresolvedOpeners (state : SupervisorState) (key : String) :
    (resolveUnresolvedOpeners state).coreAt key = state.coreAt key := by
  unfold resolveUnresolvedOpeners SupervisorState.coreAt
  rw [ExtTreeMap.getElem?_map]
  cases state.targetsByKey[key]? with
  | none => rfl
  | some target =>
    simp only [Option.map_some]
    split <;> rfl

@[simp] theorem pending_reconcileSelection (r : Reduction) :
    (reconcileSelection r).state.pendingAttachedSessions = r.state.pendingAttachedSessions := by
  obtain ⟨_, _, _, -, -, heq⟩ := reconcileSelection_eq r
  rw [heq]

@[simp] theorem bySession_reconcileSelection (r : Reduction) :
    (reconcileSelection r).state.targetKeyBySession = r.state.targetKeyBySession := by
  obtain ⟨_, _, _, -, -, heq⟩ := reconcileSelection_eq r
  rw [heq]

@[simp] theorem core_suspend (target : SupervisorTargetState) : target.suspend.core = target.core.suspend := by
  unfold SupervisorTargetState.suspend TargetCore.suspend
  rw [SupervisorTargetState.isTerminal_core, SupervisorTargetState.lifecycle_core]
  split
  · rfl
  · split <;> rfl

theorem coreAt_suspended (table : TargetTable) (key : String) :
    (table.map fun _ target => target.suspend)[key]?.map SupervisorTargetState.core =
      (table[key]?.map SupervisorTargetState.core).map TargetCore.suspend := by
  rw [ExtTreeMap.getElem?_map]
  cases table[key]? <;> simp

theorem Attaches.coreAt {core : TargetCore} (h : Attaches key core session r r') (key' : String) :
    r'.state.coreAt key' = if key = key' then some (core.attach session) else r.state.coreAt key' := by
  obtain ⟨target, es, hcore, -, rfl⟩ := h.result
  rw [← hcore]
  exact map_core_insert _ _ _ _

theorem Attaches.pending {core : TargetCore} (h : Attaches key core session r r') :
    r'.state.pendingAttachedSessions = r.state.pendingAttachedSessions := by
  obtain ⟨target, es, -, -, rfl⟩ := h.result
  rfl

theorem evictPending_subset {sessions : ExtTreeMap String TransportSessionId} {effects : List SupervisorEffect}
    {order : List String} (h : (evictPending sessions effects order).1[key]? = some session)
    : sessions[key]? = some session := by
  induction order generalizing sessions effects with
  | nil => exact h
  | cons oldest order ih =>
    unfold evictPending at h
    split at h
    · split at h
      · have hkept := ih h
        rw [ExtTreeMap.getElem?_erase] at hkept
        split at hkept
        · cases hkept
        · exact hkept
      · exact ih h
    · exact h

theorem evictPending_effects (sessions : ExtTreeMap String TransportSessionId) (effects : List SupervisorEffect)
    (order : List String) : ∃ evicted, (evictPending sessions effects order).2.2 = effects ++ detaches evicted := by
  induction order generalizing sessions effects with
  | nil => exact ⟨[], (List.append_nil effects).symm⟩
  | cons oldest order ih =>
    unfold evictPending
    split
    · split
      · rename_i session hsession
        obtain ⟨evicted, hevicted⟩ := ih (sessions.erase oldest) (effects ++ [.detach session])
        exact ⟨session :: evicted, by rw [hevicted, List.append_assoc]; rfl⟩
      · exact ih sessions effects
    · exact ⟨[], (List.append_nil effects).symm⟩

theorem pending_erase {sessions : ExtTreeMap String TransportSessionId} {key' : String}
    (h : (sessions.erase key)[key']? = some session) : key ≠ key' ∧ sessions[key']? = some session := by
  rw [ExtTreeMap.getElem?_erase] at h
  by_cases hkey : key = key'
  · simp [hkey] at h
  · exact ⟨hkey, by simpa [hkey] using h⟩

section

variable {key : String} {core : TargetCore} {target : SupervisorTargetState} {session : TransportSessionId}
  {r r' : Reduction}

theorem Attaches.coreAt_adopted
    (h : Attaches key core session { r with state := (removePendingKey r.state key).1 } r') (key' : String) :
    r'.state.coreAt key' = if key = key' then some (core.attach session) else r.state.coreAt key' := h.coreAt key'

theorem Attaches.pending_adopted
    (h : Attaches key core session { r with state := (removePendingKey r.state key).1 } r') {key' : String}
    {session' : TransportSessionId} (hpending : r'.state.pendingAttachedSessions[key']? = some session') :
    key ≠ key' ∧ r.state.pendingAttachedSessions[key']? = some session' := by
  rw [h.pending] at hpending
  exact pending_erase hpending

theorem Attaches.coreAt_created
    (h : Attaches key core session (Reduction.store { r with state := (removePendingKey r.state key).1 } key target) r')
    (key' : String) :
    r'.state.coreAt key' = if key = key' then some (core.attach session) else r.state.coreAt key' := by
  rw [h.coreAt]
  by_cases hkey : key = key'
  · rw [if_pos hkey, if_pos hkey]
  · rw [if_neg hkey, if_neg hkey]
    exact (map_core_insert _ key target key').trans (if_neg hkey)

theorem Attaches.pending_created
    (h : Attaches key core session (Reduction.store { r with state := (removePendingKey r.state key).1 } key target) r')
    {key' : String} {session' : TransportSessionId}
    (hpending : r'.state.pendingAttachedSessions[key']? = some session') :
    key ≠ key' ∧ r.state.pendingAttachedSessions[key']? = some session' := by
  rw [h.pending] at hpending
  exact pending_erase hpending

end

/-- What a move with an act does to the core at a key, where `pending` is the pending session of the key before. -/
inductive CoreMove (key : String) (pending : Option TransportSessionId) : Act → Option TargetCore → Option TargetCore → Prop
  | same (act : Act) (before : Option TargetCore) : CoreMove key pending act before before
  | created {before : Option TargetCore} {id : TargetId} {visibility : TargetVisibility}
      (vacant : ∀ core, before = some core → core.isTerminal = true) (apart : pending = none) :
      CoreMove key pending (.create key (.fresh id visibility)) before (some (.fresh id visibility))
  | createdAttached {before : Option TargetCore} {id : TargetId} {visibility : TargetVisibility}
      {session : TransportSessionId} (vacant : ∀ core, before = some core → core.isTerminal = true)
      (held : pending = some session) :
      CoreMove key pending (.create key (.fresh id visibility)) before
        (some ((TargetCore.fresh id visibility).attach session))
  | adopted {core : TargetCore} {session : TransportSessionId} (held : pending = some session)
      (live : core.isTerminal = false) (other : core.transportSession ≠ some session)
      (allowed : core.lifecycle.allowsTransition core.resumed = true) :
      CoreMove key pending (.adopt key core session) (some core) (some (core.attach session))
  | delivered {core : TargetCore} {session : TransportSessionId}
      (live : core.isTerminal = false) (other : core.transportSession ≠ some session)
      (allowed : core.lifecycle.allowsTransition core.resumed = true) :
      CoreMove key pending (.deliver key core session) (some core) (some (core.attach session))
  | finished {ending : Ending} {core : TargetCore} :
      CoreMove key pending (.finish ending key core) (some core) (some (ending.core core))
  | revised {change : Change} {core : TargetCore} (enabled : change.Enabled core) :
      CoreMove key pending (.revise change key core) (some core) (some (change.core core))
  | lost (before : Option TargetCore) : CoreMove key pending .lose before (before.map TargetCore.suspend)
  | reclaimed (before : Option TargetCore) : CoreMove key pending .reclaim before (before.filter (!·.isTerminal))
  | released {session : TransportSessionId} {core : TargetCore} (terminal : core.isTerminal = true) :
      CoreMove key pending (.release session) (some core) (some { core with transportSession := none })

variable {act : Act} {key : String}

theorem CoreMove.of_update {key' : String} {core : TargetCore} {pending : Option TransportSessionId}
    {before after : Option TargetCore} (hafter : after = if key = key' then some core else before)
    (h : key = key' → CoreMove key' pending act before (some core)) : CoreMove key' pending act before after := by
  rw [hafter]
  by_cases hkey : key = key'
  · rw [if_pos hkey]
    exact h hkey
  · rw [if_neg hkey]
    exact .same act before

theorem CoreMove.of_lost {pending : Option TransportSessionId} {before after : Option TargetCore}
    (hafter : after = before.map TargetCore.suspend) : CoreMove key pending .lose before after :=
  hafter ▸ .lost before

theorem Move.coreAt {r r' : Reduction} (h : Move act r r') (key : String) :
    CoreMove key r.state.pendingAttachedSessions[key]? act (r.state.coreAt key) (r'.state.coreAt key) := by
  cases h with
  | note | renew | enter | hold | unhold | forget | release => exact .same _ _
  | repair =>
    rw [coreAt_reconcileSelection]
    exact .same _ _
  | select candidate =>
    obtain ⟨_, _, -, heq⟩ := setSelection_eq r (some _)
    rw [heq]
    exact .same _ _
  | lose quiet =>
    exact .of_lost (coreAt_suspended r.state.targetsByKey key)
  | reclaim room full =>
    rw [coreAt_reclaimed]
    exact .reclaimed _
  | annotate same => exact (same key) ▸ CoreMove.same _ _
  | create vacant apart fresh hashed =>
    rename_i key' target id visibility
    refine .of_update (map_core_insert _ key' target key) ?_
    rintro rfl
    rw [fresh]
    exact .created vacant apart
  | createAdopt vacant fresh hashed pending attaches =>
    refine .of_update (attaches.coreAt_created key) ?_
    rintro rfl
    rw [fresh]
    exact .createdAttached vacant pending
  | adopt pending attaches =>
    refine .of_update (attaches.coreAt_adopted key) ?_
    rintro rfl
    have htracked : r.state.coreAt _ = some _ := attaches.tracked
    rw [htracked]
    exact .adopted pending attaches.live attaches.other attaches.allowed
  | deliver attaches =>
    refine .of_update (attaches.coreAt key) ?_
    rintro rfl
    rw [attaches.tracked]
    exact .delivered attaches.live attaches.other attaches.allowed
  | finish tracked enabled result quiet emitted =>
    rename_i ending key' core target revision effects es
    rw [coreAt_reconcileSelection]
    refine .of_update (map_core_insert _ key' target key) ?_
    rintro rfl
    rw [tracked, result]
    exact .finished
  | releaseTerminal mapped tracked terminal =>
    rename_i session key' target
    refine .of_update (map_core_insert _ key' _ key) ?_
    rintro rfl
    rw [coreAt_of_getElem? tracked]
    exact .released terminal
  | revise tracked enabled result quiet emitted =>
    rename_i change key' core target effects es
    refine .of_update (map_core_insert _ key' target key) ?_
    rintro rfl
    rw [tracked, result]
    exact .revised enabled

theorem Move.pending {r r' : Reduction} (h : Move act r r') {session : TransportSessionId}
    (hpending : r'.state.pendingAttachedSessions[key]? = some session) :
    r.state.pendingAttachedSessions[key]? = some session ∨ act = .hold key session := by
  cases h with
  | note | renew | enter | reclaim | annotate | create | release | releaseTerminal | revise => exact .inl hpending
  | repair | finish => exact .inl (by simpa using hpending)
  | select candidate =>
    obtain ⟨_, _, -, heq⟩ := setSelection_eq r (some _)
    rw [heq] at hpending
    exact .inl hpending
  | hold unsolicited untracked =>
    have hinserted := evictPending_subset hpending
    rw [Tables.getElem?_insert] at hinserted
    split at hinserted
    · rename_i hkey
      cases hinserted
      exact .inr (by rw [hkey])
    · exact .inl hinserted
  | unhold detach => exact .inl (pending_erase hpending).2
  | forget | lose => simp [clearSessions] at hpending
  | adopt held attaches => exact .inl (attaches.pending_adopted hpending).2
  | createAdopt vacant fresh hashed held attaches => exact .inl (attaches.pending_created hpending).2
  | deliver attaches =>
    rw [attaches.pending] at hpending
    exact .inl hpending

variable {A : Act → Prop} {P : String → TargetCore → Prop} {Q : String → TransportSessionId → Prop} {r r' : Reduction}

theorem Move.entries (hk : Keeps A P Q) (hA : A act) (h : Move act r r') (hr : r.state.Entries P Q) : r'.state.Entries P Q := by
  refine ⟨fun key core hcore => ?_, fun key session hpending => ?_⟩
  · have hmove := h.coreAt key
    have hbefore := hr.cores key
    have hheld := hr.pending key
    generalize r.state.coreAt key = before at hmove hbefore
    generalize r'.state.coreAt key = after at hmove hcore
    generalize r.state.pendingAttachedSessions[key]? = pending at hmove hheld
    cases hmove with
    | same => exact hbefore core hcore
    | created vacant apart =>
      cases hcore
      exact hk.create key _ _ hA
    | createdAttached vacant held =>
      cases hcore
      exact hk.createAdopt key _ _ _ hA (hheld _ held)
    | adopted held live other allowed =>
      cases hcore
      exact hk.adopt key _ _ hA (hbefore _ rfl) (hheld _ held) live allowed other
    | delivered live other allowed =>
      cases hcore
      exact hk.deliver key _ _ hA (hbefore _ rfl) live allowed other
    | finished =>
      cases hcore
      exact hk.finish _ key _ hA (hbefore _ rfl)
    | revised enabled =>
      cases hcore
      exact hk.revise _ key _ hA (hbefore _ rfl) enabled
    | lost =>
      obtain ⟨core, rfl, rfl⟩ := Option.map_eq_some_iff.1 hcore
      exact hk.lose hA key core (hbefore core rfl)
    | reclaimed => exact hbefore core (Option.filter_eq_some_iff.1 hcore).1
    | released terminal =>
      cases hcore
      exact hk.release key _ terminal (hbefore _ rfl)
  · rcases h.pending hpending with hbefore | rfl
    · exact hr.pending key session hbefore
    · exact hk.hold key session hA

theorem Moves.entries (hk : Keeps A P Q) (h : Moves A r r') (hr : r.state.Entries P Q) : r'.state.Entries P Q :=
  h.invariant (P := fun r => r.state.Entries P Q) (fun _ _ _ hA hm => hm.entries hk hA) hr

end Krometrail
