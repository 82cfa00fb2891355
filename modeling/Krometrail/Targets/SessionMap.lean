import Krometrail.Targets.Progress
import Krometrail.Targets.Snapshots

/-!
# The session map

`target_key_by_session` and the sessions that the targets hold are two views of one relation.  They stay each other's
inverse (`SessionMapped`) as long as the transport does not deliver a session to two targets at once and two inputs stay
away from targets that hold a session: a failed attachment, which fails the target and leaves it its session, and a
reconnection, which clears the map and leaves the targets theirs.
-/

namespace Krometrail

open Std (ExtTreeMap)
open Runs (Run)
open TargetLifecycle (discovered attached recording suspended closed failed)

/-- The session is held for a key: by the target tracked under it, or pending. -/
def SupervisorState.Holds (state : SupervisorState) (session : TransportSessionId) (key : String) : Prop :=
  (∃ core, state.coreAt key = some core ∧ core.transportSession = some session) ∨
    state.pendingAttachedSessions[key]? = some session

/-- The map and the sessions of the targets are inverse, and no terminal target holds a session. -/
structure SupervisorState.SessionMapped (state : SupervisorState) : Prop where
  map_iff : ∀ (session : TransportSessionId) (key : String), state.targetKeyBySession[session]? = some key ↔
    ∃ core, state.coreAt key = some core ∧ core.transportSession = some session
  terminal : ∀ key core, state.coreAt key = some core → core.isTerminal = true → core.transportSession = none

variable {state state' : SupervisorState} {r r' : Reduction} {key : String} {core : TargetCore} {session : TransportSessionId}
  {owner : TransportSessionId → String → Prop} {A : Act → Prop} {input : SupervisorInput}

theorem SupervisorState.SessionMapped.of_frame (h : state.SessionMapped) (hcores : ∀ key, state'.coreAt key = state.coreAt key)
    (hmap : state'.targetKeyBySession = state.targetKeyBySession) : state'.SessionMapped :=
  ⟨fun session key => by rw [hmap, hcores]; exact h.map_iff session key,
    fun key core hcore => h.terminal key core (hcores key ▸ hcore)⟩

theorem SupervisorState.SessionMapped.of_attaches (h : r.state.SessionMapped) (hsound : core.Sound)
    (hattaches : Attaches key core session r r')
    (hsole : ∀ key', (∃ core', r.state.coreAt key' = some core' ∧ core'.transportSession = some session) → key' = key) :
    r'.state.SessionMapped := by
  have hnone : core.transportSession = none := (hsound.allows_resumed_iff hattaches.live).1 hattaches.allowed
  have hcoreAt := hattaches.coreAt
  have hmap : r'.state.targetKeyBySession = r.state.targetKeyBySession.insert session key := by
    obtain ⟨_, _, -, -, rfl⟩ := hattaches.result
    simp [hnone]
  refine ⟨fun session' key' => ?_, fun key' core' hcore' hterminal => ?_⟩
  · rw [hmap, Tables.getElem?_insert, hcoreAt]
    by_cases hsession : session = session'
    · subst hsession
      by_cases hkey : key = key'
      · subst hkey
        simp [TargetCore.attach]
      · simp only [if_true, if_neg hkey, Option.some.injEq]
        exact ⟨fun hk => absurd hk hkey, fun hheld => (hsole key' hheld).symm⟩
    · rw [if_neg hsession, h.map_iff]
      by_cases hkey : key = key'
      · subst hkey
        simp [hattaches.tracked, hnone, TargetCore.attach, hsession]
      · rw [if_neg hkey]
  · rw [hcoreAt] at hcore'
    split at hcore'
    · cases hcore'
      have hlive := TargetCore.isTerminal_of_isLive (hsound.isLive_attach hattaches.live hnone session)
      cases hlive.symm.trans hterminal
    · exact h.terminal key' core' hcore' hterminal

theorem SupervisorState.SessionMapped.of_ending {ending : Ending} (h : state.SessionMapped)
    (htracked : state.coreAt key = some core) (henabled : ending.Enabled state key core)
    (hkept : (∃ session, ending = .detached session) ∨ ending = .domainFailed ∨ ending = .destroyed ∨
      core.transportSession = none)
    (hcores : ∀ key', state'.coreAt key' = if key = key' then some (ending.core core) else state.coreAt key')
    (hmap : state'.targetKeyBySession = ending.unmap core state.targetKeyBySession) : state'.SessionMapped := by
  have hnone : (ending.core core).transportSession = none := by
    rcases hkept with ⟨session, rfl⟩ | rfl | rfl | hnone
    · rfl
    · rfl
    · rfl
    · cases ending <;> simp [Ending.core, hnone]
  have hunmap : ending.unmap core state.targetKeyBySession =
      core.transportSession.elim state.targetKeyBySession state.targetKeyBySession.erase := by
    cases ending with
    | detached session =>
      obtain ⟨core', hcore', hsession⟩ := (h.map_iff session key).1 henabled.1
      obtain rfl := Option.some.inj (htracked.symm.trans hcore')
      simp [Ending.unmap, hsession]
    | domainFailed | destroyed => rfl
    | attachFailed =>
      have hcore : core.transportSession = none := by simpa using hkept
      simp [Ending.unmap, hcore]
  refine ⟨fun session' key' => ?_, fun key' core' hcore' hterminal => ?_⟩
  · have hlookup : state'.targetKeyBySession[session']? = some key' ↔
        state.targetKeyBySession[session']? = some key' ∧ core.transportSession ≠ some session' := by
      rw [hmap, hunmap]
      cases hsession : core.transportSession with
      | none => simp
      | some session =>
        rw [Option.elim_some, Tables.getElem?_erase]
        by_cases hsame : session = session' <;> simp [hsame]
    rw [hlookup, h.map_iff, hcores]
    by_cases hkey : key = key'
    · subst hkey
      simp [htracked, hnone]
    · simp only [if_neg hkey]
      refine ⟨fun hheld => hheld.1, fun hheld => ⟨hheld, fun hown => hkey ?_⟩⟩
      have hfirst := (h.map_iff session' key).2 ⟨core, htracked, hown⟩
      exact Option.some.inj (hfirst.symm.trans ((h.map_iff session' key').2 hheld))
  · rw [hcores] at hcore'
    split at hcore'
    · exact Option.some.inj hcore' ▸ hnone
    · exact h.terminal key' core' hcore' hterminal

theorem SupervisorState.SessionMapped.of_lose (h : state.SessionMapped) :
    (clearSessions { state with
      targetsByKey := state.targetsByKey.map fun _ target => target.suspend }).SessionMapped := by
  have hnone : ∀ (key : String) (core : TargetCore), ((state.targetsByKey.map fun _ target => target.suspend)[key]?.map
      SupervisorTargetState.core) = some core → core.transportSession = none := by
    intro key core hcore
    rw [coreAt_suspended] at hcore
    obtain ⟨core₀, hcore₀, rfl⟩ := Option.map_eq_some_iff.1 hcore
    cases hterminal : core₀.suspend.isTerminal with
    | false => exact TargetCore.session_suspend hterminal
    | true =>
      unfold TargetCore.suspend at hterminal ⊢
      split
      · rename_i hwas
        exact h.terminal key core₀ hcore₀ hwas
      · split <;> rfl
  refine ⟨fun session key => ?_, fun key core hcore _ => hnone key core hcore⟩
  refine iff_of_false (by simp [clearSessions]) ?_
  rintro ⟨core, hcore, hsession⟩
  rw [hnone key core hcore] at hsession
  cases hsession

theorem SupervisorState.SessionMapped.reclaimed (h : state.SessionMapped) : state.reclaimed.SessionMapped := by
  refine ⟨fun session key => ?_, fun key core hcore hterminal => ?_⟩
  · have hlive : (liveTargets state.targetsByKey).contains key = true ↔
        ∃ core, state.coreAt key = some core ∧ core.isTerminal = false := by
      rw [ExtTreeMap.contains_iff_mem, ExtTreeMap.mem_iff_isSome_getElem?, liveTargets, ExtTreeMap.getElem?_filter',
        SupervisorState.coreAt]
      cases state.targetsByKey[key]? with
      | none => simp
      | some target => cases hterminal : target.isTerminal <;> simp [Option.filter, hterminal]
    rw [coreAt_reclaimed, SupervisorState.reclaimed, ExtTreeMap.getElem?_filter', Option.filter_eq_some_iff, h.map_iff,
      hlive]
    constructor
    · rintro ⟨⟨core, hcore, hsession⟩, core', hcore', hlive⟩
      obtain rfl := Option.some.inj (hcore.symm.trans hcore')
      exact ⟨core, by simp [hcore, hlive, Option.filter], hsession⟩
    · rintro ⟨core, hcore, hsession⟩
      obtain ⟨hcore, hlive⟩ := Option.filter_eq_some_iff.1 hcore
      exact ⟨⟨core, hcore, hsession⟩, core, hcore, by simpa using hlive⟩
  · rw [coreAt_reclaimed, Option.filter_eq_some_iff] at hcore
    simp [hterminal] at hcore

theorem SupervisorState.SessionMapped.of_create (h : state.SessionMapped)
    (hvacant : ∀ core, state.coreAt key = some core → core.isTerminal = true) (hnone : core.transportSession = none)
    (hcores : ∀ key', state'.coreAt key' = if key = key' then some core else state.coreAt key')
    (hmap : state'.targetKeyBySession = state.targetKeyBySession) : state'.SessionMapped := by
  refine ⟨fun session key' => ?_, fun key' core' hcore' hterminal => ?_⟩
  · rw [hmap, h.map_iff, hcores]
    by_cases hkey : key = key'
    · subst hkey
      simp only [if_true, Option.some.injEq]
      refine iff_of_false ?_ ?_
      · rintro ⟨core', hcore', hsession⟩
        rw [h.terminal key core' hcore' (hvacant core' hcore')] at hsession
        cases hsession
      · rintro ⟨_, rfl, hsession⟩
        cases hnone.symm.trans hsession
    · rw [if_neg hkey]
  · rw [hcores] at hcore'
    split at hcore'
    · exact Option.some.inj hcore' ▸ hnone
    · exact h.terminal key' core' hcore' hterminal

theorem SupervisorState.SessionMapped.of_change {core' : TargetCore} (h : state.SessionMapped)
    (htracked : state.coreAt key = some core) (hsession : core'.transportSession = core.transportSession)
    (hterminal : core'.isTerminal = core.isTerminal)
    (hcores : ∀ key', state'.coreAt key' = if key = key' then some core' else state.coreAt key')
    (hmap : state'.targetKeyBySession = state.targetKeyBySession) : state'.SessionMapped := by
  refine ⟨fun session key' => ?_, fun key' core₁ hcore₁ hterminal₁ => ?_⟩
  · rw [hmap, h.map_iff, hcores]
    by_cases hkey : key = key'
    · subst hkey
      simp [htracked, hsession]
    · rw [if_neg hkey]
  · rw [hcores] at hcore₁
    split at hcore₁
    · rename_i hkey
      cases hcore₁
      rw [hsession]
      exact h.terminal key core htracked (hterminal.symm.trans hterminal₁)
    · exact h.terminal key' core₁ hcore₁ hterminal₁

/-- The acts deliver sessions to their owners only. -/
structure OwnerGuard (owner : TransportSessionId → String → Prop) (A : Act → Prop) : Prop where
  hold : ∀ key session, A (.hold key session) → owner session key
  deliver : ∀ key core session, A (.deliver key core session) → owner session key

/-- A session has one owner, and the acts fail no attachment of a target with a session and do not forget the
sessions. -/
structure MapGuard (owner : TransportSessionId → String → Prop) (A : Act → Prop) : Prop extends OwnerGuard owner A where
  oneKey : ∀ session key key', owner session key → owner session key' → key = key'
  attachFailed : ∀ key core, A (.finish .attachFailed key core) → core.transportSession = none
  forget : ¬A .forget

/-- The core is sound and holds only a session that its key owns. -/
def OwnedCore (owner : TransportSessionId → String → Prop) (key : String) (core : TargetCore) : Prop :=
  core.Sound ∧ ∀ session, core.transportSession = some session → owner session key

theorem keeps_owned (hguard : OwnerGuard owner A) : Keeps A (OwnedCore owner) (fun key session => owner session key) where
  hold := hguard.hold
  lose _ _ core h := by
    refine ⟨h.1.suspend, fun session hsession => h.2 session ?_⟩
    unfold TargetCore.suspend at hsession
    split at hsession
    · exact hsession
    · split at hsession <;> cases hsession
  create _ id visibility _ := ⟨.fresh id visibility, nofun⟩
  createAdopt key id visibility session _ howner :=
    ⟨TargetCore.Sound.attach (.fresh id visibility) rfl rfl session, fun _ h => Option.some.inj h ▸ howner⟩
  adopt key core session _ h howner hlive hallowed _ :=
    ⟨h.1.attach hlive ((h.1.allows_resumed_iff hlive).1 hallowed) session, fun _ hs => Option.some.inj hs ▸ howner⟩
  deliver key core session hA h hlive hallowed _ :=
    ⟨h.1.attach hlive ((h.1.allows_resumed_iff hlive).1 hallowed) session,
      fun _ hs => Option.some.inj hs ▸ hguard.deliver key core session hA⟩
  finish ending key core _ h := by
    refine ⟨.ending ending, fun session hsession => h.2 session ?_⟩
    cases ending with
    | attachFailed => exact hsession
    | detached _ | domainFailed | destroyed => cases hsession
  release _ _ hterminal h := ⟨.of_isTerminal hterminal, nofun⟩
  revise change _ core _ h _ := ⟨h.1.change change, fun session hs => h.2 session (by simpa using hs)⟩

/-- The invariant inside one reduction. -/
structure MappedTo (owner : TransportSessionId → String → Prop) (state : SupervisorState) : Prop where
  mapped : state.SessionMapped
  owned : state.Entries (OwnedCore owner) (fun key session => owner session key)

theorem Move.mappedTo {act : Act} (hguard : MapGuard owner A) (hA : A act) (h : Move act r r') (hr : MappedTo owner r.state) :
    MappedTo owner r'.state := by
  refine ⟨?_, h.entries (keeps_owned hguard.toOwnerGuard) hA hr.owned⟩
  have hmapped := hr.mapped
  -- no other target holds a session that the key owns
  have hsole : ∀ {key session}, owner session key → ∀ key', (∃ core', r.state.coreAt key' = some core' ∧
      core'.transportSession = some session) → key' = key := fun howner key' ⟨core', hcore', hsession⟩ =>
    hguard.oneKey _ _ _ ((hr.owned.cores key' core' hcore').2 _ hsession) howner
  cases h with
  | note | renew | enter | hold | unhold => exact hmapped.of_frame (fun _ => rfl) rfl
  | repair => exact hmapped.of_frame (fun _ => by simp) (by simp)
  | select candidate =>
    obtain ⟨_, _, -, heq⟩ := setSelection_eq r (some _)
    rw [heq]
    exact hmapped.of_frame (fun _ => rfl) rfl
  | forget => exact absurd hA hguard.forget
  | lose quiet => exact hmapped.of_lose
  | reclaim room full => exact hmapped.reclaimed
  | annotate same => exact hmapped.of_frame same rfl
  | create vacant apart fresh hashed =>
    rename_i key target id visibility
    exact hmapped.of_create vacant (by rw [fresh]; rfl) (map_core_insert _ key target) rfl
  | adopt pending attaches =>
    rename_i key core session
    have howned := hr.owned.cores key core attaches.tracked
    refine SupervisorState.SessionMapped.of_attaches ?_ howned.1 attaches (hsole (hr.owned.pending key session pending))
    exact hmapped.of_frame (fun _ => rfl) rfl
  | createAdopt vacant fresh hashed pending attaches =>
    rename_i key target id visibility session
    have hcreated : ∀ key', (Reduction.store { r with state := (removePendingKey r.state key).1 } key target).state.coreAt
        key' = if key = key' then some target.core else r.state.coreAt key' := map_core_insert _ key target
    refine SupervisorState.SessionMapped.of_attaches
      (hmapped.of_create vacant (by rw [fresh]; rfl) hcreated rfl) (fresh ▸ .fresh id visibility) attaches ?_
    rintro key' ⟨core', hcore', hsession⟩
    rw [hcreated] at hcore'
    split at hcore'
    · exact ‹key = key'›.symm
    · exact hsole (hr.owned.pending key session pending) key' ⟨core', hcore', hsession⟩
  | deliver attaches =>
    rename_i key core session
    have howned := hr.owned.cores key core attaches.tracked
    exact hmapped.of_attaches howned.1 attaches (hsole (hguard.deliver key core session hA))
  | finish tracked enabled result quiet emitted =>
    rename_i ending key core target revision effects es
    refine hmapped.of_ending tracked enabled ?_ (fun key' => ?_) (by simp)
    · cases ending with
      | detached session => exact .inl ⟨session, rfl⟩
      | domainFailed => exact .inr (.inl rfl)
      | destroyed => exact .inr (.inr (.inl rfl))
      | attachFailed => exact .inr (.inr (.inr (hguard.attachFailed key core hA)))
    · rw [coreAt_reconcileSelection, ← result]
      exact map_core_insert _ key target key'
  | release mapped untracked =>
    obtain ⟨core, hcore, -⟩ := (hmapped.map_iff _ _).1 mapped
    cases untracked.symm.trans hcore
  | releaseTerminal mapped tracked terminal =>
    obtain ⟨core, hcore, hsession⟩ := (hmapped.map_iff _ _).1 mapped
    obtain rfl := Option.some.inj ((coreAt_of_getElem? tracked).symm.trans hcore)
    cases (hmapped.terminal _ _ hcore terminal).symm.trans hsession
  | revise tracked enabled result quiet emitted =>
    rename_i change key core target effects es
    exact hmapped.of_change tracked (by simp [result]) (by simp [result]) (map_core_insert _ key target) rfl

theorem Moves.mappedTo (hguard : MapGuard owner A) (h : Moves A r r') (hr : MappedTo owner r.state) : MappedTo owner r'.state :=
  h.invariant (P := fun r => MappedTo owner r.state) (fun _ _ _ hA hm => hm.mappedTo hguard hA) hr

/-! ### Runs -/

/-- The sessions that an input reports, with the keys of their targets. -/
def SupervisorInput.reports : SupervisorInput → List (String × TransportSessionId)
  | .attached key session | .unsolicitedAttached key session => [(key, session)]
  | input => input.restored.filterMap fun e => e.session.map fun session => (e.info.targetKey, session)

/-- The transport reports no session for two targets at once: a session that it delivers is held for no other target,
and a snapshot lists a session under one key. -/
def SoleReports (state : SupervisorState) (input : SupervisorInput) : Prop :=
  ∀ payload, input.accepted state = some payload →
    (∀ key session, payload.delivery = some (key, session) → ∀ key', state.Holds session key' → key' = key) ∧
      ∀ key key' session, (key, session) ∈ payload.reports → (key', session) ∈ payload.reports → key = key'

/-- A reported session is held for no other key, and reported for no other key. -/
def UnsharedReports (state : SupervisorState) (input : SupervisorInput) : Prop :=
  ∀ payload, input.accepted state = some payload → ∀ key session, (key, session) ∈ payload.reports →
    ∀ key', state.Holds session key' ∨ (key', session) ∈ payload.reports → key' = key

theorem UnsharedReports.sole (h : UnsharedReports state input) : SoleReports state input := by
  intro payload haccepted
  refine ⟨fun key session hdelivery key' hheld => h payload haccepted key session ?_ key' (.inl hheld),
    fun key key' session hkey hkey' => h payload haccepted key' session hkey' key (.inr hkey)⟩
  cases payload with
  | attached | unsolicitedAttached =>
    cases hdelivery
    exact List.mem_singleton_self _
  | _ => cases hdelivery

/-- The input is neither a failed attachment of a live target that holds a session, nor a newer snapshot that lists a
target which still holds one. -/
def KeepsSessionMap (state : SupervisorState) (input : SupervisorInput) : Prop :=
  ∀ payload, input.accepted state = some payload →
    match payload with
    | .targetAttachFailed key =>
      ∀ core, state.coreAt key = some core → core.isTerminal = false → core.transportSession = none
    | .reconnected snapshot => state.sessionState ≠ .stopping →
      state.connectionGeneration < snapshot.connectionGeneration → ∀ key ∈ payload.kept, ∀ core,
        state.coreAt key = some core → core.transportSession = none
    | _ => True

theorem holds_reconcileCaptureBindings {order : VisitOrder}
    : (reconcileCaptureBindings order r).state.Holds session key ↔ r.state.Holds session key := by
  unfold SupervisorState.Holds
  rw [coreAt_reconcileCaptureBindings, pending_reconcileCaptureBindings]
  cases r.state.coreAt key <;> simp [TargetCore.bound]

/-- The map is inverse, and every session is held for one key. -/
structure SupervisorState.SessionsOwned (state : SupervisorState) : Prop where
  mapped : state.SessionMapped
  oneKey : ∀ session key key', state.Holds session key → state.Holds session key' → key = key'

theorem SupervisorState.SessionsOwned.of_pass (h : r.state.SessionsOwned) (order : VisitOrder) :
    (reconcileCaptureBindings order r).state.SessionsOwned := by
  refine ⟨⟨fun session key => ?_, fun key core hcore hterminal => ?_⟩, fun session key key' hkey hkey' => ?_⟩
  · rw [bySession_reconcileCaptureBindings, h.mapped.map_iff, coreAt_reconcileCaptureBindings]
    cases r.state.coreAt key <;> simp [TargetCore.bound]
  · rw [coreAt_reconcileCaptureBindings] at hcore
    obtain ⟨core₀, hcore₀, rfl⟩ := Option.map_eq_some_iff.1 hcore
    exact h.mapped.terminal key core₀ hcore₀ hterminal
  · exact h.oneKey session key key' (holds_reconcileCaptureBindings.1 hkey) (holds_reconcileCaptureBindings.1 hkey')

theorem MappedTo.owned' (h : MappedTo owner state) (hheld : state.Holds session key) : owner session key := by
  rcases hheld with ⟨core, hcore, hsession⟩ | hpending
  · exact (h.owned.cores key core hcore).2 session hsession
  · exact h.owned.pending key session hpending

theorem MappedTo.sessionsOwned (h : MappedTo owner state)
    (howner : ∀ session key key', owner session key → owner session key' → key = key') : state.SessionsOwned :=
  ⟨h.mapped, fun session key key' hkey hkey' => howner session key key' (h.owned' hkey) (h.owned' hkey')⟩

theorem SupervisorState.SessionsOwned.mappedTo (h : state.SessionsOwned)
    (hsound : ∀ key core, state.coreAt key = some core → core.Sound)
    (hheld : ∀ session key, state.Holds session key → owner session key) : MappedTo owner state :=
  ⟨h.mapped, fun key core hcore => ⟨hsound key core hcore, fun session hs => hheld session key (.inl ⟨core, hcore, hs⟩)⟩,
    fun key session hpending => hheld session key (.inr hpending)⟩

theorem reconnect_sessionsOwned {order : VisitOrder} {snapshot : ReconnectedSnapshot}
    (h : reconnect order { state, effects := [] } snapshot = .ok r) (hsound : state.Sound) (howned : state.SessionsOwned)
    (hfree : state.sessionState ≠ .stopping → state.connectionGeneration < snapshot.connectionGeneration →
      ∀ key ∈ (SupervisorInput.reconnected snapshot).kept, ∀ core, state.coreAt key = some core →
        core.transportSession = none)
    (hreports : ∀ key key' session, (key, session) ∈ (SupervisorInput.reconnected snapshot).reports →
      (key', session) ∈ (SupervisorInput.reconnected snapshot).reports → key = key')
    : r.state.SessionsOwned := by
  obtain rfl | ⟨hopen, hgeneration, -, r₁, hmissing, hended, hrestores⟩ := reconnect_phases h
  · exact howned
  have hcores : ∀ key core, state.coreAt key = some core → core.Sound := hsound.cores
  have hmissingGuard : MapGuard state.Holds (Missing (SupervisorInput.reconnected snapshot).kept) :=
    ⟨⟨fun _ _ h => h.elim, fun _ _ _ h => h.elim⟩, howned.oneKey, fun _ _ h => h.elim, fun h => h.elim⟩
  have hr₁ : MappedTo state.Holds r₁.state :=
    hmissing.mappedTo hmissingGuard (howned.mappedTo hcores fun _ _ hheld => hheld)
  -- the targets that stay hold nothing, and those that ended gave their session up
  have hnone : ∀ key core, r₁.state.coreAt key = some core → core.transportSession = none := by
    intro key core hcore
    have hwas := hended key
    rw [hcore] at hwas
    split at hwas
    · rename_i hkept
      exact hfree hopen hgeneration key hkept core hwas.symm
    · obtain ⟨core₀, -, rfl⟩ := Option.map_eq_some_iff.1 hwas.symm
      exact hr₁.mapped.terminal key _ hcore core₀.isTerminal_destroyed
  have hforgotten : MappedTo (fun session key => (key, session) ∈ (SupervisorInput.reconnected snapshot).reports)
      (clearSessions r₁.state) := by
    refine ⟨⟨fun session key => ?_, fun key core hcore _ => hnone key core hcore⟩, fun key core hcore => ?_, ?_⟩
    · refine iff_of_false (by simp [clearSessions]) ?_
      rintro ⟨core, hcore, hsession⟩
      cases (hnone key core hcore).symm.trans hsession
    · exact ⟨(hr₁.owned.cores key core hcore).1, fun session hs => by cases (hnone key core hcore).symm.trans hs⟩
    · simp [clearSessions]
  have howner : ∀ session key key', (key, session) ∈ (SupervisorInput.reconnected snapshot).reports →
      (key', session) ∈ (SupervisorInput.reconnected snapshot).reports → key = key' :=
    fun session key key' => hreports key key' session
  refine MappedTo.sessionsOwned (hrestores.mappedTo ⟨⟨fun _ _ h => h.elim, ?_⟩, howner, fun _ _ h => h.elim,
    fun h => h.elim⟩ hforgotten) howner
  rintro key core session ⟨e, he, rfl, hsession, -⟩
  exact List.mem_filterMap.2 ⟨e, he, by simp [hsession]⟩

theorem SupervisorState.SessionsOwned.step {effects : List SupervisorEffect} (h : state.SessionsOwned) (hsound : state.Sound)
    (hsole : SoleReports state input) (hkeeps : KeepsSessionMap state input)
    (hstep : supervision.step state input effects state') : state'.SessionsOwned := by
  obtain ⟨-, rfl, -⟩ | ⟨payload, order, r, haccepted, hr, hpass⟩ := supervision_step_cases hstep
  · exact h
  suffices H : r.state.SessionsOwned by
    have hbound := H.of_pass order
    rwa [hpass] at hbound
  obtain ⟨hdelivery, hreports⟩ := hsole payload haccepted
  have hkeeps := hkeeps payload haccepted
  by_cases hsnapshot : ∃ snapshot, payload = .reconnected snapshot
  · obtain ⟨snapshot, rfl⟩ := hsnapshot
    exact reconnect_sessionsOwned hr hsound h hkeeps hreports
  -- any other input: the owners are the holders before, and the target of the delivery
  let owner : TransportSessionId → String → Prop := fun session key =>
    state.Holds session key ∨ payload.delivery = some (key, session)
  have howner : ∀ session key key', owner session key → owner session key' → key = key' := by
    rintro session key key' (hkey | hkey) (hkey' | hkey')
    · exact h.oneKey session key key' hkey hkey'
    · exact hdelivery key' session hkey' key hkey
    · exact (hdelivery key session hkey key' hkey').symm
    · exact (Prod.mk.inj (Option.some.inj (hkey.symm.trans hkey'))).1
  have hguard : MapGuard owner (payload.Permits state) := by
    refine ⟨⟨?_, ?_⟩, howner, ?_, fun ⟨snapshot, hs⟩ => hsnapshot ⟨snapshot, hs⟩⟩
    · rintro key session (rfl | rfl) <;> exact .inr rfl
    · intro key core session hdelivers
      cases payload with
      | attached | unsolicitedAttached =>
        obtain ⟨rfl, rfl, -⟩ := hdelivers
        exact .inr rfl
      | reconnected snapshot => exact absurd ⟨snapshot, rfl⟩ hsnapshot
      | _ => simp [SupervisorInput.Permits, SupervisorInput.Delivers, SupervisorInput.restored] at hdelivers
    · rintro key core ⟨-, rfl, hcore⟩
      cases hterminal : core.isTerminal with
      | true => exact h.mapped.terminal key core hcore hterminal
      | false => exact hkeeps core hcore hterminal
  exact ((observe_moves hr).mappedTo hguard (h.mappedTo hsound.cores fun _ _ => .inl)).sessionsOwned howner

/-- A session is mapped to a key exactly when the target tracked under the key holds it, and no target that is closed
or failed holds a session. -/
def SupervisorState.SessionMapInverse (state : SupervisorState) : Prop :=
  (∀ (session : TransportSessionId) (key : String), state.targetKeyBySession[session]? = some key ↔
    ∃ target : SupervisorTargetState, state.targetsByKey[key]? = some target ∧
      target.transportSession = some session) ∧
    ∀ (key : String) (target : SupervisorTargetState), state.targetsByKey[key]? = some target →
      target.lifecycle = closed ∨ target.lifecycle = failed → target.transportSession = none

theorem SupervisorState.SessionMapped.inverse (h : state.SessionMapped) : state.SessionMapInverse := by
  refine ⟨fun session key => ?_, fun key target htarget hended => ?_⟩
  · rw [h.map_iff, SupervisorState.coreAt]
    cases state.targetsByKey[key]? <;> simp
  · refine h.terminal key target.core (coreAt_of_getElem? htarget) ?_
    rcases hended with hended | hended <;>
      simp [SupervisorTargetState.isTerminal, hended, TargetLifecycle.isTerminal]

theorem SupervisorState.SessionsOwned.new (compatibility : BrowserCompatibility) :
    (SupervisorState.new compatibility).SessionsOwned := by
  have hnone : ∀ key, (SupervisorState.new compatibility).coreAt key = none := fun key => by
    simp [SupervisorState.coreAt, SupervisorState.new]
  refine ⟨⟨fun session key => ?_, fun key core hcore => ?_⟩, fun session key key' hkey => ?_⟩
  · rw [hnone]
    simp [SupervisorState.new]
  · rw [hnone] at hcore
    cases hcore
  · unfold SupervisorState.Holds at hkey
    rw [hnone] at hkey
    simp [SupervisorState.new] at hkey

/-- In every run that stays away from the two inputs, the session map and the sessions of the targets are inverse. -/
theorem sessionMap_inverse {trace : List (SupervisorState × SupervisorInput × List SupervisorEffect)}
    {state : SupervisorState}
    (h : Run supervision (fun state input => SoleReports state input ∧ KeepsSessionMap state input) trace state) :
    state.SessionMapInverse := by
  suffices H : state.Sound ∧ state.SessionsOwned from H.2.mapped.inverse
  refine h.invariant (P := fun state => state.Sound ∧ state.SessionsOwned) ?_ ?_
  · rintro _ ⟨compatibility, rfl⟩
    exact ⟨.new compatibility, .new compatibility⟩
  · rintro state input effects state' ⟨hsound, howned⟩ ⟨hsole, hkeeps⟩ hstep
    exact ⟨hsound.step hstep, howned.step hsound hsole hkeeps hstep⟩

/-- A test for `UnsharedReports`, of the inputs below. -/
def reportsUnshared (state : SupervisorState) : SupervisorInput → Bool
  | .attached key session =>
    (state.targetsByKey.toList.all fun entry => entry.1 == key || entry.2.transportSession != some session) &&
      state.pendingAttachedSessions.toList.all fun entry => entry.1 == key || entry.2 != session
  | .initialTargets _ | .targetAttachFailed _ | .detached _ | .targetDestroyed _ => true
  | _ => false

theorem unsharedReports_of_test (h : reportsUnshared state input = true) : UnsharedReports state input := by
  intro payload haccepted key session hreports key' hheld
  cases input with
  | attached key₀ session₀ =>
    simp only [SupervisorInput.accepted] at haccepted
    split at haccepted
    · cases haccepted
    · cases haccepted
      simp only [SupervisorInput.reports, List.mem_singleton, Prod.mk.injEq] at hreports hheld
      obtain ⟨rfl, rfl⟩ := hreports
      obtain ⟨htargets, hpending⟩ := Bool.and_eq_true_iff.1 h
      rcases hheld with (⟨core, hcore, hsession⟩ | hsession) | ⟨hkey, -⟩
      · obtain ⟨target, htarget, rfl⟩ := exists_of_coreAt hcore
        have htest := Tables.forall_of_all (p := fun (k : String) (t : SupervisorTargetState) =>
          k == key || t.transportSession != some session) htargets key' target htarget
        have hsession : target.transportSession = some session := hsession
        simpa [hsession] using htest
      · have htest := Tables.forall_of_all (p := fun (k : String) (s : TransportSessionId) => k == key || s != session)
          hpending key' session hsession
        simpa using htest
      · exact hkey
  | initialTargets | targetAttachFailed | detached | targetDestroyed =>
    simp only [SupervisorInput.accepted] at haccepted
    split at haccepted
    · cases haccepted
    · cases haccepted
      simp [SupervisorInput.reports, SupervisorInput.restored] at hreports
  | _ => cases h

theorem keepsSessionMap_of_test (h : reportsUnshared state input = true) (hfailed : ∀ key, input ≠ .targetAttachFailed key)
    : KeepsSessionMap state input := by
  intro payload haccepted
  cases input with
  | targetAttachFailed key => exact absurd rfl (hfailed key)
  | attached | initialTargets | detached | targetDestroyed =>
    simp only [SupervisorInput.accepted] at haccepted
    split at haccepted
    · cases haccepted
    · cases haccepted
      trivial
  | _ => cases h

/-- After a page was attached. -/
theorem sessionMap_inverse_attached : ∃ trace state,
    Run supervision (fun state input => SoleReports state input ∧ KeepsSessionMap state input) trace state ∧
      holdsLive state "a" sessionA = true ∧ state.SessionMapInverse := by
  obtain ⟨trace, state, hrun, hheld⟩ := exists_supervisionRun
    (fun state input => SoleReports state input ∧ KeepsSessionMap state input)
    (fun state input => reportsUnshared state input && match input with | .targetAttachFailed _ => false | _ => true)
    (fun state input h => by
      obtain ⟨hsole, hfailed⟩ := Bool.and_eq_true_iff.1 h
      refine ⟨(unsharedReports_of_test hsole).sole, keepsSessionMap_of_test hsole ?_⟩
      rintro key rfl
      cases hfailed)
    [.initialTargets [pageA], .attached "a" sessionA] (fun _ state => holdsLive state "a" sessionA) (by decide)
  exact ⟨trace, state, hrun, hheld, sessionMap_inverse hrun⟩

/-- A failed attachment leaves a failed target its session. -/
theorem attachFailed_keeps_session : ¬∀ trace state, Run supervision SoleReports trace state →
    state.SessionMapInverse := by
  intro h
  obtain ⟨trace, state, hrun, htest⟩ := exists_supervisionRun SoleReports reportsUnshared (fun _ _ h => (unsharedReports_of_test h).sole)
    [.initialTargets [pageA], .attached "a" sessionA, .targetAttachFailed "a"]
    (fun _ state => state.targetsByKey["a"]?.any fun target =>
      target.lifecycle == failed && target.transportSession == some sessionA) (by decide)
  obtain ⟨target, htarget, htest⟩ := (Option.any_eq_true _ _).1 htest
  obtain ⟨hfailed, hsession⟩ := Bool.and_eq_true_iff.1 htest
  have hnone := (h trace state hrun).2 "a" target htarget (.inr (by simpa using hfailed))
  simp [hnone] at hsession

end Krometrail
