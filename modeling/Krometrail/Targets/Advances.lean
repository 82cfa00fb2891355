import Krometrail.Lib.Listings
import Krometrail.Targets.Entries

/-!
# How a reduction advances

What a handler does to the counters, to the numbers of the tracked pages, to the room of the tables and to the session
(`Advances`), one lemma for each handler of the reducer and one for a whole reduction (`reduce_advances`).  The list
`created` names the keys of the targets that the handler creates, in the order it creates them: each takes the next
page sequence.
-/

namespace Krometrail

open Results
open Std (ExtTreeMap)
open Listings (Lists Renumbers)
open TargetLifecycle (discovered attached recording suspended closed failed)

/-- The page sequence of the target tracked under a key. -/
def SupervisorState.sequenceAt (state : SupervisorState) (key : String) : Option Nat :=
  state.targetsByKey[key]?.map (·.pageSequence.value)

/-- The pending order lists each pending session exactly once, and there are not too many. -/
structure SupervisorState.PendingListed (state : SupervisorState) : Prop where
  lists : Lists state.pendingAttachedOrder state.pendingAttachedSessions
  room : state.pendingAttachedSessions.size ≤ maxPendingAttachedSessions

def SupervisorEffect.isShutdown : SupervisorEffect → Bool
  | .shutdown _ => true
  | _ => false

def shutdowns (effects : List SupervisorEffect) : Nat := effects.countP (·.isShutdown)

/-- The session stops, or has ended. -/
def BrowserSessionState.isClosing : BrowserSessionState → Bool
  | .stopping | .ended => true
  | _ => false

structure Advances (created : List String) (r r' : Reduction) : Prop where
  revision : r.state.revision ≤ u64Max → r.state.revision ≤ r'.state.revision ∧ r'.state.revision ≤ u64Max
  generation : r.state.connectionGeneration ≤ r'.state.connectionGeneration
  sequence : r'.state.nextPageSequence = r.state.nextPageSequence + created.length
  numbers : Renumbers r.state.nextPageSequence created r.state.sequenceAt r'.state.sequenceAt
  room : r.state.targetsByKey.size ≤ maxKnownPageTargets → r'.state.targetsByKey.size ≤ maxKnownPageTargets
  pending : r.state.PendingListed → r'.state.PendingListed
  closing : r.state.sessionState.isClosing = true → r'.state.sessionState.isClosing = true
  -- a shutdown is asked for exactly where the session begins to close
  balance : shutdowns r.effects + r'.state.sessionState.isClosing.toNat =
    shutdowns r'.effects + r.state.sessionState.isClosing.toNat

namespace Advances

variable {created created' : List String} {r r' r'' : Reduction}

theorem refl (r : Reduction) : Advances [] r r :=
  ⟨fun h => ⟨le_refl _, h⟩, le_refl _, rfl, .of_kept fun _ _ h => h, id, id, id, rfl⟩

theorem of_eq (h : r' = r) : Advances [] r r' := h ▸ refl r

theorem trans (h : Advances created r r') (h' : Advances created' r' r'') : Advances (created ++ created') r r'' where
  revision hr := ⟨(h.revision hr).1.trans (h'.revision (h.revision hr).2).1, (h'.revision (h.revision hr).2).2⟩
  generation := h.generation.trans h'.generation
  sequence := by rw [h'.sequence, h.sequence, List.length_append, Nat.add_assoc]
  numbers := h.numbers.trans (h.sequence ▸ h'.numbers)
  room hr := h'.room (h.room hr)
  pending hr := h'.pending (h.pending hr)
  closing hr := h'.closing (h.closing hr)
  balance := by
    have hbefore := h.balance
    have hafter := h'.balance
    omega

theorem still (h : Advances created r r') (h' : Advances [] r' r'') : Advances created r r'' :=
  List.append_nil created ▸ h.trans h'

end Advances

section

variable {r r' : Reduction} {key : String}

@[simp] theorem shutdowns_append (effects es : List SupervisorEffect) :
    shutdowns (effects ++ es) = shutdowns effects + shutdowns es := List.countP_append

@[simp] theorem shutdowns_detaches (sessions : List TransportSessionId) :
    shutdowns (sessions.map SupervisorEffect.detach) = 0 := by
  unfold shutdowns
  rw [List.countP_eq_zero]
  intro effect heffect
  obtain ⟨session, -, rfl⟩ := List.mem_map.1 heffect
  simp [SupervisorEffect.isShutdown]

variable {effects : List SupervisorEffect} {target target' : SupervisorTargetState} {visibility : TargetVisibility}
  {state : SupervisorState} {info : TransportTargetInfo} {opener : Option TargetId} {order : VisitOrder}
  {input : SupervisorInput}

theorem advances_table {table : TargetTable} {bySession : ExtTreeMap TransportSessionId String} {selected : Option String}
    (htable : ∀ key : String, table[key]?.map (·.pageSequence) = r.state.targetsByKey[key]?.map (·.pageSequence))
    (hshutdowns : shutdowns effects = shutdowns r.effects) :
    Advances [] r
      { state := { r.state with
          targetsByKey := table
          targetKeyBySession := bySession
          selectedTargetKey := selected }
        effects } where
  revision h := ⟨le_refl _, h⟩
  generation := le_refl _
  sequence := rfl
  numbers := by
    refine .of_kept fun key n hn => ?_
    have hsame := congrArg (Option.map PageSequence.value) (htable key)
    rw [Option.map_map, Option.map_map] at hsame
    exact hsame.symm.trans hn
  room h := by
    refine le_trans (Listings.size_le_of_keys fun key hkey => ?_) h
    have hsome := congrArg Option.isSome (htable key)
    rw [Option.isSome_map, Option.isSome_map] at hsome
    rw [ExtTreeMap.mem_iff_isSome_getElem?] at hkey ⊢
    exact hsome.symm.trans hkey
  pending h := ⟨h.lists, h.room⟩
  closing := id
  balance := by rw [hshutdowns]

theorem advances_emit (h : shutdowns effects = shutdowns r.effects) :
    Advances [] r { r with effects } := advances_table (fun _ => rfl) h

theorem advances_push (effect : SupervisorEffect) (h : effect.isShutdown = false) : Advances [] r (r.push effect) :=
  advances_emit (by simp [shutdowns, h])

theorem advances_publish (event : BrowserSessionEvent) : Advances [] r (publish r event) where
  revision h := ⟨le_saturatingAdd h 1, by rw [publish]; dsimp only; rw [saturatingAdd]; omega⟩
  generation := le_refl _
  sequence := rfl
  numbers := .of_kept fun _ _ h => h
  room := id
  pending h := ⟨h.lists, h.room⟩
  closing := id
  balance := by simp [publish, shutdowns, SupervisorEffect.isShutdown]

theorem stored_sequence {table : TargetTable} (htracked : table[key]? = some target)
    (hsequence : target'.pageSequence = target.pageSequence) (key' : String) :
    (table.insert key target')[key']?.map (·.pageSequence) = table[key']?.map (·.pageSequence) := by
  rw [Tables.getElem?_insert]
  by_cases hkey : key = key'
  · subst hkey
    simp [htracked, hsequence]
  · rw [if_neg hkey]

theorem advances_store (htracked : r.state.targetsByKey[key]? = some target)
    (hsequence : target'.pageSequence = target.pageSequence) : Advances [] r (r.store key target') :=
  advances_table (stored_sequence htracked hsequence) rfl

theorem advances_setSelection (selected : Option String) : Advances [] r (setSelection r selected) := by
  unfold setSelection
  split
  · exact .refl r
  · exact (advances_table (fun _ => rfl) rfl).trans (advances_publish _)

theorem advances_reconcileSelection (r : Reduction) : Advances [] r (reconcileSelection r) := by
  unfold reconcileSelection
  split
  · exact .refl r
  · exact advances_setSelection _

theorem advances_selectTarget (h : selectTarget r key = .ok r') : Advances [] r r' := by
  unfold selectTarget at h
  split at h
  · exact Except.ok.inj h ▸ advances_setSelection _
  · cases h

theorem advances_setSessionState {next : BrowserSessionState} (h : setSessionState r next = .ok r')
    (hnext : next.isClosing = false) : Advances [] r r' := by
  unfold setSessionState at h
  split at h
  · exact .of_eq (Except.ok.inj h).symm
  · split at h
    · rename_i hallowed
      have hopen : r.state.sessionState.isClosing = false := by
        cases hstate : r.state.sessionState <;> cases next <;>
          simp_all [BrowserSessionState.allows, BrowserSessionState.isClosing]
      have henter : Advances [] r { r with state := { r.state with sessionState := next } } :=
        ⟨fun h => ⟨le_refl _, h⟩, le_refl _, rfl, .of_kept fun _ _ h => h, id, fun h => ⟨h.lists, h.room⟩,
          fun hclosing => absurd (hopen.symm.trans hclosing) nofun, by rw [hopen, hnext]⟩
      exact Except.ok.inj h ▸ henter.trans (advances_publish _)
    · cases h

theorem advances_beginShutdown {cause : ShutdownCause} (h : beginShutdown r cause = .ok r') : Advances [] r r' := by
  unfold beginShutdown at h
  split at h
  · exact .of_eq (Except.ok.inj h).symm
  · split at h
    · exact .of_eq (Except.ok.inj h).symm
    · rename_i hended hstopping
      have hopen : r.state.sessionState.isClosing = false := by
        cases hstate : r.state.sessionState <;> simp_all [BrowserSessionState.isClosing]
      simp only [bind_eq_ok, pure_eq_ok] at h
      obtain ⟨r₁, hr₁, rfl⟩ := h
      unfold setSessionState at hr₁
      rw [if_neg hstopping] at hr₁
      split at hr₁
      · cases hr₁
        refine ⟨fun h => ?_, le_refl _, rfl, .of_kept fun _ _ h => h, id,
          fun h => ⟨h.lists, h.room⟩, fun _ => rfl, ?_⟩
        · exact (advances_publish (.sessionStateChanged .stopping)).revision h
        · rw [hopen]
          simp [Reduction.push, publish, shutdowns, SupervisorEffect.isShutdown, BrowserSessionState.isClosing]
      · cases hr₁

theorem advances_failSession {error : KrometrailError} {cause : ShutdownCause}
    (h : failSession r error cause = .ok r') : Advances [] r r' :=
  (advances_publish _).trans (advances_beginShutdown h)

theorem advances_initialReconciliationCompleted (h : initialReconciliationCompleted r = .ok r') : Advances [] r r' := by
  unfold initialReconciliationCompleted at h
  split at h
  · cases h
  · exact (advances_reconcileSelection r).trans (advances_setSessionState h rfl)

/-! ### Pending and live attachments -/

theorem advances_pending {sessions : ExtTreeMap String TransportSessionId} {order : List String}
    (hshutdowns : shutdowns effects = shutdowns r.effects)
    (h : r.state.PendingListed → Lists order sessions ∧ sessions.size ≤ maxPendingAttachedSessions) :
    Advances [] r
      { state := { r.state with pendingAttachedSessions := sessions, pendingAttachedOrder := order }, effects } :=
  ⟨fun h => ⟨le_refl _, h⟩, le_refl _, rfl, .of_kept fun _ _ h => h, id, fun hr => ⟨(h hr).1, (h hr).2⟩, id,
    by rw [hshutdowns]⟩

theorem advances_removePendingKey (r : Reduction) (key : String) :
    Advances [] r { r with state := (removePendingKey r.state key).1 } :=
  advances_pending rfl fun h => ⟨h.lists.erase key, le_trans ExtTreeMap.size_erase_le h.room⟩

theorem advances_removePendingSession (r : Reduction) (session : TransportSessionId) :
    Advances [] r { r with state := removePendingSession r.state session } := by
  unfold removePendingSession
  generalize (r.state.pendingAttachedSessions.toList.filter fun entry => entry.2 = session).map (·.1) = keys
  induction keys generalizing r with
  | nil => exact .refl r
  | cons key keys ih => exact (advances_removePendingKey r key).trans (ih { r with state := (removePendingKey r.state key).1 })

theorem evictPending_lists {sessions : ExtTreeMap String TransportSessionId} {order : List String}
    (h : Lists order sessions) (effects : List SupervisorEffect) :
    Lists (evictPending sessions effects order).2.1 (evictPending sessions effects order).1 ∧
      (evictPending sessions effects order).1.size ≤ maxPendingAttachedSessions := by
  induction order generalizing sessions effects with
  | nil => exact ⟨h, by simp [evictPending, h.size_eq]⟩
  | cons oldest order ih =>
    unfold evictPending
    split
    · obtain ⟨session, hsession⟩ : ∃ session, sessions[oldest]? = some session := by
        rw [← Option.isSome_iff_exists, ← ExtTreeMap.mem_iff_isSome_getElem?, ← h.mem_iff]
        exact List.mem_cons_self
      rw [hsession]
      exact ih h.tail _
    · rename_i hroom
      exact ⟨h, Nat.le_of_not_lt hroom⟩

theorem shutdowns_evictPending (sessions : ExtTreeMap String TransportSessionId) (effects : List SupervisorEffect)
    (order : List String) : shutdowns (evictPending sessions effects order).2.2 = shutdowns effects := by
  obtain ⟨evicted, hevicted⟩ := evictPending_effects sessions effects order
  rw [hevicted, shutdowns_append, detaches, shutdowns_detaches]
  rfl

theorem advances_holdPending (r : Reduction) (key : String) (session : TransportSessionId) (unsolicited : Bool) :
    Advances [] r (holdPending r key session unsolicited) := by
  have hreleased : shutdowns (if unsolicited then [SupervisorEffect.releaseWaitingTarget session] else []) = 0 := by
    cases unsolicited <;> rfl
  refine advances_pending ?_ fun h => evictPending_lists (h.lists.insert key session) _
  rw [shutdowns_evictPending, shutdowns_append, shutdowns_append, shutdowns_detaches, hreleased]
  rfl

theorem shutdowns_attachmentEffects (state : SupervisorState) (key : String) (target : SupervisorTargetState)
    (session : TransportSessionId) (probeVisibility : Bool) :
    shutdowns (attachmentEffects state key target session probeVisibility) = 0 := by
  unfold attachmentEffects
  cases target.viewportOverride <;> cases probeVisibility <;> rfl

theorem advances_attach {session : TransportSessionId} {probeVisibility unsolicited : Bool}
    (h : attach r key session probeVisibility unsolicited = .ok r') : Advances [] r r' := by
  unfold attach at h
  split at h
  · exact Except.ok.inj h ▸ advances_holdPending r key session unsolicited
  · rename_i target htracked
    split at h
    · exact .of_eq (Except.ok.inj h).symm
    · split at h
      · exact .of_eq (Except.ok.inj h).symm
      · unfold attachLive at h
        simp only [bind_eq_ok, pure_eq_ok, attachedTarget_eq_ok] at h
        obtain ⟨target', ⟨-, -, rfl⟩, rfl⟩ := h
        refine advances_table (stored_sequence htracked rfl) ?_
        rw [shutdowns_append, shutdowns_append, shutdowns_detaches, shutdowns_attachmentEffects]
        rfl

theorem advances_adoptPendingAttachment (h : adoptPendingAttachment r key = .ok r') : Advances [] r r' := by
  unfold adoptPendingAttachment at h
  have hremoved := advances_removePendingKey r key
  dsimp only at h
  split at h
  · exact Except.ok.inj h ▸ hremoved
  · exact hremoved.trans (advances_attach h)

/-- The end of a target: its sessions go, the target is stored with another lifecycle, the selection is repaired. -/
theorem advances_end {bySession : ExtTreeMap TransportSessionId String} (htracked : r.state.targetsByKey[key]? = some target)
    (hsequence : target'.pageSequence = target.pageSequence) (hshutdowns : shutdowns effects = shutdowns r.effects) :
    Advances [] r
      (Reduction.store { state := { r.state with targetKeyBySession := bySession }, effects } key target') :=
  advances_table (stored_sequence htracked hsequence) hshutdowns

theorem advances_detachFailed {session : TransportSessionId} (h : detachFailed r session = .ok r') :
    Advances [] r r' := by
  unfold detachFailed at h
  split at h
  · exact .of_eq (Except.ok.inj h).symm
  · dsimp only at h
    split at h
    · exact Except.ok.inj h ▸ advances_table (fun _ => rfl) rfl
    · rename_i target htracked
      split at h
      · exact Except.ok.inj h ▸ advances_end htracked rfl rfl
      · simp only [bind_eq_ok, pure_eq_ok] at h
        obtain ⟨lifecycle, -, rfl⟩ := h
        refine .still (.still ?_ (advances_publish _)) (advances_reconcileSelection _)
        exact advances_end htracked rfl rfl

theorem advances_domainSetupFailed (h : domainSetupFailed r key = .ok r') : Advances [] r r' := by
  unfold domainSetupFailed at h
  split at h
  · exact .of_eq (Except.ok.inj h).symm
  · rename_i target htracked
    split at h
    · exact .of_eq (Except.ok.inj h).symm
    · simp only [bind_eq_ok, pure_eq_ok] at h
      obtain ⟨lifecycle, -, rfl⟩ := h
      refine .still (.still ?_ (advances_publish _)) (advances_reconcileSelection _)
      refine advances_end htracked rfl ?_
      rw [shutdowns_append, shutdowns_detaches]
      rfl

theorem advances_destroy (h : destroy r key = .ok r') : Advances [] r r' := by
  unfold destroy at h
  split at h
  · exact .of_eq (Except.ok.inj h).symm
  · rename_i target htracked
    split at h
    · exact .of_eq (Except.ok.inj h).symm
    · simp only [bind_eq_ok, pure_eq_ok] at h
      obtain ⟨lifecycle, -, rfl⟩ := h
      refine .still (.still ?_ (advances_push _ rfl)) (advances_reconcileSelection _)
      refine advances_end htracked rfl ?_
      rw [shutdowns_append, shutdowns_detaches]
      rfl

theorem advances_targetAttachFailed (h : targetAttachFailed r key = .ok r') : Advances [] r r' := by
  unfold targetAttachFailed at h
  split at h
  · exact .of_eq (Except.ok.inj h).symm
  · rename_i target htracked
    split at h
    · exact .of_eq (Except.ok.inj h).symm
    · simp only [bind_eq_ok, pure_eq_ok] at h
      obtain ⟨lifecycle, -, rfl⟩ := h
      refine .still (.still ?_ (advances_publish _)) (advances_reconcileSelection _)
      exact advances_store htracked rfl

theorem advances_captureStartFailed (r : Reduction) (key : String) : Advances [] r (captureStartFailed r key) := by
  unfold captureStartFailed
  split
  · exact .refl r
  · rename_i target htracked
    split
    · exact .refl r
    · refine .still ?_ (advances_push _ rfl)
      exact advances_store htracked rfl

theorem advances_visibilityChanged {observedAt : SessionTime} (h : visibilityChanged r key visibility observedAt = .ok r')
    : Advances [] r r' := by
  unfold visibilityChanged at h
  split at h
  · exact .of_eq (Except.ok.inj h).symm
  · rename_i target htracked
    split at h
    · exact .of_eq (Except.ok.inj h).symm
    · split at h
      · exact .of_eq (Except.ok.inj h).symm
      · dsimp only at h
        split at h
        · exact Except.ok.inj h ▸ advances_store htracked rfl
        · simp only [bind_eq_ok, pure_eq_ok] at h
          obtain ⟨lifecycle, -, rfl⟩ := h
          refine .still ?_ (advances_push _ rfl)
          exact advances_store htracked rfl

theorem advances_initialVisibilityProbeFailed (r : Reduction) (key : String) :
    Advances [] r (initialVisibilityProbeFailed r key) := by
  unfold initialVisibilityProbeFailed
  split
  · exact .refl r
  · rename_i target htracked
    split
    · exact advances_store htracked rfl
    · exact .refl r

theorem advances_viewportOverrideApplied {viewport : Option ViewportMetrics}
    (h : viewportOverrideApplied r key viewport = .ok r') : Advances [] r r' := by
  unfold viewportOverrideApplied at h
  split at h
  · cases h
  · rename_i target htracked
    split at h
    · cases h
    · exact Except.ok.inj h ▸ advances_store htracked rfl

/-! ### Creation and reconciliation of targets -/

theorem createTarget_numbers {created : SupervisorState × SupervisorTargetState}
    (h : createTarget state info visibility opener = .ok created) :
    ∃ slot, preparePageTargetSlot state = .ok slot ∧ created.2.pageSequence.value = slot.nextPageSequence ∧
      created.1 = { slot with
        revision := saturatingAdd slot.revision 1
        nextPageSequence := slot.nextPageSequence + 1 } := by
  unfold createTarget at h
  simp only [bind_eq_ok, pure_eq_ok, okOr_eq_ok, checkedAdd_eq_some] at h
  obtain ⟨slot, hslot, pageSequence, hsequence, nextPageSequence, ⟨-, rfl⟩, target, -, rfl⟩ := h
  refine ⟨slot, hslot, ?_, rfl⟩
  change PageSequence.new slot.nextPageSequence = .ok pageSequence at hsequence
  unfold PageSequence.new at hsequence
  split at hsequence
  · cases hsequence
  · exact congrArg PageSequence.value (Except.ok.inj hsequence).symm

theorem preparePageTargetSlot_room {slot : SupervisorState} (h : preparePageTargetSlot state = .ok slot) :
    (∀ (key : String) target, slot.targetsByKey[key]? = some target → state.targetsByKey[key]? = some target) ∧
      slot.targetsByKey.size < maxKnownPageTargets := by
  obtain ⟨hroom, ⟨-, rfl⟩ | ⟨hfree, rfl⟩⟩ := preparePageTargetSlot_cases h
  · refine ⟨fun key target htracked => ?_, hroom⟩
    have hkept : (liveTargets state.targetsByKey)[key]? = some target := htracked
    rw [liveTargets, ExtTreeMap.getElem?_filter'] at hkept
    exact (Option.filter_eq_some_iff.1 hkept).1
  · exact ⟨fun _ _ htracked => htracked, hfree⟩

theorem advances_create {created : SupervisorState × SupervisorTargetState}
    (h : createTarget r.state info visibility opener = .ok created) (hshutdowns : shutdowns effects = shutdowns r.effects) :
    Advances [info.targetKey] r (Reduction.store { state := created.1, effects } info.targetKey created.2) := by
  obtain ⟨slot, hslot, hsequence, hstate⟩ := createTarget_numbers h
  obtain ⟨hkept, hroom⟩ := preparePageTargetSlot_room hslot
  -- the slot differs from the state in the table and the session map alone
  obtain ⟨table, bySession, rfl⟩ : ∃ table bySession,
      slot = { r.state with targetsByKey := table, targetKeyBySession := bySession } := by
    obtain ⟨-, ⟨-, rfl⟩ | ⟨-, rfl⟩⟩ := preparePageTargetSlot_cases hslot
    · exact ⟨_, _, rfl⟩
    · exact ⟨_, _, rfl⟩
  rw [hstate]
  refine ⟨fun h => ⟨le_saturatingAdd h 1, ?_⟩, le_refl _, rfl, ?_, fun _ => ?_, fun h => ⟨h.lists, h.room⟩, id, ?_⟩
  · change saturatingAdd r.state.revision 1 ≤ u64Max
    rw [saturatingAdd]
    omega
  · intro key n hn
    change (table.insert info.targetKey created.2)[key]?.map (·.pageSequence.value) = some n at hn
    rw [Tables.getElem?_insert] at hn
    by_cases hkey : info.targetKey = key
    · rw [if_pos hkey] at hn
      have hnext : r.state.nextPageSequence = n := hsequence.symm.trans (Option.some.inj hn)
      exact .inr ⟨hnext.le, by simp [hnext, hkey]⟩
    · rw [if_neg hkey] at hn
      obtain ⟨target, htracked, hn⟩ := Option.map_eq_some_iff.1 hn
      exact .inl (by rw [SupervisorState.sequenceAt, hkept key target htracked, ← hn]; rfl)
  · have hinsert : (table.insert info.targetKey created.2).size ≤ table.size + 1 := ExtTreeMap.size_insert_le
    change (table.insert info.targetKey created.2).size ≤ _
    have hfree : table.size < maxKnownPageTargets := hroom
    omega
  · change shutdowns r.effects + _ = shutdowns effects + _
    rw [hshutdowns]
    rfl

theorem advances_establishTarget {creationEvent : Bool} (h : establishTarget r info opener creationEvent = .ok r')
    : Advances [info.targetKey] r r' := by
  unfold establishTarget at h
  simp only [bind_eq_ok] at h
  obtain ⟨created, hcreated, h⟩ := h
  have hshutdowns : shutdowns (if creationEvent then r.effects ++ [targetDiscoveredEvent created.2] else r.effects) =
      shutdowns r.effects := by
    cases creationEvent
    · rfl
    · exact shutdowns_append _ _
  generalize (if creationEvent then r.effects ++ [targetDiscoveredEvent created.2] else r.effects) = effects at h hshutdowns
  have hcreate := advances_create hcreated hshutdowns
  split at h
  · exact hcreate.still (advances_adoptPendingAttachment h)
  · simp only [pure_eq_ok] at h
    exact h ▸ hcreate.still (advances_push _ rfl)

theorem sequence_of_withInfo (h : withInfo target info = .ok target') : target'.pageSequence = target.pageSequence := by
  unfold withInfo at h
  simp only [bind_eq_ok, pure_eq_ok] at h
  obtain ⟨page, -, rfl⟩ := h
  rfl

theorem advances_refreshTarget (htracked : r.state.targetsByKey[info.targetKey]? = some target)
    (h : refreshTarget r target info = .ok r') : Advances [] r r' := by
  unfold refreshTarget at h
  simp only [bind_eq_ok] at h
  obtain ⟨r₁, hr₁, h⟩ := h
  have hrefreshed : Advances [] r r₁ := by
    split at hr₁
    · simp only [bind_eq_ok, pure_eq_ok] at hr₁
      obtain ⟨target', htarget', rfl⟩ := hr₁
      exact (advances_store htracked (sequence_of_withInfo htarget')).still (advances_push _ rfl)
    · exact .of_eq (Except.ok.inj hr₁).symm
  exact hrefreshed.still (advances_adoptPendingAttachment h)

/-- Whatever `reconcile_one` does, it creates the target of its key at most. -/
theorem advances_reconcileOne {creationEvent : Bool} (h : reconcileOne r info creationEvent = .ok r') :
    ∃ created, created.Sublist (([info].filter (·.isRecordable)).map (·.targetKey)) ∧ Advances created r r' := by
  unfold reconcileOne at h
  cases hrecordable : info.isRecordable with
  | false =>
    simp only [hrecordable, Bool.not_false, if_true] at h
    refine ⟨[], List.nil_sublist _, ?_⟩
    split at h
    · exact advances_destroy h
    · exact .of_eq (Except.ok.inj h).symm
  | true =>
    simp only [hrecordable, Bool.not_true, Bool.false_eq_true, if_false] at h
    have hkeys : ([info].filter (·.isRecordable)).map (·.targetKey) = [info.targetKey] := by simp [hrecordable]
    rw [hkeys]
    split at h
    · rename_i target htracked
      split at h
      · split at h
        · exact ⟨_, List.Sublist.refl _, advances_establishTarget h⟩
        · exact ⟨[], List.nil_sublist _, .of_eq (Except.ok.inj h).symm⟩
      · exact ⟨[], List.nil_sublist _, advances_refreshTarget htracked h⟩
    · exact ⟨_, List.Sublist.refl _, advances_establishTarget h⟩

theorem advances_loop {α : Type} {f : Reduction → α → Result Reduction} {l : List α} (keyOf : α → String)
    (hturn : ∀ a ∈ l, ∀ r r', f r a = .ok r' → ∃ created, created.Sublist [keyOf a] ∧ Advances created r r')
    (h : l.foldlM f r = .ok r') : ∃ created, created.Sublist (l.map keyOf) ∧ Advances created r r' := by
  refine foldlM_prefix (P := fun done r' => ∃ created, created.Sublist (done.map keyOf) ∧ Advances created r r')
    (fun l₁ a l₂ r₁ r₂ hl hdone hrun => ?_) ⟨[], List.nil_sublist _, .refl r⟩ h
  obtain ⟨created, hsub, hadvances⟩ := hdone
  obtain ⟨created', hsub', hadvances'⟩ := hturn a (by simp [hl]) r₁ r₂ hrun
  refine ⟨created ++ created', ?_, hadvances.trans hadvances'⟩
  rw [List.map_append]
  exact hsub.append hsub'

theorem advances_destroyMissing {kept : List String} (h : destroyMissing order r kept = .ok r') : Advances [] r r' := by
  refine foldlM_rel .refl (fun _ _ _ => .still) (fun key _ r r' h => ?_) h
  split at h
  · exact .of_eq (Except.ok.inj h).symm
  · exact advances_destroy h

theorem advances_reconcileInitial {infos : List TransportTargetInfo} (h : reconcileInitial order r infos = .ok r') :
    ∃ created, created.Sublist ((infos.filter (·.isRecordable)).map (·.targetKey)) ∧ Advances created r r' := by
  unfold reconcileInitial at h
  simp only [bind_eq_ok] at h
  obtain ⟨_, -, r₁, hr₁, h⟩ := h
  obtain ⟨created, hsub, hadvances⟩ := advances_loop (·.targetKey) (fun info hinfo r r' hrun => by
    have hone := advances_reconcileOne hrun
    rwa [List.filter_cons_of_pos (List.mem_filter.1 hinfo).2] at hone) h
  exact ⟨created, hsub, (advances_destroyMissing hr₁).trans hadvances⟩

theorem advances_clearSessions (r : Reduction) : Advances [] r { r with state := clearSessions r.state } where
  revision h := ⟨le_refl _, h⟩
  generation := le_refl _
  sequence := rfl
  numbers := .of_kept fun _ _ h => h
  room := id
  pending _ := ⟨Listings.lists_empty, by simp [clearSessions]⟩
  closing := id
  balance := rfl

theorem advances_suspendTarget (h : suspendTarget r key = .ok r') : Advances [] r r' := by
  unfold suspendTarget at h
  split at h
  · exact .of_eq (Except.ok.inj h).symm
  · rename_i target htracked
    split at h
    · exact .of_eq (Except.ok.inj h).symm
    · split at h
      · exact Except.ok.inj h ▸ advances_store htracked rfl
      · simp only [bind_eq_ok, pure_eq_ok] at h
        obtain ⟨lifecycle, -, rfl⟩ := h
        have hannounced := advances_push (r := r) (targetChangedEvent { target with
          priorToSuspension := some target.lifecycle
          target := { target.target with lifecycle } }) rfl
        refine hannounced.still ?_
        exact advances_store htracked rfl

theorem advances_connectionLost (h : connectionLost order r = .ok r') : Advances [] r r' := by
  unfold connectionLost at h
  simp only [bind_eq_ok, pure_eq_ok] at h
  obtain ⟨r₁, hr₁, r₂, hr₂, rfl⟩ := h
  have hsuspended : Advances [] r₁ r₂ :=
    foldlM_rel .refl (fun _ _ _ => .still) (fun key _ r r' h => advances_suspendTarget h) hr₂
  have hcleared := ((advances_setSessionState hr₁ rfl).still hsuspended).still (advances_clearSessions r₂)
  exact hcleared.still (advances_push .beginReconnect rfl)

theorem advances_reconcileRestored {reconnected : ReconnectedTarget} (h : reconcileRestored r reconnected = .ok r') :
    ∃ created, created.Sublist [reconnected.info.targetKey] ∧ Advances created r r' := by
  unfold reconcileRestored at h
  split at h
  · unfold establishRestored at h
    simp only [bind_eq_ok] at h
    obtain ⟨created, hcreated, h⟩ := h
    have hcreate : Advances [reconnected.info.targetKey] r
        (Reduction.store { r with state := created.1 } reconnected.info.targetKey created.2) := advances_create hcreated rfl
    refine ⟨_, List.Sublist.refl _, ?_⟩
    split at h
    · exact hcreate.still (advances_attach h)
    · simp only [pure_eq_ok] at h
      exact h ▸ hcreate.still (advances_push _ rfl)
  · rename_i target htracked
    unfold refreshRestored at h
    simp only [bind_eq_ok] at h
    obtain ⟨target', htarget', h⟩ := h
    have hsequence : target'.pageSequence = target.pageSequence := by
      split at htarget'
      · exact sequence_of_withInfo htarget'
      · rw [Except.ok.inj htarget']
    refine ⟨[], List.nil_sublist _, ?_⟩
    have hstore : Advances [] r (r.store reconnected.info.targetKey
        { target' with target := { target'.target with visibility := reconnected.visibility } }) :=
      advances_store htracked hsequence
    split at h
    · exact hstore.still (advances_attach h)
    · simp only [pure_eq_ok] at h
      subst h
      split
      · split
        · exact (hstore.still (advances_push _ rfl)).still (advances_push _ rfl)
        · exact hstore.still (advances_push _ rfl)
      · split
        · exact hstore.still (advances_push _ rfl)
        · exact hstore

theorem advances_resolveUnresolvedOpeners (r : Reduction) :
    Advances [] r { r with state := resolveUnresolvedOpeners r.state } := by
  refine advances_table (fun key => ?_) rfl
  rw [ExtTreeMap.getElem?_map, Option.map_map]
  congr 1
  funext target
  dsimp only [Function.comp_apply]
  split <;> rfl

theorem advances_reconnect {snapshot : ReconnectedSnapshot} (h : reconnect order r snapshot = .ok r') :
    ∃ created, created.Sublist ((snapshot.targets.filter (·.info.isRecordable)).map (·.info.targetKey)) ∧
      Advances created r r' := by
  obtain ⟨rfl, -⟩ | ⟨-, hgeneration, -, r₁, r₂, hr₁, hr₂, hr'⟩ := reconnect_cases h
  · exact ⟨[], List.nil_sublist _, .refl _⟩
  · have hrenew : Advances [] r { r with state := { r.state with
        connectionGeneration := snapshot.connectionGeneration
        compatibility := snapshot.compatibility } } :=
      ⟨fun h => ⟨le_refl _, h⟩, hgeneration.le, rfl, .of_kept fun _ _ h => h, id, fun h => ⟨h.lists, h.room⟩, id, rfl⟩
    have hcleared := (hrenew.still (advances_destroyMissing hr₁)).still (advances_clearSessions r₁)
    obtain ⟨created, hsub, hrestored⟩ := advances_loop (·.info.targetKey) (fun _ _ _ _ => advances_reconcileRestored) hr₂
    refine ⟨created, hsub, (hcleared.trans hrestored).still ?_⟩
    exact ((advances_resolveUnresolvedOpeners r₂).still (advances_reconcileSelection _)).still
      (advances_setSessionState hr' rfl)

theorem observe_advances (h : observe order r input = .ok r') :
    ∃ created, created.Sublist input.kept ∧ Advances created r r' := by
  cases input with
  | initialTargets infos => exact advances_reconcileInitial h
  | targetCreated info | targetInfoChanged info => exact advances_reconcileOne h
  | reconnected snapshot => exact advances_reconnect h
  | initialReconciliationCompleted => exact ⟨[], List.nil_sublist _, advances_initialReconciliationCompleted h⟩
  | attached key session | unsolicitedAttached key session => exact ⟨[], List.nil_sublist _, advances_attach h⟩
  | targetAttachFailed key => exact ⟨[], List.nil_sublist _, advances_targetAttachFailed h⟩
  | captureStartFailed context =>
    refine ⟨[], List.nil_sublist _, ?_⟩
    simp only [observe] at h
    split at h
    · split at h
      · exact Except.ok.inj h ▸ advances_captureStartFailed _ _
      · exact .of_eq (Except.ok.inj h).symm
    · exact .of_eq (Except.ok.inj h).symm
  | detached session =>
    exact ⟨[], List.nil_sublist _, (advances_removePendingSession r session).still (advances_detachFailed h)⟩
  | targetDestroyed key =>
    refine ⟨[], List.nil_sublist _, .still (.still (advances_removePendingKey r key) ?_) (advances_destroy h)⟩
    refine advances_emit ?_
    rw [shutdowns_append, shutdowns_detaches]
    rfl
  | visibilityChanged key visibility observedAt => exact ⟨[], List.nil_sublist _, advances_visibilityChanged h⟩
  | domainSetupFailed key => exact ⟨[], List.nil_sublist _, advances_domainSetupFailed h⟩
  | initialVisibilityProbeFailed key =>
    exact ⟨[], List.nil_sublist _, Except.ok.inj h ▸ advances_initialVisibilityProbeFailed r key⟩
  | captureVisibilityChanged targetId visibility observedAt =>
    refine ⟨[], List.nil_sublist _, ?_⟩
    simp only [observe] at h
    split at h
    · exact advances_visibilityChanged h
    · exact .of_eq (Except.ok.inj h).symm
  | selectTarget key => exact ⟨[], List.nil_sublist _, advances_selectTarget h⟩
  | viewportOverrideApplied key viewport => exact ⟨[], List.nil_sublist _, advances_viewportOverrideApplied h⟩
  | connectionLost => exact ⟨[], List.nil_sublist _, advances_connectionLost h⟩
  | browserProcessTerminated | reconnectExhausted | cancelled => exact ⟨[], List.nil_sublist _, advances_failSession h⟩
  | stopRequested => exact ⟨[], List.nil_sublist _, advances_beginShutdown h⟩
  | forConnectionGeneration generation input => exact ⟨[], List.nil_sublist _, .of_eq (Except.ok.inj h).symm⟩

theorem reconcileCaptureBindings_queues {P : List SupervisorEffect → Prop}
    (hqueue : ∀ effects effect, effect.isCapture = true → P effects → P (queueCaptureTeardown effects effect))
    (hr : P r.effects) : P (reconcileCaptureBindings order r).effects := by
  have hall : ∀ (es effects : List SupervisorEffect), (∀ effect ∈ es, effect.isCapture = true) → P effects →
      P (es.foldl queueCaptureTeardown effects) := by
    intro es
    induction es with
    | nil => exact fun _ _ h => h
    | cons effect es ih =>
      intro effects hes heffects
      exact ih _ (fun e he => hes e (by simp [he])) (hqueue _ _ (hes effect (by simp)) heffects)
  rw [reconcileCaptureBindings_eq]
  generalize order.keys r.state.targetsByKey = keys
  dsimp only
  generalize r.effects = effects at hr
  induction keys generalizing effects with
  | nil => exact hr
  | cons key keys ih =>
    refine ih _ (hall _ _ (fun effect heffect => ?_) hr)
    rw [boundEffects_eq] at heffect
    cases hcore : r.state.coreAt key with
    | none => simp [hcore] at heffect
    | some core =>
      rw [hcore] at heffect
      exact core.isCapture_of_mem_rebind heffect

theorem shutdowns_queueCaptureTeardown {effect : SupervisorEffect} (h : effect.isCapture = true)
    (effects : List SupervisorEffect) : shutdowns (queueCaptureTeardown effects effect) = shutdowns effects := by
  obtain ⟨before, after, rfl, hqueue⟩ := queueCaptureTeardown_eq effects effect
  have hnot : effect.isShutdown = false := by cases effect <;> first | rfl | nomatch h
  rw [hqueue, shutdowns_append, shutdowns_append, shutdowns, shutdowns, shutdowns,
    List.countP_cons_of_neg (by simp [hnot])]

theorem advances_reconcileCaptureBindings (order : VisitOrder) (r : Reduction) :
    Advances [] r (reconcileCaptureBindings order r) := by
  have hshutdowns : shutdowns (reconcileCaptureBindings order r).effects = shutdowns r.effects :=
    reconcileCaptureBindings_queues (P := fun effects => shutdowns effects = shutdowns r.effects)
      (fun effects effect h heq => (shutdowns_queueCaptureTeardown h effects).trans heq) rfl
  rw [reconcileCaptureBindings_eq] at hshutdowns ⊢
  refine advances_table (fun key => ?_) hshutdowns
  rw [ExtTreeMap.getElem?_map, Option.map_map]
  rfl

/-- The input without its generation guards. -/
def SupervisorInput.payload : SupervisorInput → SupervisorInput
  | .forConnectionGeneration _ input => input.payload
  | input => input

theorem payload_of_accepted {payload : SupervisorInput} (h : input.accepted state = some payload)
    : payload = input.payload := by
  induction input with
  | forConnectionGeneration generation input ih =>
    simp only [SupervisorInput.accepted] at h
    split at h
    · exact ih h
    · cases h
  | _ =>
    simp only [SupervisorInput.accepted] at h
    split at h
    · cases h
    · exact (Option.some.inj h).symm

theorem reduce_advances (h : reduce order state input = .ok r) :
    ∃ created, created.Sublist input.payload.kept ∧ Advances created { state, effects := [] } r := by
  rw [reduce_eq] at h
  cases haccepted : input.accepted state with
  | none =>
    rw [haccepted] at h
    exact ⟨[], List.nil_sublist _, .of_eq (Except.ok.inj h).symm⟩
  | some payload =>
    rw [haccepted] at h
    simp only [bind_eq_ok, pure_eq_ok] at h
    obtain ⟨observed, hobserved, rfl⟩ := h
    obtain ⟨created, hsub, hadvances⟩ := observe_advances hobserved
    rw [payload_of_accepted haccepted] at hsub
    exact ⟨created, hsub, hadvances.still (advances_reconcileCaptureBindings order observed)⟩

end

end Krometrail
