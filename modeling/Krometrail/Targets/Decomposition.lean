import Krometrail.Targets.Moves

/-!
# The handlers of the reducer as sequences of moves

One lemma for each handler of the reducer: when it succeeds, the reduction before and after are connected by moves, and
the acts of these moves are listed in the hypotheses on `A`.  The lemmas about selection, attachment and creation that
say what a function of the reducer gives (`reconcileSelection_eq`, `attachedTarget_eq_ok`, `attach_tracked`,
`createTarget_cases`) are what later modules use in place of the definitions.
-/

namespace Krometrail
open Results
open Std (ExtTreeMap)
open TargetLifecycle (discovered attached recording suspended closed failed)

namespace Moves

variable {A B : Act → Prop} {r r' r'' : Reduction}

theorem refl : Moves A r r := Relation.ReflTransGen.refl

theorem single {act : Act} (hA : A act) (h : Move act r r') : Moves A r r' :=
  Relation.ReflTransGen.single ⟨act, hA, h⟩

theorem trans (h : Moves A r r') (h' : Moves A r' r'') : Moves A r r'' := Relation.ReflTransGen.trans h h'

theorem mono (hAB : ∀ act, A act → B act) (h : Moves A r r') : Moves B r r' :=
  Relation.ReflTransGen.mono (fun _ _ ⟨act, hA, hm⟩ => ⟨act, hAB act hA, hm⟩) r r' h

theorem of_eq (h : r' = r) : Moves A r r' := h ▸ refl

theorem invariant {P : Reduction → Prop} (hstep : ∀ act r r', A act → Move act r r' → P r → P r')
    (h : Moves A r r') (hP : P r) : P r' := by
  induction h with
  | refl => exact hP
  | tail _ hm ih =>
    obtain ⟨act, hA, hm⟩ := hm
    exact hstep act _ _ hA hm ih

end Moves

theorem coreAt_of_getElem? {state : SupervisorState} {key : String} {target : SupervisorTargetState}
    (h : state.targetsByKey[key]? = some target) : state.coreAt key = some target.core := by
  simp [SupervisorState.coreAt, h]

theorem exists_of_coreAt {state : SupervisorState} {key : String} {core : TargetCore}
    (h : state.coreAt key = some core) : ∃ target, state.targetsByKey[key]? = some target ∧ target.core = core := by
  simpa [SupervisorState.coreAt] using h

theorem attachedTarget_eq_ok {target target' : SupervisorTargetState} {session : TransportSessionId} :
    attachedTarget target session = .ok target' ↔
      target.target.attachmentGeneration + 1 ≤ u64Max ∧
      target.lifecycle.allowsTransition target.core.resumed = true ∧
      target' = { target with
        transportSession := some session
        priorToSuspension := none
        target := { target.target with
          attachmentGeneration := target.target.attachmentGeneration + 1
          lifecycle := (target.core.attach session).lifecycle } } := by
  unfold attachedTarget
  simp only [bind_eq_ok, pure_eq_ok, okOr_eq_ok, checkedAdd_eq_some, TargetLifecycle.transition_eq_ok]
  constructor
  · rintro ⟨_, ⟨hgen, rfl⟩, first, ⟨hallowed, rfl⟩, lifecycle, hlifecycle, rfl⟩
    have hlifecycle : lifecycle = (target.core.attach session).lifecycle := by
      simp only [TargetCore.attach]
      split at hlifecycle
      · rename_i hfirst
        exact (TargetLifecycle.transition_eq_ok.1 hlifecycle).2.trans (if_pos hfirst).symm
      · rename_i hfirst
        exact (Except.ok.inj hlifecycle).symm.trans (if_neg hfirst).symm
    exact ⟨hgen, hallowed, by rw [hlifecycle]⟩
  · rintro ⟨hgen, hallowed, rfl⟩
    refine ⟨_, ⟨hgen, rfl⟩, _, ⟨hallowed, rfl⟩, _, ?_, rfl⟩
    change (if target.core.resumed = discovered then target.core.resumed.transition attached else _) = _
    simp only [TargetCore.attach]
    split
    · rename_i hfirst
      rw [hfirst]
      rfl
    · rfl

theorem publish_quiet (event : BrowserSessionEvent) : Quiet [.publish event] := by
  simp [SupervisorEffect.isQuiet]

section

variable {A : Act → Prop} {r r' : Reduction} {key : String}

/-! ### Selection and session state -/

theorem selectionCandidate_eq (state : SupervisorState) (key : String) :
    selectionCandidate state key = (state.coreAt key).any (·.isCandidate) := by
  unfold selectionCandidate SupervisorState.coreAt
  cases state.targetsByKey[key]? <;> rfl

variable {state : SupervisorState} {target : SupervisorTargetState} {session : TransportSessionId} {probeVisibility : Bool}
  {visibility : TargetVisibility} {info : TransportTargetInfo} {opener : Option TargetId}

theorem mem_keys_of_selectionCandidate {key : String} (h : selectionCandidate state key = true)
    : key ∈ state.targetsByKey.keys := by
  unfold selectionCandidate at h
  rw [ExtTreeMap.mem_keys, ExtTreeMap.mem_iff_isSome_getElem?]
  cases ht : state.targetsByKey[key]? with
  | none => simp [ht] at h
  | some target => rfl

theorem leastCandidate_eq_some {key : String} (h : leastCandidate state = some key) :
    selectionCandidate state key = true ∧ ∀ key', selectionCandidate state key' = true → key ≤ key' := by
  unfold leastCandidate at h
  obtain ⟨hmem, hle⟩ := List.min?_eq_some_iff.1 h
  exact ⟨(List.mem_filter.1 hmem).2,
    fun key' hkey' => hle key' (List.mem_filter.2 ⟨mem_keys_of_selectionCandidate hkey', hkey'⟩)⟩

theorem leastCandidate_eq_none (h : leastCandidate state = none) (key : String) : selectionCandidate state key = false := by
  unfold leastCandidate at h
  rw [List.min?_eq_none_iff, List.filter_eq_nil_iff] at h
  by_contra hkey
  have hkey : selectionCandidate state key = true := by simpa using hkey
  exact h key (mem_keys_of_selectionCandidate hkey) hkey

theorem setSelection_eq (r : Reduction) (selected : Option String) :
    ∃ revision es, Quiet es ∧ setSelection r selected =
      { state := { r.state with selectedTargetKey := selected, revision }, effects := r.effects ++ es } := by
  unfold setSelection
  split
  · rename_i hsame
    exact ⟨r.state.revision, [], .nil, by simp [← hsame]⟩
  · exact ⟨_, _, publish_quiet _, rfl⟩

theorem reconcileSelection_eq (r : Reduction) :
    ∃ selected revision es, Quiet es ∧
      (selected = r.state.selectedTargetKey ∧ selected.any (selectionCandidate r.state) = true ∨
        r.state.selectedTargetKey.any (selectionCandidate r.state) = false ∧ selected = leastCandidate r.state) ∧
      reconcileSelection r =
        { state := { r.state with selectedTargetKey := selected, revision }, effects := r.effects ++ es } := by
  unfold reconcileSelection
  split
  · rename_i hselected
    exact ⟨_, r.state.revision, [], .nil, .inl ⟨rfl, hselected⟩, by simp⟩
  · rename_i hselected
    obtain ⟨revision, es, hes, heq⟩ := setSelection_eq r (leastCandidate r.state)
    exact ⟨_, revision, es, hes, .inr ⟨by simpa using hselected, rfl⟩, heq⟩

theorem selectionSound_reconcileSelection (r : Reduction) : (reconcileSelection r).state.SelectionSound := by
  obtain ⟨selected, revision, es, -, hselected, heq⟩ := reconcileSelection_eq r
  rw [heq]
  rintro key rfl
  rcases hselected with ⟨-, hkey⟩ | ⟨-, hkey⟩
  · exact hkey
  · exact (leastCandidate_eq_some hkey.symm).1

theorem setSessionState_moves {next : BrowserSessionState} (h : setSessionState r next = .ok r')
    (hselected : next = .ready → r.state.SelectionSound) (hA : A (.enter next)) : Moves A r r' := by
  unfold setSessionState at h
  split at h
  · exact .of_eq (Except.ok.inj h).symm
  · split at h
    · rename_i hallowed
      exact Except.ok.inj h ▸ .single hA (.enter hallowed hselected)
    · cases h

theorem push_moves (effect : SupervisorEffect) (hquiet : effect.isQuiet = true) (hA : A .note) :
    Moves A r (r.push effect) :=
  .single hA (.note r.state.revision r.state.nextPageSequence (by simpa using hquiet))

theorem publish_moves (event : BrowserSessionEvent) (hA : A .note) : Moves A r (publish r event) :=
  .single hA (.note (saturatingAdd r.state.revision 1) r.state.nextPageSequence (by simp [SupervisorEffect.isQuiet]))

theorem beginShutdown_moves {cause : ShutdownCause} (h : beginShutdown r cause = .ok r')
    (hA : A (.enter .stopping)) (hnote : A .note) : Moves A r r' := by
  unfold beginShutdown at h
  split at h
  · exact .of_eq (Except.ok.inj h).symm
  · split at h
    · exact .of_eq (Except.ok.inj h).symm
    · simp only [bind_eq_ok, pure_eq_ok] at h
      obtain ⟨r₁, h₁, rfl⟩ := h
      exact (setSessionState_moves h₁ (by simp) hA).trans (push_moves _ rfl hnote)

theorem failSession_moves {error : KrometrailError} {cause : ShutdownCause}
    (h : failSession r error cause = .ok r') (hA : A (.enter .stopping)) (hnote : A .note) : Moves A r r' :=
  (publish_moves _ hnote).trans (beginShutdown_moves h hA hnote)

theorem initialReconciliationCompleted_moves (h : initialReconciliationCompleted r = .ok r') (hA : A (.enter .ready))
    (hrepair : A .repair) : Moves A r r' := by
  unfold initialReconciliationCompleted at h
  split at h
  · cases h
  · exact .trans (.single hrepair .repair) (setSessionState_moves h (fun _ => selectionSound_reconcileSelection r) hA)

theorem selectTarget_moves (h : selectTarget r key = .ok r') (hA : A (.select key)) : Moves A r r' := by
  unfold selectTarget at h
  split at h
  · rename_i hcandidate
    exact Except.ok.inj h ▸ .single hA (.select hcandidate)
  · cases h

theorem removePendingKey_moves (hA : A (.unhold key)) :
    Moves A r { r with state := (removePendingKey r.state key).1 } := by
  have h : Move (.unhold key) r _ := .unhold false
  simp only [Bool.false_eq_true, if_false, List.append_nil] at h
  exact .single hA h

theorem removePendingSession_moves (session : TransportSessionId) (hA : ∀ key, A (.unhold key)) :
    Moves A r { r with state := removePendingSession r.state session } := by
  unfold removePendingSession
  generalize (r.state.pendingAttachedSessions.toList.filter fun entry => entry.2 = session).map (·.1) = keys
  induction keys generalizing r with
  | nil => exact .refl
  | cons key keys ih => exact (removePendingKey_moves (hA key)).trans ih

theorem attachmentEffects_quiet (state : SupervisorState) (key : String) (target : SupervisorTargetState)
    (session : TransportSessionId) (probeVisibility : Bool) :
    Quiet (attachmentEffects state key target session probeVisibility) := by
  unfold attachmentEffects
  cases target.viewportOverride <;> cases probeVisibility <;>
    simp [targetChangedEvent, SupervisorEffect.isQuiet]

theorem attachLive_attaches (htracked : r.state.targetsByKey[key]? = some target) (hlive : target.isTerminal = false)
    (hother : target.transportSession ≠ some session) (h : attachLive r key target session probeVisibility = .ok r')
    : Attaches key target.core session r r' := by
  unfold attachLive at h
  simp only [bind_eq_ok, pure_eq_ok, attachedTarget_eq_ok] at h
  obtain ⟨target', ⟨-, hallowed, rfl⟩, rfl⟩ := h
  exact ⟨coreAt_of_getElem? htracked, hlive, hother, hallowed, _, _, rfl, attachmentEffects_quiet _ _ _ _ _, rfl⟩

theorem attach_tracked {unsolicited : Bool} (htracked : r.state.targetsByKey[key]? = some target)
    (h : attach r key session probeVisibility unsolicited = .ok r') :
    r' = r ∧ (target.isTerminal = true ∨ target.transportSession = some session) ∨
      Attaches key target.core session r r' := by
  unfold attach at h
  simp only [htracked] at h
  by_cases hterminal : target.isTerminal = true
  · simp only [hterminal, if_true, Except.ok.injEq] at h
    exact .inl ⟨h.symm, .inl hterminal⟩
  · by_cases hother : target.transportSession = some session
    · simp only [hterminal, hother, if_true] at h
      exact .inl ⟨by simpa using h.symm, .inr hother⟩
    · simp only [hterminal, hother, if_false] at h
      exact .inr (attachLive_attaches htracked (by simpa using hterminal) hother (by simpa using h))

theorem attach_moves {unsolicited : Bool} (h : attach r key session probeVisibility unsolicited = .ok r')
    (hhold : r.state.coreAt key = none → A (.hold key session))
    (hdeliver : ∀ core, r.state.coreAt key = some core → A (.deliver key core session)) : Moves A r r' := by
  cases ht : r.state.targetsByKey[key]? with
  | none =>
    have hnone : r.state.coreAt key = none := by simp [SupervisorState.coreAt, ht]
    unfold attach at h
    simp only [ht, Except.ok.injEq] at h
    exact h ▸ .single (hhold hnone) (.hold unsolicited hnone)
  | some target =>
    rcases attach_tracked ht h with ⟨rfl, -⟩ | hattaches
    · exact .refl
    · exact .single (hdeliver _ (coreAt_of_getElem? ht)) (.deliver hattaches)

theorem adoptPendingAttachment_moves (htracked : r.state.targetsByKey[key]? = some target)
    (h : adoptPendingAttachment r key = .ok r') (hunhold : A (.unhold key))
    (hadopt : ∀ session, A (.adopt key target.core session)) : Moves A r r' := by
  unfold adoptPendingAttachment at h
  cases hp : (removePendingKey r.state key).2 with
  | none =>
    simp only [hp, Except.ok.injEq] at h
    exact h ▸ removePendingKey_moves hunhold
  | some session =>
    simp only [hp] at h
    rcases attach_tracked (r := { r with state := (removePendingKey r.state key).1 }) htracked h with
      ⟨rfl, -⟩ | hattaches
    · exact removePendingKey_moves hunhold
    · exact .single (hadopt session) (.adopt hp hattaches)

theorem detachFailed_moves (h : detachFailed r session = .ok r') (hrelease : A (.release session))
    (hfinish : ∀ key core, A (.finish (.detached session) key core)) : Moves A r r' := by
  unfold detachFailed at h
  cases hmap : r.state.targetKeyBySession[session]? with
  | none =>
    simp only [hmap, Except.ok.injEq] at h
    exact .of_eq h.symm
  | some key =>
    cases ht : r.state.targetsByKey[key]? with
    | none =>
      simp only [hmap, ht, Except.ok.injEq] at h
      exact h ▸ .single hrelease (.release hmap (by simp [SupervisorState.coreAt, ht]))
    | some target =>
      simp only [hmap, ht] at h
      split at h
      · rename_i hterminal
        exact Except.ok.inj h ▸ .single hrelease (.releaseTerminal hmap ht hterminal)
      · rename_i hlive
        simp only [bind_eq_ok, pure_eq_ok, TargetLifecycle.transition_eq_ok] at h
        obtain ⟨lifecycle, ⟨-, rfl⟩, rfl⟩ := h
        have henabled : (Ending.detached session).Enabled r.state key target.core := ⟨hmap, by simpa using hlive⟩
        exact .single (hfinish key target.core) (.finish (coreAt_of_getElem? ht) henabled rfl
          (publish_quiet (.targetFailed target.id targetError))
          (by simp [detaches, Ending.released, Reduction.store]))

theorem domainSetupFailed_moves (h : domainSetupFailed r key = .ok r')
    (hfinish : ∀ core, r.state.coreAt key = some core → A (.finish .domainFailed key core)) : Moves A r r' := by
  unfold domainSetupFailed at h
  cases ht : r.state.targetsByKey[key]? with
  | none =>
    simp only [ht, Except.ok.injEq] at h
    exact .of_eq h.symm
  | some target =>
    simp only [ht] at h
    split at h
    · exact .of_eq (Except.ok.inj h).symm
    · rename_i hlive
      simp only [bind_eq_ok, pure_eq_ok, TargetLifecycle.transition_eq_ok] at h
      obtain ⟨lifecycle, ⟨-, rfl⟩, rfl⟩ := h
      have htracked := coreAt_of_getElem? ht
      have henabled : Ending.domainFailed.Enabled r.state key target.core := by
        simpa [Ending.Enabled] using hlive
      exact .single (hfinish _ htracked) (.finish htracked henabled rfl
        (publish_quiet (.targetFailed target.id targetError))
        (by simp [detaches, Ending.released, Reduction.store]))

theorem destroy_cases (h : destroy r key = .ok r') :
    (r' = r ∧ ∀ core, r.state.coreAt key = some core → core.lifecycle = closed) ∨
      ∃ core, r.state.coreAt key = some core ∧ core.lifecycle ≠ closed ∧ Move (.finish .destroyed key core) r r' := by
  unfold destroy at h
  cases ht : r.state.targetsByKey[key]? with
  | none =>
    simp only [ht, Except.ok.injEq] at h
    exact .inl ⟨h.symm, by simp [SupervisorState.coreAt, ht]⟩
  | some target =>
    have htracked := coreAt_of_getElem? ht
    simp only [ht] at h
    split at h
    · rename_i hclosed
      exact .inl ⟨(Except.ok.inj h).symm, fun core hcore => Option.some.inj (htracked.symm.trans hcore) ▸ hclosed⟩
    · rename_i hclosed
      have henabled : Ending.destroyed.Enabled r.state key target.core := hclosed
      simp only [bind_eq_ok, pure_eq_ok] at h
      obtain ⟨lifecycle, hlifecycle, rfl⟩ := h
      refine .inr ⟨target.core, htracked, hclosed,
        .finish htracked henabled ?_ (publish_quiet (.targetClosed target.id)) rfl⟩
      obtain rfl : lifecycle = if target.lifecycle = failed then failed else closed := by
        split at hlifecycle
        · rename_i hfailed
          exact (Except.ok.inj hlifecycle).symm.trans (if_pos hfailed).symm
        · rename_i hfailed
          exact (TargetLifecycle.transition_eq_ok.1 hlifecycle).2.trans (if_neg hfailed).symm
      rfl

theorem destroy_moves (h : destroy r key = .ok r')
    (hfinish : ∀ core, r.state.coreAt key = some core → A (.finish .destroyed key core)) : Moves A r r' := by
  obtain ⟨rfl, -⟩ | ⟨core, htracked, -, hmove⟩ := destroy_cases h
  · exact .refl
  · exact .single (hfinish core htracked) hmove

theorem targetAttachFailed_moves (h : targetAttachFailed r key = .ok r')
    (hfinish : ∀ core, r.state.coreAt key = some core → A (.finish .attachFailed key core)) : Moves A r r' := by
  unfold targetAttachFailed at h
  cases ht : r.state.targetsByKey[key]? with
  | none =>
    simp only [ht, Except.ok.injEq] at h
    exact .of_eq h.symm
  | some target =>
    simp only [ht] at h
    split at h
    · exact .of_eq (Except.ok.inj h).symm
    · rename_i hlive
      simp only [bind_eq_ok, pure_eq_ok, TargetLifecycle.transition_eq_ok] at h
      obtain ⟨lifecycle, ⟨-, rfl⟩, rfl⟩ := h
      have htracked := coreAt_of_getElem? ht
      have henabled : Ending.attachFailed.Enabled r.state key target.core := by
        simpa [Ending.Enabled] using hlive
      exact .single (hfinish _ htracked) (.finish htracked henabled rfl
        (publish_quiet (.targetFailed target.id targetError))
        (by simp [detaches, Ending.released, Reduction.store]))

theorem annotate_move {table : TargetTable}
    (h : ∀ key : String, table[key]?.map SupervisorTargetState.core = r.state.coreAt key) (hA : A .annotate) :
    Moves A r { r with state := { r.state with targetsByKey := table } } :=
  .single hA (.annotate h)

theorem store_moves {target' : SupervisorTargetState} (htracked : r.state.targetsByKey[key]? = some target)
    (hcore : target'.core = target.core) (hA : A .annotate) : Moves A r (r.store key target') := by
  refine annotate_move (fun key' => ?_) hA
  rw [SupervisorState.coreAt, ExtTreeMap.getElem?_insert]
  by_cases hkey : key = key'
  · subst hkey
    simp [htracked, hcore]
  · simp [hkey]

theorem captureStartFailed_moves {context : CaptureEffectContext} (htracked : r.state.targetsByKey[key]? = some target)
    (hactive : target.captureBinding = .active context) (hA : A (.revise (.captureStartFailed context) key target.core))
    : Moves A r (captureStartFailed r key) := by
  unfold captureStartFailed
  simp only [htracked]
  split
  · exact .refl
  · rename_i hlive
    have henabled : (Change.captureStartFailed context).Enabled target.core := ⟨by simpa using hlive, hactive⟩
    exact .single hA (.revise (coreAt_of_getElem? htracked) henabled rfl (publish_quiet (.targetChanged _)) rfl)

theorem visibilityChanged_moves {observedAt : SessionTime} (h : visibilityChanged r key visibility observedAt = .ok r')
    (hA : ∀ core, r.state.coreAt key = some core → A (.revise (.visibilityObserved visibility) key core)) : Moves A r r' := by
  unfold visibilityChanged at h
  cases ht : r.state.targetsByKey[key]? with
  | none =>
    simp only [ht, Except.ok.injEq] at h
    exact .of_eq h.symm
  | some target =>
    simp only [ht] at h
    split at h
    · exact .of_eq (Except.ok.inj h).symm
    · rename_i hlive
      have htracked := coreAt_of_getElem? ht
      have henabled : (Change.visibilityObserved visibility).Enabled target.core := by
        simpa [Change.Enabled] using hlive
      have hretried : (if target.captureBinding = .unavailable then .inactive else target.captureBinding) =
          Change.retried target.captureBinding := by
        cases target.captureBinding <;> rfl
      simp only [hretried] at h
      split at h
      · exact .of_eq (Except.ok.inj h).symm
      · split at h
        · rename_i hsame
          refine Except.ok.inj h ▸ .single (hA _ htracked) (.revise htracked henabled ?_ .nil (by simp))
          simp [SupervisorTargetState.core, Change.core, hsame]
          exact ⟨rfl, rfl⟩
        · rename_i hchanged
          simp only [bind_eq_ok, pure_eq_ok] at h
          obtain ⟨lifecycle, hlifecycle, rfl⟩ := h
          have hlifecycle : lifecycle = visibilityLifecycle target.lifecycle visibility := by
            split at hlifecycle
            · exact (TargetLifecycle.transition_eq_ok.1 hlifecycle).2
            · exact (Except.ok.inj hlifecycle).symm
          refine .single (hA _ htracked) (.revise htracked henabled ?_ (publish_quiet (.targetChanged _)) rfl)
          simp only [SupervisorTargetState.core, Change.core, if_neg hchanged, ← hlifecycle]
          rfl

theorem initialVisibilityProbeFailed_moves
    (hA : ∀ core, r.state.coreAt key = some core → A (.revise .visibilityProbeFailed key core)) :
    Moves A r (initialVisibilityProbeFailed r key) := by
  unfold initialVisibilityProbeFailed
  cases ht : r.state.targetsByKey[key]? with
  | none => exact .refl
  | some target =>
    simp only
    split
    · rename_i hprobe
      have htracked := coreAt_of_getElem? ht
      exact .single (hA _ htracked) (.revise htracked hprobe.2.2 rfl .nil (by simp))
    · exact .refl

theorem viewportOverrideApplied_moves {viewport : Option ViewportMetrics}
    (h : viewportOverrideApplied r key viewport = .ok r') (hA : A .annotate) : Moves A r r' := by
  unfold viewportOverrideApplied at h
  cases ht : r.state.targetsByKey[key]? with
  | none => simp [ht] at h
  | some target =>
    simp only [ht] at h
    split at h
    · cases h
    · exact Except.ok.inj h ▸ store_moves ht rfl hA

/-! ### Creation and reconciliation of targets -/

theorem preparePageTargetSlot_cases {state' : SupervisorState} (h : preparePageTargetSlot state = .ok state') :
    (liveTargets state.targetsByKey).size < maxKnownPageTargets ∧
      (maxKnownPageTargets ≤ state.targetsByKey.size ∧ state' = state.reclaimed ∨
        state.targetsByKey.size < maxKnownPageTargets ∧ state' = state) := by
  unfold preparePageTargetSlot ensurePageTargetCount at h
  simp only [bind_eq_ok] at h
  obtain ⟨_, hroom, h⟩ := h
  refine ⟨?_, ?_⟩
  · split at hroom
    · cases hroom
    · omega
  · split at h
    · exact .inl ⟨‹_›, (pure_eq_ok.1 h).symm⟩
    · exact .inr ⟨by omega, (pure_eq_ok.1 h).symm⟩

/-- Creating a target makes room for it, takes a new revision and the next page sequence, and stores nothing yet. -/
theorem createTarget_cases {created : SupervisorState × SupervisorTargetState}
    (h : createTarget state info visibility opener = .ok created) :
    ∃ slot revision nextPageSequence, preparePageTargetSlot state = .ok slot ∧
      created.1 = { slot with revision, nextPageSequence } ∧
      created.2.core = .fresh (targetIdFor revision slot.connectionGeneration info.targetKey) visibility := by
  unfold createTarget at h
  simp only [bind_eq_ok, pure_eq_ok, okOr_eq_ok] at h
  obtain ⟨slot, hslot, pageSequence, -, nextPageSequence, -, target, htarget, rfl⟩ := h
  unfold makeTarget at htarget
  simp only [bind_eq_ok, pure_eq_ok] at htarget
  obtain ⟨page, hpage, rfl⟩ := htarget
  refine ⟨slot, saturatingAdd slot.revision 1, nextPageSequence, hslot, rfl, ?_⟩
  simp only [SupervisorTargetState.core, SupervisorTargetState.id, PageTarget.id_of_new hpage]
  rfl

theorem coreAt_reclaimed (state : SupervisorState) (key : String) :
    state.reclaimed.coreAt key = (state.coreAt key).filter (!·.isTerminal) := by
  simp only [SupervisorState.coreAt, SupervisorState.reclaimed, liveTargets, ExtTreeMap.getElem?_filter']
  cases state.targetsByKey[key]? with
  | none => rfl
  | some target => cases hterminal : target.isTerminal <;> simp [Option.filter, hterminal]

theorem create_moves {created : SupervisorState × SupervisorTargetState}
    (h : createTarget r.state info visibility opener = .ok created)
    (hreclaim : maxKnownPageTargets ≤ r.state.targetsByKey.size → A .reclaim) (hnote : A .note) :
    Moves A r { r with state := created.1 } := by
  obtain ⟨slot, revision, nextPageSequence, hslot, hstate, -⟩ := createTarget_cases h
  have hmoves : Moves A r { r with state := slot } := by
    obtain ⟨hroom, ⟨hfull, rfl⟩ | ⟨-, rfl⟩⟩ := preparePageTargetSlot_cases hslot
    · exact .single (hreclaim hfull) (.reclaim hroom hfull)
    · exact .refl
  have hmove := Move.note (r := { r with state := slot }) revision nextPageSequence .nil
  simp only [List.append_nil] at hmove
  exact hstate ▸ hmoves.trans (.single hnote hmove)

theorem establishTarget_moves {creationEvent : Bool}
    (hvacant : ∀ core, r.state.coreAt info.targetKey = some core → core.isTerminal = true)
    (h : establishTarget r info opener creationEvent = .ok r')
    (hreclaim : maxKnownPageTargets ≤ r.state.targetsByKey.size → A .reclaim) (hnote : A .note)
    (hcreate : ∀ core, A (.create info.targetKey core)) : Moves A r r' := by
  unfold establishTarget at h
  simp only [bind_eq_ok] at h
  obtain ⟨created, hcreated, h⟩ := h
  obtain ⟨slot, revision, nextPageSequence, hslot, hstate, hcore⟩ := createTarget_cases hcreated
  have hvacant : ∀ core, created.1.coreAt info.targetKey = some core → core.isTerminal = true := by
    obtain ⟨-, ⟨-, rfl⟩ | ⟨-, rfl⟩⟩ := preparePageTargetSlot_cases hslot
    · intro core hcoreAt
      rw [hstate] at hcoreAt
      change r.state.reclaimed.coreAt info.targetKey = some core at hcoreAt
      rw [coreAt_reclaimed, Option.filter_eq_some_iff] at hcoreAt
      exact hvacant core hcoreAt.1
    · rw [hstate]
      exact hvacant
  have hgeneration : slot.connectionGeneration = created.1.connectionGeneration := by rw [hstate]
  have hhashed : ∃ revision', targetIdFor revision slot.connectionGeneration info.targetKey =
      targetIdFor revision' created.1.connectionGeneration info.targetKey := ⟨revision, by rw [hgeneration]⟩
  have hmoves : Moves A r { state := created.1, effects := if creationEvent then
      r.effects ++ [targetDiscoveredEvent created.2] else r.effects } := by
    cases creationEvent with
    | false => exact create_moves hcreated hreclaim hnote
    | true => exact (create_moves hcreated hreclaim hnote).trans (push_moves _ rfl hnote)
  refine hmoves.trans ?_
  generalize (if creationEvent then r.effects ++ [targetDiscoveredEvent created.2] else r.effects) = effects at h
  have hlive : created.2.isTerminal = false := congrArg TargetCore.isTerminal hcore
  have hheld : created.2.transportSession = none := congrArg TargetCore.transportSession hcore
  split at h
  · rename_i hpending
    unfold adoptPendingAttachment at h
    have hpending : created.1.pendingAttachedSessions.contains info.targetKey = true := hpending
    obtain ⟨session, hsession⟩ : ∃ session, created.1.pendingAttachedSessions[info.targetKey]? = some session := by
      simpa [← Option.isSome_iff_exists] using hpending
    simp only [removePendingKey, Reduction.store, hsession] at h
    have htracked : (created.1.targetsByKey.insert info.targetKey created.2)[info.targetKey]? = some created.2 := by
      simp
    rcases attach_tracked (by exact htracked) h with ⟨-, hterminal | hsame⟩ | hattaches
    · cases hlive.symm.trans hterminal
    · cases hheld.symm.trans hsame
    · exact .single (hcreate _) (.createAdopt hvacant hcore hhashed hsession hattaches)
  · rename_i hpending
    have hpending : ¬created.1.pendingAttachedSessions.contains info.targetKey = true := hpending
    have hapart : created.1.pendingAttachedSessions[info.targetKey]? = none := by
      simpa using hpending
    simp only [pure_eq_ok] at h
    exact h ▸ .trans (.single (hcreate _) (.create hvacant hapart hcore hhashed)) (push_moves _ rfl hnote)

theorem withInfo_core {target' : SupervisorTargetState} (h : withInfo target info = .ok target')
    : target'.core = target.core := by
  unfold withInfo at h
  simp only [bind_eq_ok, pure_eq_ok] at h
  obtain ⟨page, hpage, rfl⟩ := h
  simp only [SupervisorTargetState.core, SupervisorTargetState.id, PageTarget.id_of_new hpage]
  rfl

theorem refreshTarget_moves (htracked : r.state.targetsByKey[info.targetKey]? = some target)
    (h : refreshTarget r target info = .ok r') (hannotate : A .annotate) (hnote : A .note)
    (hunhold : A (.unhold info.targetKey)) (hadopt : ∀ core session, A (.adopt info.targetKey core session))
    : Moves A r r' := by
  unfold refreshTarget at h
  simp only [bind_eq_ok] at h
  obtain ⟨r₁, hr₁, h⟩ := h
  split at hr₁
  · simp only [bind_eq_ok, pure_eq_ok] at hr₁
    obtain ⟨target', htarget', rfl⟩ := hr₁
    refine .trans ((store_moves htracked (withInfo_core htarget') hannotate).trans
      (push_moves (targetChangedEvent target') rfl hnote)) ?_
    exact adoptPendingAttachment_moves ExtTreeMap.getElem?_insert_self h hunhold (hadopt _)
  · cases hr₁
    exact adoptPendingAttachment_moves htracked h hunhold (hadopt _)

theorem reconcileOne_moves {creationEvent : Bool} (h : reconcileOne r info creationEvent = .ok r')
    (hfinish : info.isRecordable = false → ∀ core, A (.finish .destroyed info.targetKey core))
    (hreclaim : maxKnownPageTargets ≤ r.state.targetsByKey.size → A .reclaim) (hannotate : A .annotate) (hnote : A .note)
    (hunhold : A (.unhold info.targetKey)) (hcreate : info.isRecordable = true → ∀ core, A (.create info.targetKey core))
    (hadopt : info.isRecordable = true → ∀ core session, A (.adopt info.targetKey core session)) : Moves A r r' := by
  unfold reconcileOne at h
  cases hrecordable : info.isRecordable with
  | false =>
    simp only [hrecordable, Bool.not_false, if_true] at h
    split at h
    · exact destroy_moves h fun core _ => hfinish hrecordable core
    · exact .of_eq (Except.ok.inj h).symm
  | true =>
    simp only [hrecordable, Bool.not_true, Bool.false_eq_true, if_false] at h
    cases ht : r.state.targetsByKey[info.targetKey]? with
    | none =>
      simp only [ht] at h
      exact establishTarget_moves (by simp [SupervisorState.coreAt, ht]) h hreclaim hnote (hcreate hrecordable)
    | some target =>
      simp only [ht] at h
      split at h
      · rename_i hterminal
        split at h
        · exact establishTarget_moves (by simp [SupervisorState.coreAt, ht, hterminal]) h hreclaim hnote
            (hcreate hrecordable)
        · exact .of_eq (Except.ok.inj h).symm
      · exact refreshTarget_moves ht h hannotate hnote hunhold (hadopt hrecordable)

theorem destroyMissing_moves {order : VisitOrder} {kept : List String} (h : destroyMissing order r kept = .ok r')
    (hfinish : ∀ key ∉ kept, ∀ core, A (.finish .destroyed key core)) : Moves A r r' := by
  refine foldlM_rel (fun _ => .refl) (fun _ _ _ => .trans) (fun key _ r r' h => ?_) h
  split at h
  · exact .of_eq (Except.ok.inj h).symm
  · rename_i hkept
    exact destroy_moves h fun core _ => hfinish key (by simpa using hkept) core

theorem reconcileInitial_moves {order : VisitOrder} {infos : List TransportTargetInfo}
    (h : reconcileInitial order r infos = .ok r')
    (hfinish : ∀ key ∉ (infos.filter (·.isRecordable)).map (·.targetKey), ∀ core, A (.finish .destroyed key core))
    (hreclaim : A .reclaim) (hannotate : A .annotate) (hnote : A .note) (hunhold : ∀ key, A (.unhold key))
    (hcreate : ∀ key ∈ (infos.filter (·.isRecordable)).map (·.targetKey), ∀ core, A (.create key core))
    (hadopt : ∀ key ∈ (infos.filter (·.isRecordable)).map (·.targetKey), ∀ core session, A (.adopt key core session)) :
    Moves A r r' := by
  unfold reconcileInitial at h
  simp only [bind_eq_ok] at h
  obtain ⟨_, -, r₁, hr₁, h⟩ := h
  refine (destroyMissing_moves hr₁ hfinish).trans ?_
  refine foldlM_rel (fun _ => .refl) (fun _ _ _ => .trans) (fun info hinfo r r' h => ?_) h
  have hkey : info.targetKey ∈ (infos.filter (·.isRecordable)).map (·.targetKey) := List.mem_map_of_mem hinfo
  have hrecordable : info.isRecordable = true := (List.mem_filter.1 hinfo).2
  exact reconcileOne_moves h (fun hnot => by cases hrecordable.symm.trans hnot) (fun _ => hreclaim) hannotate
    hnote (hunhold _) (fun _ => hcreate _ hkey) (fun _ => hadopt _ hkey)

end

end Krometrail
