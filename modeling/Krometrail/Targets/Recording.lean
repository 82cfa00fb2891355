import Krometrail.Targets.Custody

/-!
# Visible pages are recorded

A ready supervisor records every visible page it has a session of, unless the capture of the page is unavailable.  The
capture pass starts or resumes the captures of the targets that are attached or recording, so the result rests on one
agreement: a target whose lifecycle is hidden is not recorded as visible (`TargetCore.Unseen`).  Attachments and
observations of the visibility keep it; an attachment that resumes a hidden lifecycle, and a snapshot that rewrites the
visibility of a target without its lifecycle, may not.
-/

namespace Krometrail

open Std (ExtTreeMap)
open Runs (Run)
open TargetLifecycle (discovered attached recording suspended closed failed)

namespace TargetCore

/-- A hidden target is not recorded as visible. -/
def Unseen (core : TargetCore) : Prop := core.lifecycle = .hidden → core.visibility ≠ .visible

/-- The target resumes a hidden lifecycle at its next attachment. -/
def ResumesHidden (core : TargetCore) : Prop := core.lifecycle = suspended ∧ core.priorToSuspension = some .hidden

variable {core : TargetCore}

theorem Unseen.of_lifecycle (h : core.lifecycle ≠ .hidden) : core.Unseen := fun hhidden => absurd hhidden h

theorem lifecycle_ne_of_isTerminal {lifecycle : TargetLifecycle} (h : core.isTerminal = true)
    (hlive : lifecycle.isTerminal = false) : core.lifecycle ≠ lifecycle := by
  rintro rfl
  cases hlive.symm.trans h

theorem Unseen.suspend (h : core.Unseen) : core.suspend.Unseen := by
  unfold TargetCore.suspend
  split
  · exact h
  · split
    · exact h
    · exact .of_lifecycle nofun

theorem resumesHidden_of_attach (hsound : core.Sound) (hlive : core.isTerminal = false) (hnone : core.transportSession = none)
    {session : TransportSessionId} (h : (core.attach session).lifecycle = .hidden) : core.ResumesHidden := by
  have hresumed : core.priorToSuspension.getD attached = .hidden := by
    simp only [TargetCore.attach] at h
    split at h
    · cases h
    · exact h
  unfold isTerminal at hlive
  unfold Sound at hsound
  cases hl : core.lifecycle with
  | discovered =>
    simp only [hl] at hsound
    simp [hsound.2] at hresumed
  | attached | recording | hidden => simp [hl, hnone] at hsound
  | suspended =>
    simp only [hl] at hsound
    obtain ⟨-, prior, hprior, -⟩ := hsound
    rw [hprior, Option.getD_some] at hresumed
    exact ⟨hl, by rw [hprior, hresumed]⟩
  | closed | failed => simp [hl, TargetLifecycle.isTerminal] at hlive

theorem Unseen.visibilityObserved (h : core.Unseen) (visibility : TargetVisibility) :
    ((Change.visibilityObserved visibility).core core).Unseen := by
  unfold Unseen at h ⊢
  simp only [Change.core]
  split
  · rename_i hsame
    exact hsame ▸ h
  · cases hl : core.lifecycle <;> cases visibility <;> simp_all [visibilityLifecycle]

theorem Unseen.change (h : core.Unseen) {change : Change}
    (hrestored : ∀ visibility, change = .visibilityRestored visibility → visibility = .visible →
      core.lifecycle ≠ .hidden)
    : (change.core core).Unseen := by
  cases change with
  | visibilityObserved visibility => exact h.visibilityObserved visibility
  | visibilityRestored visibility => exact fun hhidden hvisible => hrestored visibility rfl hvisible hhidden
  | captureStartFailed _ | visibilityProbeFailed => exact h

end TargetCore

/-- The input neither attaches a visible target that resumes a hidden lifecycle, nor is it a newer snapshot that lists
as visible a target that is hidden, or that resumes a hidden lifecycle when the snapshot attaches it. -/
def KeepsUnseen (state : SupervisorState) (input : SupervisorInput) : Prop :=
  ∀ payload, input.accepted state = some payload →
    match payload with
    | .attached key _ | .unsolicitedAttached key _ =>
      ∀ core, state.coreAt key = some core → core.ResumesHidden → core.visibility ≠ .visible
    | .reconnected snapshot => state.sessionState ≠ .stopping →
      state.connectionGeneration < snapshot.connectionGeneration →
      ∀ e ∈ payload.restored, e.visibility = .visible → ∀ core, state.coreAt e.info.targetKey = some core →
        core.lifecycle ≠ .hidden ∧
          (core.ResumesHidden → ∀ e' ∈ payload.restored, e'.info.targetKey = e.info.targetKey → e'.session = none)
    | _ => True

theorem keeps_unseen {A : Act → Prop} (hadopt : ∀ key core session, ¬A (.adopt key core session))
    (hdeliver : ∀ key core session, A (.deliver key core session) → core.ResumesHidden → core.visibility ≠ .visible)
    (hrestored : ∀ visibility key core, ¬A (.revise (.visibilityRestored visibility) key core)) :
    Keeps A (fun _ core => core.Sound ∧ core.Unseen) (fun _ _ => True) where
  hold _ _ _ := trivial
  lose _ _ _ h := ⟨h.1.suspend, h.2.suspend⟩
  create _ id visibility _ := ⟨.fresh id visibility, .of_lifecycle nofun⟩
  createAdopt _ id visibility session _ _ :=
    ⟨TargetCore.Sound.attach (.fresh id visibility) rfl rfl session, .of_lifecycle nofun⟩
  adopt key core session hA := absurd hA (hadopt key core session)
  deliver key core session hA h hlive hallowed _ := by
    have hnone := (h.1.allows_resumed_iff hlive).1 hallowed
    exact ⟨h.1.attach hlive hnone session, fun hhidden =>
      hdeliver key core session hA (TargetCore.resumesHidden_of_attach h.1 hlive hnone hhidden)⟩
  finish ending _ core _ _ := 
    ⟨.ending ending, .of_lifecycle (TargetCore.lifecycle_ne_of_isTerminal (ending.isTerminal_core core) rfl)⟩
  release _ _ hterminal h := ⟨.of_isTerminal hterminal, h.2⟩
  revise change key core hA h _ := by
    refine ⟨h.1.change change, h.2.change ?_⟩
    rintro visibility rfl
    exact absurd hA (hrestored visibility key core)

/-- A snapshot lists no target as visible that is hidden, or that it makes resume a hidden lifecycle. -/
def TargetCore.Restorable (targets : List ReconnectedTarget) (key : String) (core : TargetCore) : Prop :=
  ∀ e ∈ targets, e.info.targetKey = key → e.visibility = .visible → core.lifecycle ≠ .hidden ∧
    (core.ResumesHidden → ∀ e' ∈ targets, e'.info.targetKey = key → e'.session = none)

theorem TargetCore.Restorable.of_lifecycle {targets : List ReconnectedTarget} {key : String} {core : TargetCore}
    (hhidden : core.lifecycle ≠ .hidden) (hsuspended : core.lifecycle ≠ suspended) : core.Restorable targets key :=
  fun _ _ _ _ => ⟨hhidden, fun h => absurd h.1 hsuspended⟩

theorem keeps_restorable {targets : List ReconnectedTarget} {kept : List String} :
    Keeps (fun act => Missing kept act ∨ Restores targets act)
      (fun key core => core.Sound ∧ core.Unseen ∧ core.Restorable targets key) (fun _ _ => True) where
  hold _ _ _ := trivial
  lose hA := by simp [Missing, Restores] at hA
  create key id visibility _ := ⟨.fresh id visibility, .of_lifecycle nofun, .of_lifecycle nofun nofun⟩
  createAdopt _ id visibility session _ _ :=
    ⟨TargetCore.Sound.attach (.fresh id visibility) rfl rfl session, .of_lifecycle nofun, .of_lifecycle nofun nofun⟩
  adopt key core session hA := by simp [Missing, Restores] at hA
  deliver key core session hA h hlive hallowed _ := by
    obtain ⟨hsound, -, hrestorable⟩ := h
    obtain ⟨e, he, rfl, hsession, hvisibility⟩ := hA.resolve_left id
    have hnone := (hsound.allows_resumed_iff hlive).1 hallowed
    -- a listed entry is not visible when the attachment, which the snapshot makes, resumes a hidden lifecycle
    have hunlisted : (core.attach session).lifecycle = .hidden → ∀ e' ∈ targets, e'.info.targetKey = e.info.targetKey →
        e'.visibility ≠ .visible := by
      intro hhidden e' he' hkey hvisible
      have hresumes := TargetCore.resumesHidden_of_attach hsound hlive hnone hhidden
      have hsessionless := (hrestorable e' he' hkey hvisible).2 hresumes e he rfl
      cases hsessionless.symm.trans hsession
    refine ⟨hsound.attach hlive hnone session, fun hhidden => ?_, fun e' he' hkey hvisible => ⟨?_, ?_⟩⟩
    · change core.visibility ≠ .visible
      rw [hvisibility]
      exact hunlisted hhidden e he rfl
    · exact fun hhidden => hunlisted hhidden e' he' hkey hvisible
    · intro hresumes
      have hafter := hsound.isLive_attach hlive hnone session
      rw [hresumes.1] at hafter
      cases hafter
  finish ending key core _ _ := by
    have hterminal := ending.isTerminal_core core
    exact ⟨.ending ending, .of_lifecycle (TargetCore.lifecycle_ne_of_isTerminal hterminal rfl),
      .of_lifecycle (TargetCore.lifecycle_ne_of_isTerminal hterminal rfl)
        (TargetCore.lifecycle_ne_of_isTerminal hterminal rfl)⟩
  release _ _ hterminal h := ⟨.of_isTerminal hterminal, h.2⟩
  revise change key core hA h _ := by
    obtain ⟨hsound, hunseen, hrestorable⟩ := h
    cases change with
    | visibilityRestored visibility =>
      obtain ⟨e, he, rfl, rfl⟩ := hA.resolve_left id
      refine ⟨hsound.change _, hunseen.change fun visibility hchange hvisible => ?_, hrestorable⟩
      cases hchange
      exact (hrestorable e he rfl hvisible).1
    | visibilityObserved _ | captureStartFailed _ | visibilityProbeFailed => exact (hA.elim id id).elim

/-- The visibility of every target agrees with its lifecycle. -/
def SupervisorState.Unseen (state : SupervisorState) : Prop := ∀ key core, state.coreAt key = some core → core.Unseen

variable {state : SupervisorState}

theorem SupervisorState.Unseen.step {state' : SupervisorState} {input : SupervisorInput} {effects : List SupervisorEffect}
    (h : state.Unseen) (hsound : state.Sound) (hapart : state.Apart) (hkeeps : KeepsUnseen state input)
    (hstep : supervision.step state input effects state') : state'.Unseen := by
  obtain ⟨-, rfl, -⟩ | ⟨payload, order, r, haccepted, hr, hpass⟩ := supervision_step_cases hstep
  · exact h
  have hkeeps := hkeeps payload haccepted
  suffices H : r.state.Unseen by
    obtain rfl := congrArg Reduction.state hpass
    intro key core hcore
    rw [coreAt_reconcileCaptureBindings] at hcore
    obtain ⟨core₀, hcore₀, rfl⟩ := Option.map_eq_some_iff.1 hcore
    exact H key core₀ hcore₀
  by_cases hsnapshot : ∃ snapshot, payload = .reconnected snapshot
  · obtain ⟨snapshot, rfl⟩ := hsnapshot
    obtain rfl | ⟨hopen, hgeneration, -, r₁, hmissing, -, hrestores⟩ := reconnect_phases hr
    · exact h
    have hmoves : Moves (fun act => Missing (SupervisorInput.reconnected snapshot).kept act ∨
        Restores (SupervisorInput.reconnected snapshot).restored act) { state, effects := [] } r₁ :=
      hmissing.mono fun _ => .inl
    have hentries := hmoves.entries keeps_restorable ⟨fun key core hcore => ⟨hsound.cores key core hcore,
      h key core hcore, fun e he hkey hvisible => hkey ▸ hkeeps hopen hgeneration e he hvisible core (hkey ▸ hcore)⟩,
      fun _ _ _ => trivial⟩
    have hmoves' := hrestores.mono (B := fun act => Missing (SupervisorInput.reconnected snapshot).kept act ∨
      Restores (SupervisorInput.reconnected snapshot).restored act) fun _ => .inr
    intro key core hcore
    exact ((hmoves'.entries keeps_restorable ⟨hentries.cores, fun _ _ _ => trivial⟩).cores key core hcore).2.1
  · have hrestored : payload.restored = [] := by
      cases payload with
      | reconnected snapshot => exact absurd ⟨snapshot, rfl⟩ hsnapshot
      | _ => rfl
    have hkeepsUnseen : Keeps (fun act => payload.Permits state act ∧ ∀ key core session, act ≠ .adopt key core session)
        (fun _ core => core.Sound ∧ core.Unseen) (fun _ _ => True) := by
      refine keeps_unseen (fun key core session hA => hA.2 key core session rfl) ?_ ?_
      · rintro key core session ⟨hdelivers, -⟩
        cases payload with
        | attached | unsolicitedAttached =>
          obtain ⟨rfl, rfl, hcore⟩ := hdelivers
          exact hkeeps core hcore
        | reconnected snapshot => exact absurd ⟨snapshot, rfl⟩ hsnapshot
        | _ => simp [SupervisorInput.Permits, SupervisorInput.Delivers, SupervisorInput.restored] at hdelivers
      · rintro visibility key core ⟨⟨e, he, -⟩, -⟩
        simp [hrestored] at he
    intro key core hcore
    exact ((((observe_moves hr).adopt_free hapart).entries hkeepsUnseen
      ⟨fun key core hcore => ⟨hsound.cores key core hcore, h key core hcore⟩, fun _ _ _ => trivial⟩).cores key core hcore).2

/-- Every page that is visible, with a session, and neither terminal nor without a usable capture, is captured in its
current context. -/
def SupervisorState.VisiblePagesRecorded (state : SupervisorState) : Prop :=
  ∀ (key : String) (target : SupervisorTargetState), state.targetsByKey[key]? = some target →
    target.transportSession.isSome = true → target.isTerminal = false → target.target.visibility = .visible →
    target.captureBinding ≠ .unavailable → target.captureBinding ≠ .terminal →
    ∃ context, captureContext state target = some context ∧ target.captureBinding = .active context

theorem SupervisorState.Unseen.recorded (h : state.Unseen) (hsound : state.Sound) (hready : state.sessionState = .ready)
    : state.VisiblePagesRecorded := by
  intro key target htarget hsession hlive hvisible hunavailable hterminal
  have hcore := coreAt_of_getElem? htarget
  have hlivecycle : target.lifecycle = attached ∨ target.lifecycle = recording := by
    have hisLive := (hsound.cores key _ hcore).isSome_iff hlive
    have hunseen : target.lifecycle ≠ .hidden := fun hhidden => h key _ hcore hhidden hvisible
    rw [SupervisorTargetState.transportSession_core, hsession, SupervisorTargetState.lifecycle_core] at hisLive
    revert hunseen hisLive
    cases target.lifecycle <;> simp [TargetLifecycle.isLive]
  obtain ⟨session, hsession⟩ := Option.isSome_iff_exists.1 hsession
  have heligible : target.core.eligible state.sessionState state.connectionGeneration =
      target.core.context state.connectionGeneration := if_pos ⟨hready, hvisible, hlivecycle⟩
  have hcontext : captureContext state target = some ⟨target.id, state.connectionGeneration,
      target.target.attachmentGeneration, session⟩ := by
    simp [captureContext, hsession]
  refine ⟨_, hcontext, ?_⟩
  rcases (hsound.settled key _ hcore).2.2 _ (heligible.trans hcontext) with hactive | hnone | hnone
  · exact hactive
  · exact absurd hnone hunavailable
  · exact absurd hnone hterminal

/-- In every run that keeps visibility and lifecycle of the targets in agreement, a ready supervisor records its
visible pages. -/
theorem visiblePages_recorded {trace : List (SupervisorState × SupervisorInput × List SupervisorEffect)}
    {state : SupervisorState} (h : Run supervision KeepsUnseen trace state) (hready : state.sessionState = .ready) :
    state.VisiblePagesRecorded := by
  suffices H : state.Sound ∧ state.Apart ∧ state.Unseen from H.2.2.recorded H.1 hready
  refine h.invariant (P := fun state => state.Sound ∧ state.Apart ∧ state.Unseen) ?_ ?_
  · rintro _ ⟨compatibility, rfl⟩
    exact ⟨.new compatibility, .new compatibility, fun key core hcore => by
      simp [SupervisorState.coreAt, SupervisorState.new] at hcore⟩
  · rintro state input effects state' ⟨hsound, hapart, hunseen⟩ hkeeps hstep
    exact ⟨hsound.step hstep, hapart.step hstep, hunseen.step hsound hapart hkeeps hstep⟩

/-- A test for `KeepsUnseen`, of the inputs below. -/
def attachesUnseen (state : SupervisorState) : SupervisorInput → Bool
  | .attached key _ => state.targetsByKey[key]?.all fun target => target.target.visibility != .visible
  | .initialTargets _ | .visibilityChanged .. | .initialReconciliationCompleted => true
  | _ => false

theorem keepsUnseen_of_test {input : SupervisorInput} (h : attachesUnseen state input = true) : KeepsUnseen state input := by
  intro payload haccepted
  cases input with
  | attached =>
    simp only [SupervisorInput.accepted] at haccepted
    split at haccepted
    · cases haccepted
    · cases haccepted
      intro core hcore _
      obtain ⟨target, htarget, rfl⟩ := exists_of_coreAt hcore
      simpa [attachesUnseen, htarget] using h
  | initialTargets | visibilityChanged | initialReconciliationCompleted =>
    simp only [SupervisorInput.accepted] at haccepted
    split at haccepted
    · cases haccepted
    · cases haccepted
      trivial
  | _ => cases h

/-- A page that was attached, became visible, and is recorded. -/
theorem visiblePages_recorded_first : ∃ trace state, Run supervision KeepsUnseen trace state ∧
    state.sessionState = .ready ∧ (state.targetsByKey["a"]?.any fun target => target.transportSession == some sessionA &&
      target.target.visibility == .visible && target.captureBinding != .unavailable) = true ∧
    state.VisiblePagesRecorded := by
  obtain ⟨trace, state, hrun, htest⟩ := exists_supervisionRun KeepsUnseen attachesUnseen (fun _ _ => keepsUnseen_of_test)
    [.initialTargets [pageA], .attached "a" sessionA, .visibilityChanged "a" .visible ⟨1⟩,
      .initialReconciliationCompleted]
    (fun _ state => state.sessionState == .ready && state.targetsByKey["a"]?.any fun target =>
      target.transportSession == some sessionA && target.target.visibility == .visible &&
        target.captureBinding != .unavailable) (by decide)
  obtain ⟨hready, hpage⟩ := Bool.and_eq_true_iff.1 htest
  have hready : state.sessionState = .ready := by simpa using hready
  exact ⟨trace, state, hrun, hready, hpage, visiblePages_recorded hrun hready⟩

/-- A page that was hidden when the connection was lost, and is restored as visible, stays hidden and unrecorded. -/
theorem restored_visible_unrecorded : ¬∀ trace state, Run supervision (fun _ _ => True) trace state →
    state.sessionState = .ready → state.VisiblePagesRecorded := by
  intro h
  obtain ⟨trace, state, hrun, htest⟩ := exists_unguardedRun
    [.initialTargets [pageA], .attached "a" sessionA, .visibilityChanged "a" .hidden ⟨1⟩,
      .initialReconciliationCompleted, .connectionLost, .reconnected ⟨1, chrome, [⟨pageA, some sessionB, .visible⟩]⟩]
    (fun _ state => state.sessionState == .ready && state.targetsByKey["a"]?.any fun target =>
      target.transportSession == some sessionB && !target.isTerminal && target.target.visibility == .visible &&
        target.captureBinding == .inactive) (by decide)
  obtain ⟨hready, htest⟩ := Bool.and_eq_true_iff.1 htest
  obtain ⟨target, htarget, htest⟩ := (Option.any_eq_true _ _).1 htest
  simp only [Bool.and_eq_true, beq_iff_eq, Bool.not_eq_true'] at hready htest
  obtain ⟨⟨⟨hsession, hlive⟩, hvisible⟩, hinactive⟩ := htest
  obtain ⟨context, -, hactive⟩ := h trace state hrun hready "a" target htarget (by simp [hsession]) hlive hvisible
    (by simp [hinactive]) (by simp [hinactive])
  cases hinactive.symm.trans hactive

end Krometrail
