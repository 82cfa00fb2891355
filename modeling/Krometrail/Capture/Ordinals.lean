import Krometrail.Core.Frames

/-!
# Capture ordinals across attachments

The ordinal registry of the capture coordinator: for each session and target the attachment generation that may
allocate, and the last ordinal handed out.  Streams of successive attachments call it in any order; each call holds
the lock of the registry, so that what they do is a list of calls.  A terminal stop releases the state of its target
(`Releases`).  Between releases the ordinals go up by one and an older attachment is fenced off.
-/

namespace Krometrail.Ordinals

structure OrdinalKey where
  sessionId : SessionId
  targetId : TargetId
  deriving DecidableEq

/-- What the registry reads of a target. -/
structure CaptureTarget where
  sessionId : SessionId
  targetId : TargetId
  attachmentGeneration : Nat

def CaptureTarget.key (target : CaptureTarget) : OrdinalKey := ⟨target.sessionId, target.targetId⟩

structure OrdinalState where
  attachmentGeneration : Nat
  last : Nat

structure OrdinalRegistry where
  states : OrdinalKey → Option OrdinalState

inductive OrdinalAllocation where
  | allocated (ordinal : CaptureOrdinal)
  | staleGeneration
  | exhausted

namespace OrdinalRegistry

def empty : OrdinalRegistry := ⟨fun _ => none⟩

def insert (self : OrdinalRegistry) (key : OrdinalKey) (state : OrdinalState) : OrdinalRegistry :=
  ⟨Function.update self.states key (some state)⟩

def remove (self : OrdinalRegistry) (key : OrdinalKey) : OrdinalRegistry := ⟨Function.update self.states key none⟩

def beginGeneration (self : OrdinalRegistry) (target : CaptureTarget) : Bool × OrdinalRegistry :=
  match self.states target.key with
  | some state =>
    if target.attachmentGeneration < state.attachmentGeneration then (false, self)
    else (true, self.insert target.key { state with attachmentGeneration := target.attachmentGeneration })
  | none => (true, self.insert target.key { attachmentGeneration := target.attachmentGeneration, last := 0 })

def allocate (self : OrdinalRegistry) (target : CaptureTarget) : OrdinalAllocation × OrdinalRegistry :=
  match self.states target.key with
  | none => (.staleGeneration, self)
  | some state =>
    if state.attachmentGeneration ≠ target.attachmentGeneration then (.staleGeneration, self)
    else
      match checkedAdd state.last 1 with
      | none => (.exhausted, self)
      | some next =>
        match CaptureOrdinal.new (UInt64.ofNat next) with
        | .error _ => (.exhausted, self)
        | .ok ordinal => (.allocated ordinal, self.insert target.key { state with last := next })

def endGeneration (self : OrdinalRegistry) (target : CaptureTarget) : OrdinalRegistry :=
  match self.states target.key with
  | some state =>
    if state.attachmentGeneration ≤ target.attachmentGeneration then self.remove target.key else self
  | none => self

def clear (_self : OrdinalRegistry) : OrdinalRegistry := empty

end OrdinalRegistry

inductive Call where
  | beginGeneration (target : CaptureTarget)
  | allocate (target : CaptureTarget)
  | endGeneration (target : CaptureTarget)
  | clear

/-- The registry behind a call. -/
def Call.perform (self : OrdinalRegistry) : Call → OrdinalRegistry
  | .beginGeneration target => (self.beginGeneration target).2
  | .allocate target => (self.allocate target).2
  | .endGeneration target => self.endGeneration target
  | .clear => self.clear

/-- The registry behind a list of calls. -/
def after (self : OrdinalRegistry) (calls : List Call) : OrdinalRegistry := calls.foldl Call.perform self

/-- The ordinal that a call hands out for `key`. -/
def Call.ordinal (key : OrdinalKey) (self : OrdinalRegistry) : Call → Option CaptureOrdinal
  | .allocate target =>
    if target.key = key then
      match (self.allocate target).1 with
      | .allocated ordinal => some ordinal
      | .staleGeneration | .exhausted => none
    else none
  | .beginGeneration _ | .endGeneration _ | .clear => none

/-- The ordinals that a list of calls hands out for `key`, in order. -/
def handedOut (key : OrdinalKey) : OrdinalRegistry → List Call → List CaptureOrdinal
  | _, [] => []
  | self, call :: calls => (call.ordinal key self).toList ++ handedOut key (call.perform self) calls

/-- The call is a terminal stop that drops the ordinal state of `key`, or the end of the session. -/
def Releases (key : OrdinalKey) (self : OrdinalRegistry) : Call → Prop
  | .endGeneration target =>
    target.key = key ∧ ∃ state ∈ self.states key, state.attachmentGeneration ≤ target.attachmentGeneration
  | .clear => True
  | .beginGeneration _ | .allocate _ => False

/-- No call of the list releases the ordinal state of `key`. -/
def Keeps (key : OrdinalKey) : OrdinalRegistry → List Call → Prop
  | _, [] => True
  | self, call :: calls => ¬Releases key self call ∧ Keeps key (call.perform self) calls

/-- The last ordinal handed out for `key` since its state was made; zero where there is no state. -/
def OrdinalRegistry.last (self : OrdinalRegistry) (key : OrdinalKey) : Nat :=
  match self.states key with
  | some state => state.last
  | none => 0

variable {key : OrdinalKey} {self : OrdinalRegistry} {target : CaptureTarget} {call : Call} {calls : List Call}

@[simp] theorem states_insert (self : OrdinalRegistry) (key : OrdinalKey) (state : OrdinalState) :
    (self.insert key state).states key = some state := Function.update_self ..

theorem states_insert_of_ne {key' : OrdinalKey} (h : key' ≠ key) (self : OrdinalRegistry) (state : OrdinalState) :
    (self.insert key state).states key' = self.states key' := Function.update_of_ne h ..

@[simp] theorem states_remove (self : OrdinalRegistry) (key : OrdinalKey) : (self.remove key).states key = none :=
  Function.update_self ..

theorem states_remove_of_ne {key' : OrdinalKey} (h : key' ≠ key) (self : OrdinalRegistry) :
    (self.remove key).states key' = self.states key' := Function.update_of_ne h ..

/-- What `allocate` does: it hands out the next ordinal to the attachment that the registry holds, and changes nothing
otherwise. -/
theorem allocate_cases (self : OrdinalRegistry) (target : CaptureTarget) :
    (∃ state ordinal, self.states target.key = some state ∧ state.attachmentGeneration = target.attachmentGeneration ∧
      ordinal.value.toNat = state.last + 1 ∧
        self.allocate target = (.allocated ordinal, self.insert target.key { state with last := state.last + 1 })) ∨
    (∃ answer, (∀ ordinal, answer ≠ .allocated ordinal) ∧ self.allocate target = (answer, self) ∧
      ∀ state, self.states target.key = some state →
        state.attachmentGeneration ≠ target.attachmentGeneration → answer = .staleGeneration) := by
  unfold OrdinalRegistry.allocate
  cases hstate : self.states target.key with
  | none => exact .inr ⟨.staleGeneration, nofun, rfl, nofun⟩
  | some state =>
    dsimp only
    by_cases hgeneration : state.attachmentGeneration = target.attachmentGeneration
    · rw [if_neg (not_not.2 hgeneration)]
      cases hnext : checkedAdd state.last 1 with
      | none =>
        refine .inr ⟨.exhausted, nofun, rfl, fun state' hstate' hne => ?_⟩
        cases hstate'
        exact absurd hgeneration hne
      | some next =>
        obtain ⟨hmax, rfl⟩ := checkedAdd_eq_some.1 hnext
        have hvalue : (UInt64.ofNat (state.last + 1)).toNat = state.last + 1 :=
          UInt64.toNat_ofNat_of_lt' (by unfold u64Max at hmax; show _ < 2 ^ 64; omega)
        have hne : UInt64.ofNat (state.last + 1) ≠ 0 := by
          intro hzero
          rw [hzero] at hvalue
          exact absurd hvalue (by simp)
        have hnew : CaptureOrdinal.new (UInt64.ofNat (state.last + 1)) = .ok ⟨_, hne⟩ := dif_pos hne
        refine .inl ⟨state, ⟨_, hne⟩, rfl, hgeneration, hvalue, ?_⟩
        dsimp only
        rw [hnew]
    · rw [if_pos hgeneration]
      exact .inr ⟨.staleGeneration, nofun, rfl, fun _ _ _ => rfl⟩

theorem beginGeneration_cases (self : OrdinalRegistry) (target : CaptureTarget) :
    (self.beginGeneration target = (false, self) ∧
      ∃ state, self.states target.key = some state ∧ target.attachmentGeneration < state.attachmentGeneration) ∨
    ((∀ state, self.states target.key = some state → state.attachmentGeneration ≤ target.attachmentGeneration) ∧
      self.beginGeneration target = (true, self.insert target.key
        { attachmentGeneration := target.attachmentGeneration, last := self.last target.key })) := by
  unfold OrdinalRegistry.beginGeneration OrdinalRegistry.last
  cases hstate : self.states target.key with
  | none => exact .inr ⟨nofun, rfl⟩
  | some state =>
    dsimp only
    split
    · exact .inl ⟨rfl, state, rfl, ‹_›⟩
    · refine .inr ⟨fun state' hstate' => ?_, rfl⟩
      cases hstate'
      exact not_lt.1 ‹_›

/-- What a call does to the state of `key`, unless it releases it: the generation does not fall, and the last ordinal
goes up by the one that is handed out. -/
structure Goes (key : OrdinalKey) (registry : OrdinalRegistry) (call : Call) : Prop where
  generation : ∀ state, registry.states key = some state →
    ∃ state', (call.perform registry).states key = some state' ∧
      state.attachmentGeneration ≤ state'.attachmentGeneration
  last : (call.perform registry).last key = registry.last key + (call.ordinal key registry).toList.length
  ordinal : ∀ ordinal, call.ordinal key registry = some ordinal → ordinal.value.toNat = registry.last key + 1

theorem Goes.unchanged (hstates : (call.perform self).states key = self.states key) (hordinal : call.ordinal key self = none) :
    Goes key self call where
  generation state hstate := ⟨state, by rw [hstates, hstate], le_rfl⟩
  last := by
    rw [hordinal, OrdinalRegistry.last, OrdinalRegistry.last, hstates]
    rfl
  ordinal ordinal h := by rw [hordinal] at h; cases h

theorem goes_of_not_releases (h : ¬Releases key self call) : Goes key self call := by
  cases call with
  | beginGeneration target =>
    obtain ⟨hbegin, -⟩ | ⟨hle, hbegin⟩ := beginGeneration_cases self target
    · exact Goes.unchanged (by rw [Call.perform, hbegin]) rfl
    · by_cases hkey : target.key = key
      · subst hkey
        refine ⟨fun state hstate => ⟨_, by rw [Call.perform, hbegin, states_insert], hle state hstate⟩, ?_, nofun⟩
        rw [Call.perform, hbegin, OrdinalRegistry.last, states_insert]
        rfl
      · exact Goes.unchanged (by rw [Call.perform, hbegin, states_insert_of_ne (Ne.symm hkey)]) rfl
  | allocate target =>
    by_cases hkey : target.key = key
    · subst hkey
      obtain ⟨state, ordinal, hstate, -, hvalue, hallocate⟩ | ⟨answer, hanswer, hallocate, -⟩ := allocate_cases self target
      · have hordinal : (Call.allocate target).ordinal target.key self = some ordinal := by
          rw [Call.ordinal, if_pos rfl, hallocate]
        have hlast : self.last target.key = state.last := by rw [OrdinalRegistry.last, hstate]
        refine ⟨fun state' hstate' => ?_, ?_, fun ordinal' h => ?_⟩
        · rw [hstate] at hstate'
          cases hstate'
          exact ⟨{ state with last := state.last + 1 }, by rw [Call.perform, hallocate, states_insert], le_rfl⟩
        · rw [hordinal, hlast, Call.perform, hallocate, OrdinalRegistry.last, states_insert]
          rfl
        · rw [hordinal] at h
          cases h
          rw [hvalue, hlast]
      · refine Goes.unchanged (by rw [Call.perform, hallocate]) ?_
        rw [Call.ordinal, if_pos rfl, hallocate]
        cases answer with
        | allocated ordinal => exact absurd rfl (hanswer ordinal)
        | staleGeneration | exhausted => rfl
    · have hordinal : (Call.allocate target).ordinal key self = none := if_neg hkey
      refine Goes.unchanged ?_ hordinal
      obtain ⟨state, ordinal, -, -, -, hallocate⟩ | ⟨answer, -, hallocate, -⟩ := allocate_cases self target
      · rw [Call.perform, hallocate, states_insert_of_ne (Ne.symm hkey)]
      · rw [Call.perform, hallocate]
  | endGeneration target =>
    refine Goes.unchanged ?_ rfl
    change (self.endGeneration target).states key = _
    unfold OrdinalRegistry.endGeneration
    cases hstate : self.states target.key with
    | none => rfl
    | some state =>
      dsimp only
      split
      · rename_i hle
        refine states_remove_of_ne (fun hkey => h ?_) self
        exact ⟨hkey.symm, state, by rw [hkey, hstate]; rfl, hle⟩
      · rfl
  | clear => exact absurd trivial h

theorem handedOut_eq (h : Keeps key self calls) :
    (handedOut key self calls).map (fun ordinal => ordinal.value.toNat) =
      List.range' (self.last key + 1) (handedOut key self calls).length := by
  induction calls generalizing self with
  | nil => rfl
  | cons call calls ih =>
    obtain ⟨hcall, hcalls⟩ := h
    have hgoes := goes_of_not_releases hcall
    have hrest := ih hcalls
    rw [hgoes.last] at hrest
    rw [handedOut]
    cases hordinal : call.ordinal key self with
    | none =>
      rw [hordinal] at hrest
      exact hrest
    | some ordinal =>
      rw [hordinal] at hrest
      simp only [Option.toList_some, List.singleton_append, List.map_cons, List.length_cons, List.length_nil] at hrest ⊢
      rw [hrest, hgoes.ordinal ordinal hordinal, List.range'_succ]

theorem generation_le {state : OrdinalState} (h : Keeps key self calls) (hstate : self.states key = some state) :
    ∃ state', (after self calls).states key = some state' ∧ state.attachmentGeneration ≤ state'.attachmentGeneration := by
  induction calls generalizing self state with
  | nil => exact ⟨state, hstate, le_rfl⟩
  | cons call calls ih =>
    obtain ⟨hcall, hcalls⟩ := h
    obtain ⟨state₁, hstate₁, hle₁⟩ := (goes_of_not_releases hcall).generation state hstate
    obtain ⟨state', hstate', hle'⟩ := ih hcalls hstate₁
    exact ⟨state', hstate', hle₁.trans hle'⟩

theorem allocate_stale (h : ∀ state, self.states target.key = some state →
    state.attachmentGeneration ≠ target.attachmentGeneration) : (self.allocate target).1 = .staleGeneration := by
  cases hstate : self.states target.key with
  | none => rw [OrdinalRegistry.allocate, hstate]
  | some state =>
    rw [OrdinalRegistry.allocate, hstate]
    dsimp only
    rw [if_pos (h state hstate)]

theorem states_of_releases (h : Releases key self call) : (call.perform self).states key = none := by
  cases call with
  | beginGeneration target | allocate target => exact absurd h id
  | endGeneration target =>
    obtain ⟨rfl, held, hheld, hle⟩ := h
    rw [Call.perform, OrdinalRegistry.endGeneration, Option.mem_def.1 hheld]
    dsimp only
    rw [if_pos hle, states_remove]
  | clear => rfl

theorem begins_of_appears {state : OrdinalState} (hnone : self.states key = none)
    (hsome : (call.perform self).states key = some state) :
    ∃ target, call = .beginGeneration target ∧ target.key = key ∧
      state.attachmentGeneration = target.attachmentGeneration := by
  cases call with
  | beginGeneration target =>
    obtain ⟨hbegin, -⟩ | ⟨-, hbegin⟩ := beginGeneration_cases self target
    · rw [Call.perform, hbegin, hnone] at hsome
      cases hsome
    · by_cases hkey : target.key = key
      · subst hkey
        rw [Call.perform, hbegin, states_insert] at hsome
        cases hsome
        exact ⟨target, rfl, rfl, rfl⟩
      · rw [Call.perform, hbegin, states_insert_of_ne (Ne.symm hkey), hnone] at hsome
        cases hsome
  | allocate target =>
    obtain ⟨held, ordinal, hheld, -, -, hallocate⟩ | ⟨answer, -, hallocate, -⟩ := allocate_cases self target
    · have hkey : key ≠ target.key := by
        rintro rfl
        rw [hnone] at hheld
        cases hheld
      rw [Call.perform, hallocate, states_insert_of_ne hkey, hnone] at hsome
      cases hsome
    · rw [Call.perform, hallocate, hnone] at hsome
      cases hsome
  | endGeneration target =>
    rw [Call.perform, OrdinalRegistry.endGeneration] at hsome
    cases hheld : self.states target.key with
    | none => rw [hheld] at hsome; exact absurd (hnone.symm.trans hsome) nofun
    | some held =>
      have hkey : key ≠ target.key := by
        rintro rfl
        rw [hnone] at hheld
        cases hheld
      rw [hheld] at hsome
      dsimp only at hsome
      split at hsome
      · rw [states_remove_of_ne hkey, hnone] at hsome
        cases hsome
      · rw [hnone] at hsome
        cases hsome
  | clear => cases hsome

/-- The registry holds no generation of `key` below `generation`. -/
def NotBelow (key : OrdinalKey) (generation : Nat) (self : OrdinalRegistry) : Prop :=
  ∀ state, self.states key = some state → generation ≤ state.attachmentGeneration

theorem NotBelow.step {generation : Nat} (h : NotBelow key generation self)
    (hbegin : ∀ later, call = .beginGeneration later → later.key = key → generation ≤ later.attachmentGeneration) :
    NotBelow key generation (call.perform self) := by
  intro state hstate
  by_cases hreleases : Releases key self call
  · rw [states_of_releases hreleases] at hstate
    cases hstate
  · cases hheld : self.states key with
    | some held =>
      obtain ⟨state', hstate', hle⟩ := (goes_of_not_releases hreleases).generation held hheld
      rw [hstate'] at hstate
      cases hstate
      exact (h held hheld).trans hle
    | none =>
      obtain ⟨later, hcall, hkey, hgeneration⟩ := begins_of_appears hheld hstate
      exact hgeneration ▸ hbegin later hcall hkey

theorem NotBelow.after {generation : Nat} (h : NotBelow key generation self)
    (hbegin : ∀ later, .beginGeneration later ∈ calls → later.key = key → generation ≤ later.attachmentGeneration) :
    NotBelow key generation (after self calls) := by
  induction calls generalizing self with
  | nil => exact h
  | cons call calls ih =>
    refine ih (h.step fun later hcall => hbegin later (by simp [hcall])) fun later hlater => hbegin later ?_
    exact List.mem_cons_of_mem _ hlater

theorem after_of_released (hnone : self.states key = none)
    (hbegin : ∀ later, .beginGeneration later ∈ calls → later.key ≠ key) : (after self calls).states key = none := by
  induction calls generalizing self with
  | nil => exact hnone
  | cons call calls ih =>
    refine ih ?_ fun later hlater => hbegin later (List.mem_cons_of_mem _ hlater)
    cases hstate : (call.perform self).states key with
    | none => rfl
    | some state =>
      obtain ⟨later, hcall, hkey, -⟩ := begins_of_appears hnone hstate
      exact absurd hkey (hbegin later (by simp [hcall]))

/-- Between two releases of a target's state its ordinals go up by one, and no generation older than an accepted one
allocates; across releases it does not either when the generations begin in order.  A release leaves every allocation
stale until a generation begins, and the ordinals start again at one. -/
theorem ordinals_fenced (self : OrdinalRegistry) (key : OrdinalKey) (calls : List Call) :
    (Keeps key self calls → (handedOut key self calls).Pairwise fun earlier later => earlier.value < later.value) ∧
    (∀ first second : CaptureTarget, first.key = key → second.key = key → (self.beginGeneration first).1 = true →
      second.attachmentGeneration < first.attachmentGeneration →
      (Keeps key (self.beginGeneration first).2 calls ∨
        ∀ later, .beginGeneration later ∈ calls → later.key = key →
          first.attachmentGeneration ≤ later.attachmentGeneration) →
      ((after (self.beginGeneration first).2 calls).allocate second).1 = .staleGeneration) ∧
    ∀ release, Releases key self release →
      ((∀ later, .beginGeneration later ∈ calls → later.key ≠ key) → ∀ target, target.key = key →
        ((after (release.perform self) calls).allocate target).1 = .staleGeneration) ∧
      (Keeps key (release.perform self) calls →
        (handedOut key (release.perform self) calls).map (fun ordinal => ordinal.value.toNat) =
          List.range' 1 (handedOut key (release.perform self) calls).length) := by
  refine ⟨fun hkeeps => ?_, fun first second hfirst hsecond haccepted hlt horder => ?_, fun release hreleases => ⟨?_, ?_⟩⟩
  · have hvalues := handedOut_eq hkeeps
    have hsorted : ((handedOut key self calls).map fun ordinal => ordinal.value.toNat).Pairwise (· < ·) := by
      rw [hvalues]
      exact List.pairwise_lt_range'
    exact (List.pairwise_map.1 hsorted).imp fun h => h
  · obtain ⟨hbegin, -⟩ | ⟨-, hbegin⟩ := beginGeneration_cases self first
    · rw [hbegin] at haccepted
      cases haccepted
    have hheld : (self.beginGeneration first).2.states key =
        some { attachmentGeneration := first.attachmentGeneration, last := self.last first.key } := by
      rw [hbegin, ← hfirst, states_insert]
    refine allocate_stale fun state hstate => ?_
    rw [hsecond] at hstate
    rcases horder with hkeeps | hbegins
    · obtain ⟨state', hstate', hle⟩ := generation_le hkeeps hheld
      rw [hstate'] at hstate
      cases hstate
      exact (hlt.trans_le hle).ne'
    · have hbelow : NotBelow key first.attachmentGeneration (self.beginGeneration first).2 := by
        intro held hstate
        rw [hheld] at hstate
        cases hstate
        exact le_rfl
      exact (hlt.trans_le (hbelow.after hbegins state hstate)).ne'
  · intro hbegins target htarget
    refine allocate_stale fun state hstate => ?_
    rw [htarget, after_of_released (states_of_releases hreleases) hbegins] at hstate
    cases hstate
  · intro hkeeps
    have hlast : (release.perform self).last key = 0 := by
      rw [OrdinalRegistry.last, states_of_releases hreleases]
    rw [handedOut_eq hkeeps, hlast]

/-- An attachment of one target of a session. -/
def attachment (generation : Nat) : CaptureTarget :=
  ⟨⟨⟨List.replicate 16 1, rfl⟩⟩, ⟨⟨List.replicate 16 2, rfl⟩⟩, generation⟩

theorem ordinals_fenced_second :
    ((after (OrdinalRegistry.empty.beginGeneration (attachment 2)).2 [.allocate (attachment 2)]).allocate
      (attachment 1)).1 = .staleGeneration :=
  (ordinals_fenced .empty (attachment 2).key [.allocate (attachment 2)]).2.1 (attachment 2) (attachment 1) rfl rfl rfl
    (by decide) (.inr (by simp))

/-- A target that is closed and started again with a later generation hands out its first ordinal twice. -/
theorem restarted_target_repeats : ¬∀ (key : OrdinalKey) (calls : List Call),
    (handedOut key .empty calls).Pairwise fun earlier later => earlier.value < later.value := by
  intro h
  have hrun := h (attachment 1).key [.beginGeneration (attachment 1), .allocate (attachment 1),
    .endGeneration (attachment 1), .beginGeneration (attachment 2), .allocate (attachment 2)]
  exact absurd hrun (by decide +kernel)

end Krometrail.Ordinals
