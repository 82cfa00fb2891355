import Krometrail.Control.SnapshotRegistry

/-!
# References

A reference that a snapshot published resolves to the backend node and the document that it was published for, or not at
all, as long as no target comes back: `retain_targets` forgets the generations of a target that it drops.
-/

namespace Krometrail.Control

open Results Runs

def Capture.target (c : Capture) : TargetId := c.snapshot.context.targetId

/-- The references that a capture publishes belong to its target and its generation, and its actionable nodes, and no
others, carry them. -/
structure Capture.Scoped (c : Capture) : Prop where
  published : ∀ entry ∈ c.published, entry.1.targetId = c.target ∧ entry.1.generation = c.snapshot.generation
  backed : ∀ entry ∈ c.published, c.identities.nodeByBackend entry.2 = some entry.1.nodeId
  actionable : ∀ node ∈ c.snapshot.nodes, node.actionable = node.reference.isSome
  references : c.snapshot.nodes.filterMap SnapshotNode.reference = c.published.map Prod.fst

/-- An active snapshot binds an identity to the backend node that has it. -/
structure ActiveSnapshot.Valid (active : ActiveSnapshot) : Prop where
  identities : active.identities.Valid
  bindings : ∀ id backend, active.bindings id = some backend → active.identities.nodeByBackend backend = some id

variable {registry registry' : SnapshotRegistry} {targetId other : TargetId} {target : TargetSnapshotRegistry}
  {attachmentGeneration : Nat} {document : DocumentFingerprint} {generation : SnapshotGeneration} {identities : Identities}

namespace SnapshotRegistry

@[simp] theorem set_targets_self : (registry.set targetId target).targets targetId = some target := Function.update_self _ _ _

theorem set_targets_of_ne (h : other ≠ targetId) : (registry.set targetId target).targets other = registry.targets other :=
  Function.update_of_ne h _ _

theorem entry_of_targets (h : registry.targets targetId = some target) : registry.entry targetId = target := by
  simp [entry, h]

theorem beginSnapshot_eq_ok
    (h : (registry.beginSnapshot targetId attachmentGeneration document).2 = .ok (generation, identities)) :
    (∃ active, (registry.entry targetId).active = some active ∧ active.attachmentGeneration = attachmentGeneration ∧
      active.document = document ∧ generation = active.generation ∧ identities = active.identities) ∨
    (generation.value = (registry.entry targetId).nextGeneration + 1 ∧ identities = ⟨fun _ => none, 0⟩) := by
  unfold beginSnapshot at h
  simp only [] at h
  split at h
  · rename_i active hactive
    obtain ⟨hactive, hsame⟩ := Option.filter_eq_some_iff.1 hactive
    cases h
    obtain ⟨hattachment, hdocument⟩ := of_decide_eq_true hsame
    exact .inl ⟨active, hactive, hattachment, hdocument, rfl, rfl⟩
  · obtain ⟨next, hnext, h⟩ := bind_eq_ok.1 h
    obtain ⟨generation', hgeneration, h⟩ := bind_eq_ok.1 h
    obtain ⟨rfl, rfl⟩ := Prod.mk.inj (pure_eq_ok.1 h)
    obtain ⟨-, rfl⟩ := checkedAdd_eq_some.1 (okOr_eq_ok.1 hnext)
    refine .inr ⟨?_, rfl⟩
    unfold SnapshotGeneration.new at hgeneration
    split at hgeneration
    · exact congrArg SnapshotGeneration.value (Except.ok.inj hgeneration).symm
    · cases hgeneration

theorem activeReferenceBackend_eq_ok {bound : BoundTarget} {reference : NodeReference} {active : ActiveSnapshot} {backend : Int}
    (h : registry.activeReferenceBackend bound reference = .ok (active, backend)) :
    reference.targetId = bound.targetId ∧
    (∃ target, registry.targets bound.targetId = some target ∧ target.active = some active) ∧
    active.generation = reference.generation ∧ active.attachmentGeneration = bound.attachmentGeneration ∧
    active.bindings reference.nodeId = some backend := by
  simp only [activeReferenceBackend, bind_eq_ok, refuse_eq_ok (u := ()), okOr_eq_ok, pure_eq_ok, not_not] at h
  obtain ⟨-, htarget, active', hactive, -, hgeneration, -, hattachment, backend', hbackend, heq⟩ := h
  obtain ⟨rfl, rfl⟩ := Prod.mk.inj heq
  exact ⟨htarget, Option.bind_eq_some_iff.1 hactive, hgeneration, hattachment, hbackend⟩

theorem validatedReferenceBackend_eq_ok {bound : BoundTarget} {reference : NodeReference} {backend : Int}
    {browser : Option PageFrameReference → Result DocumentFingerprint}
    (h : registry.validatedReferenceBackend bound reference browser = .ok backend) :
    ∃ active, registry.activeReferenceBackend bound reference = .ok (active, backend) ∧
      browser active.frame = .ok active.document := by
  simp only [validatedReferenceBackend, bind_eq_ok] at h
  obtain ⟨⟨active, backend'⟩, hactive, current, hcurrent, u, hsame, heq⟩ := h
  obtain rfl := pure_eq_ok.1 heq
  obtain rfl := not_not.1 ((refuse_eq_ok (u := ())).1 hsame)
  exact ⟨active, hactive, hcurrent⟩

end SnapshotRegistry

variable {sessionId : SessionId} {bound : BoundTarget} {frame : Option ResolvedFrameDocument} {replies : CaptureReplies}
  {response : Option AxTreeResponse} {c c' : Capture} {active active' : ActiveSnapshot} {s s' : State}

/-- What a capture makes of the identities that it starts from. -/
structure Capture.Made (c : Capture) (active : ActiveSnapshot) (bound : BoundTarget) (document : DocumentFingerprint)
    (generation : SnapshotGeneration) (start : Identities) : Prop where
  ofScope : c.Scoped
  valid : active.Valid
  follows : start.Follows active.identities
  backed : ∀ entry ∈ c.published, active.identities.nodeByBackend entry.2 = some entry.1.nodeId
  target_eq : c.target = bound.targetId
  attachment_eq : c.snapshot.context.attachmentGeneration = bound.attachmentGeneration
  generation_eq : c.snapshot.generation = generation
  document_eq : c.document = document
  active_generation : active.generation = generation
  active_attachment : active.attachmentGeneration = bound.attachmentGeneration
  active_document : active.document = document
  identities_eq : c.identities = active.identities
  stable : ∀ b id, start.nodeByBackend b = some id → (c.identities.nodeByBackend b).isSome →
    c.identities.nodeByBackend b = some id

theorem actionable_of_new {context : ObservationContext} {nodes : List SnapshotNode} {omitted : Nat} {snapshot : PageSnapshot}
    (h : PageSnapshot.new context generation nodes omitted = .ok snapshot) :
    snapshot = ⟨context, generation, nodes, omitted⟩ ∧ ∀ node ∈ nodes, node.actionable = node.reference.isSome := by
  obtain ⟨seen, hnodes, hsnapshot⟩ := bind_eq_ok.1 h
  refine ⟨(pure_eq_ok.1 hsnapshot).symm, ?_⟩
  refine foldlM_prefix (P := fun l _ => ∀ node ∈ l, node.actionable = node.reference.isSome) ?_ (by simp) hnodes
  intro before node after seen seen' _ hbefore hcheck
  simp only [checkNode, bind_eq_ok, refuse_eq_ok, not_not] at hcheck
  obtain ⟨_, -, _, -, _, -, _, hactionable, -⟩ := hcheck
  simpa [or_imp, forall_and] using ⟨hbefore, hactionable⟩

theorem made_of_decodeSnapshot (hstart : identities.Valid)
    (h : decodeSnapshot sessionId bound frame replies document response generation identities = .ok (c, active)) :
    c.Made active bound document generation identities := by
  simp only [decodeSnapshot, bind_eq_ok] at h
  obtain ⟨d, hdecode, -, -, completedAt, -, context, hcontext, snapshot, hsnapshot, heq⟩ := h
  obtain ⟨rfl, rfl⟩ := Prod.mk.inj (pure_eq_ok.1 heq)
  simp only [ObservationContext.new, bind_eq_ok] at hcontext
  obtain ⟨-, -, hcontext⟩ := hcontext
  obtain rfl := pure_eq_ok.1 hcontext
  obtain ⟨rfl, hactionable⟩ := actionable_of_new hsnapshot
  have hsound := sound_of_decode hstart hdecode
  have hbacked : ∀ entry ∈ d.published, d.identities.nodeByBackend entry.2 = some entry.1.nodeId := fun entry hentry =>
    (hsound.bindings _ _ (hsound.published entry hentry).2.2).1
  refine ⟨⟨fun entry hentry => ?_, hbacked, hactionable, hsound.references⟩,
    ⟨hsound.valid, fun id backend hid => (hsound.bindings id backend hid).1⟩, hsound.follows, hbacked, rfl, rfl, rfl, rfl, rfl, rfl, rfl, rfl, fun b id hid => identity_of_decode hid hdecode⟩
  exact ⟨(hsound.published entry hentry).1, (hsound.published entry hentry).2.1⟩

theorem capture_cases (sessionId : SessionId) (bound : BoundTarget) (frame : Option ResolvedFrameDocument)
    (replies : CaptureReplies) :
    s.next (.capture sessionId bound frame replies) = s ∨
    s.next (.capture sessionId bound frame replies) =
      { s with registry := s.registry.set bound.targetId (s.registry.entry bound.targetId) } ∨
    ∃ document response generation identities c active,
      (s.registry.beginSnapshot bound.targetId bound.attachmentGeneration document).2 = .ok (generation, identities) ∧
      decodeSnapshot sessionId bound frame replies document response generation identities = .ok (c, active) ∧
      s.next (.capture sessionId bound frame replies) =
        ⟨s.registry.set bound.targetId ⟨active.generation.value, some active⟩, c :: s.captures⟩ := by
  cases hobserve : observeDocument frame replies with
  | error error => exact .inl (by simp [State.next, captureSnapshotForFrame, hobserve])
  | ok observed =>
    obtain ⟨document, response⟩ := observed
    cases hbegin : s.registry.beginSnapshot bound.targetId bound.attachmentGeneration document with
    | mk registry begun =>
      have hregistry : registry = s.registry.set bound.targetId (s.registry.entry bound.targetId) :=
        (congrArg Prod.fst hbegin).symm
      cases begun with
      | error error => exact .inr (.inl (by simp [State.next, captureSnapshotForFrame, hobserve, hbegin, hregistry]))
      | ok begun =>
        obtain ⟨generation, identities⟩ := begun
        cases hdecode : decodeSnapshot sessionId bound frame replies document response generation identities with
        | error error =>
          exact .inr (.inl (by simp [State.next, captureSnapshotForFrame, hobserve, hbegin, hdecode, hregistry]))
        | ok made =>
          obtain ⟨c, active⟩ := made
          refine .inr (.inr ⟨document, response, generation, identities, c, active, by rw [hbegin], hdecode, ?_⟩)
          simp [State.next, captureSnapshotForFrame, hobserve, hbegin, hdecode, hregistry, SnapshotRegistry.install,
            SnapshotRegistry.set]

/-! ### The invariant -/

/-- An active snapshot keeps what a capture published, when it has the generation of the capture. -/
structure Capture.Agrees (c : Capture) (active : ActiveSnapshot) : Prop where
  attachment : c.snapshot.context.attachmentGeneration = active.attachmentGeneration
  document : c.document = active.document
  drawn : ∀ entry ∈ c.published, entry.1.nodeId.value ≤ active.identities.nextNodeId
  kept : ∀ entry ∈ c.published, ∀ backend, active.identities.nodeByBackend backend = some entry.1.nodeId → backend = entry.2

/-- Two captures of one generation show one document, and a reference of both stands for one backend node. -/
structure Capture.Compatible (c c' : Capture) : Prop where
  attachment : c.snapshot.context.attachmentGeneration = c'.snapshot.context.attachmentGeneration
  document : c.document = c'.document
  published : ∀ entry ∈ c.published, ∀ entry' ∈ c'.published, entry.1 = entry'.1 → entry.2 = entry'.2

/-- What the entry of a target knows of the captures of the target. -/
structure TargetSnapshotRegistry.Sound (captures : List Capture) (id : TargetId) (kept : TargetSnapshotRegistry) : Prop where
  valid : ∀ active ∈ kept.active, active.Valid ∧ active.generation.value = kept.nextGeneration
  drawn : ∀ c ∈ captures, c.target = id → c.snapshot.generation.value ≤ kept.nextGeneration
  current : ∀ c ∈ captures, c.target = id → ∀ active ∈ kept.active, active.generation = c.snapshot.generation → c.Agrees active

structure State.Sound (s : State) : Prop where
  captured : ∀ c ∈ s.captures, c.Scoped
  targets : ∀ id kept, s.registry.targets id = some kept → kept.Sound s.captures id
  compatible : ∀ c ∈ s.captures, ∀ c' ∈ s.captures, c.target = c'.target → c.snapshot.generation = c'.snapshot.generation →
    c.Compatible c'

/-- A target that the registry has dropped after one of its snapshots was returned is not captured again. -/
def NoReturn (s : State) : Input → Prop
  | .capture _ bound _ _ => (s.registry.targets bound.targetId).isSome ∨ ∀ c ∈ s.captures, c.target ≠ bound.targetId
  | _ => True

theorem Capture.Compatible.symm (h : c.Compatible c') : c'.Compatible c :=
  ⟨h.attachment.symm, h.document.symm, fun entry hentry entry' hentry' heq => (h.published entry' hentry' entry hentry heq.symm).symm⟩

theorem Capture.Agrees.of_follows (h : c.Agrees active) (hfollows : active.identities.Follows active'.identities)
    (hattachment : active.attachmentGeneration = active'.attachmentGeneration) (hdocument : active.document = active'.document) :
    c.Agrees active' where
  attachment := h.attachment.trans hattachment
  document := h.document.trans hdocument
  drawn entry hentry := (h.drawn entry hentry).trans hfollows.next_le
  kept entry hentry backend hbackend := by
    rcases hfollows.kept_or_drawn backend _ hbackend with hold | hnew
    · exact h.kept entry hentry backend hold
    · exact absurd (h.drawn entry hentry) (Nat.not_le.2 hnew)

namespace Capture.Made

variable (hmade : c.Made active bound document generation identities)

include hmade

theorem agrees : c.Agrees active where
  attachment := hmade.attachment_eq.trans hmade.active_attachment.symm
  document := hmade.document_eq.trans hmade.active_document.symm
  drawn entry hentry := hmade.valid.identities.drawn _ _ (hmade.backed entry hentry)
  kept entry hentry _ hbackend := hmade.valid.identities.injective _ _ _ hbackend (hmade.backed entry hentry)

theorem compatible (h : c'.Agrees active) : c.Compatible c' where
  attachment := hmade.agrees.attachment.trans h.attachment.symm
  document := hmade.agrees.document.trans h.document.symm
  published entry hentry entry' hentry' heq := h.kept entry' hentry' entry.2 (heq ▸ hmade.backed entry hentry)

end Capture.Made

theorem agrees_of_made (hkept : (s.registry.entry bound.targetId).Sound s.captures bound.targetId)
    (hbegin : (s.registry.beginSnapshot bound.targetId bound.attachmentGeneration document).2 = .ok (generation, identities))
    (hmade : c.Made active bound document generation identities) (hc' : c' ∈ s.captures) (htarget : c'.target = bound.targetId)
    (hgeneration : c'.snapshot.generation = generation) : c'.Agrees active := by
  rcases SnapshotRegistry.beginSnapshot_eq_ok hbegin with ⟨old, hold, hattachment, hdocument, hgen, rfl⟩ | ⟨hgen, rfl⟩
  · refine (hkept.current c' hc' htarget old hold (hgen.symm.trans hgeneration.symm)).of_follows hmade.follows ?_ ?_
    · rw [hattachment, hmade.active_attachment]
    · rw [hdocument, hmade.active_document]
  · have := hkept.drawn c' hc' htarget
    rw [hgeneration, hgen] at this
    omega

theorem nextGeneration_le (hkept : (s.registry.entry bound.targetId).Sound s.captures bound.targetId)
    (hbegin : (s.registry.beginSnapshot bound.targetId bound.attachmentGeneration document).2 = .ok (generation, identities)) :
    (s.registry.entry bound.targetId).nextGeneration ≤ generation.value := by
  rcases SnapshotRegistry.beginSnapshot_eq_ok hbegin with ⟨old, hold, -, -, rfl, -⟩ | ⟨hgen, -⟩
  · exact (hkept.valid old hold).2.ge
  · omega

theorem valid_of_begin (hkept : (s.registry.entry bound.targetId).Sound s.captures bound.targetId)
    (hbegin : (s.registry.beginSnapshot bound.targetId bound.attachmentGeneration document).2 = .ok (generation, identities)) :
    identities.Valid := by
  rcases SnapshotRegistry.beginSnapshot_eq_ok hbegin with ⟨old, hold, -, -, -, rfl⟩ | ⟨-, rfl⟩
  · exact (hkept.valid old hold).1.identities
  · exact ⟨nofun, nofun⟩

namespace State.Sound

theorem entry (hs : s.Sound) (h : (s.registry.targets targetId).isSome ∨ ∀ c ∈ s.captures, c.target ≠ targetId) :
    (s.registry.entry targetId).Sound s.captures targetId := by
  cases htarget : s.registry.targets targetId with
  | some kept =>
    rw [SnapshotRegistry.entry_of_targets htarget]
    exact hs.targets targetId kept htarget
  | none =>
    have hnone : ∀ c ∈ s.captures, c.target ≠ targetId := h.resolve_left (by simp [htarget])
    simp only [SnapshotRegistry.entry, htarget, Option.getD_none]
    exact ⟨nofun, fun c hc heq => absurd heq (hnone c hc), fun c hc heq => absurd heq (hnone c hc)⟩

theorem set (hs : s.Sound) (h : target.Sound s.captures targetId) :
    State.Sound { s with registry := s.registry.set targetId target } := by
  refine ⟨hs.captured, fun id kept hkept => ?_, hs.compatible⟩
  by_cases heq : id = targetId
  · subst heq
    simp only [SnapshotRegistry.set_targets_self, Option.some.injEq] at hkept
    exact hkept ▸ h
  · simp only [SnapshotRegistry.set_targets_of_ne heq] at hkept
    exact hs.targets id kept hkept

theorem capture (hs : s.Sound) (hkept : (s.registry.entry bound.targetId).Sound s.captures bound.targetId)
    (hbegin : (s.registry.beginSnapshot bound.targetId bound.attachmentGeneration document).2 = .ok (generation, identities))
    (hmade : c.Made active bound document generation identities) :
    State.Sound ⟨s.registry.set bound.targetId ⟨active.generation.value, some active⟩, c :: s.captures⟩ := by
  have hold : ∀ c' ∈ s.captures, c'.target = bound.targetId → c'.snapshot.generation = generation → c'.Agrees active :=
    fun _ => agrees_of_made hkept hbegin hmade
  refine ⟨?_, fun id kept hid => ?_, ?_⟩
  · simpa using ⟨hmade.ofScope, hs.captured⟩
  · by_cases heq : id = bound.targetId
    · subst heq
      simp only [SnapshotRegistry.set_targets_self, Option.some.injEq] at hid
      subst hid
      refine ⟨?_, ?_, ?_⟩
      · simp [hmade.valid]
      · intro c' hc' htarget
        rcases List.mem_cons.1 hc' with rfl | hc'
        · rw [hmade.generation_eq, hmade.active_generation]
        · rw [hmade.active_generation]
          exact (hkept.drawn c' hc' htarget).trans (nextGeneration_le hkept hbegin)
      · intro c' hc' htarget active' hactive' hgeneration
        obtain rfl : active = active' := Option.some.inj hactive'
        rcases List.mem_cons.1 hc' with rfl | hc'
        · exact hmade.agrees
        · exact hold c' hc' htarget (hgeneration.symm.trans hmade.active_generation)
    · simp only [SnapshotRegistry.set_targets_of_ne heq] at hid
      have hsound := hs.targets id kept hid
      have hne : c.target ≠ id := fun h => heq (h.symm.trans hmade.target_eq)
      refine ⟨hsound.valid, fun c' hc' htarget => ?_, fun c' hc' htarget => ?_⟩ <;>
        rcases List.mem_cons.1 hc' with rfl | hc'
      · exact absurd htarget hne
      · exact hsound.drawn c' hc' htarget
      · exact absurd htarget hne
      · exact hsound.current c' hc' htarget
  · intro c₁ h₁ c₂ h₂ htarget hgeneration
    rcases List.mem_cons.1 h₁ with rfl | m₁ <;> rcases List.mem_cons.1 h₂ with rfl | m₂
    · exact hmade.compatible hmade.agrees
    · exact hmade.compatible (hold c₂ m₂ (htarget.symm.trans hmade.target_eq) (hgeneration.symm.trans hmade.generation_eq))
    · exact (hmade.compatible (hold c₁ m₁ (htarget.trans hmade.target_eq) (hgeneration.trans hmade.generation_eq))).symm
    · exact hs.compatible c₁ m₁ c₂ m₂ htarget hgeneration

theorem next (hs : s.Sound) {input : Input} (hguard : NoReturn s input) : (s.next input).Sound := by
  cases input with
  | capture sessionId bound frame replies =>
    have hkept := hs.entry hguard
    rcases capture_cases (s := s) sessionId bound frame replies with heq | heq |
      ⟨document, response, generation, identities, c, active, hbegin, hdecode, heq⟩
    · rwa [heq]
    · rw [heq]
      exact hs.set hkept
    · rw [heq]
      exact hs.capture hkept hbegin (made_of_decodeSnapshot (valid_of_begin hkept hbegin) hdecode)
  | invalidateTarget targetId =>
    simp only [State.next, SnapshotRegistry.invalidateTarget]
    split
    · exact hs
    · rename_i kept hkept
      have hsound := hs.targets _ _ hkept
      exact hs.set ⟨nofun, hsound.drawn, nofun⟩
  | retainTargets live =>
    refine ⟨hs.captured, fun id kept hkept => ?_, hs.compatible⟩
    exact hs.targets id kept (Option.ite_none_right_eq_some.1 hkept).2

end State.Sound

theorem sound_of_run {trace : List (State × Input × Unit)} (h : Run pageControl NoReturn trace s) : s.Sound := by
  refine h.invariant (P := State.Sound) ?_ ?_
  · rintro _ rfl
    exact ⟨nofun, nofun, nofun⟩
  · intro s input _ s' hs hguard hstep
    exact Option.some.inj hstep ▸ hs.next hguard

/-- What a page control promises of the references of the snapshots `captures`, when they are resolved in `registry`. -/
structure ReferencesHold (s : State) : Prop where
  published : ∀ c ∈ s.captures, ∀ node ∈ c.snapshot.nodes, ∀ reference ∈ node.reference, ∃ backend,
    (reference, backend) ∈ c.published
  resolve : ∀ c ∈ s.captures, ∀ entry ∈ c.published, ∀ bound browser backend,
    s.registry.validatedReferenceBackend bound entry.1 browser = .ok backend →
      backend = entry.2 ∧ ∃ frame, browser frame = .ok c.document
  unique : ∀ c ∈ s.captures, ∀ entry ∈ c.published, ∀ c' ∈ s.captures, ∀ entry' ∈ c'.published, entry.1 = entry'.1 →
    entry.2 = entry'.2

/-- **A reference never resolves to another node, as long as no target comes back.**  A reference that a snapshot
published resolves to the backend node and the document that it was published for, or is rejected, and no two captures
publish one reference for different backend nodes. -/
theorem references_hold {trace : List (State × Input × Unit)} (h : Run pageControl NoReturn trace s) : ReferencesHold s := by
  have hs := sound_of_run h
  refine ⟨fun c hc node hnode reference hreference => ?_, fun c hc entry hentry bound browser backend hresolve => ?_,
    fun c hc entry hentry c' hc' entry' hentry' heq => ?_⟩
  · have hmem : reference ∈ c.published.map Prod.fst := by
      rw [← (hs.captured c hc).references]
      exact List.mem_filterMap.2 ⟨node, hnode, hreference⟩
    obtain ⟨⟨_, backend⟩, hentry, rfl⟩ := List.mem_map.1 hmem
    exact ⟨backend, hentry⟩
  · obtain ⟨active, hactive, hdocument⟩ := SnapshotRegistry.validatedReferenceBackend_eq_ok hresolve
    obtain ⟨htarget, ⟨kept, hkept, hcurrent⟩, hgeneration, -, hbinding⟩ :=
      SnapshotRegistry.activeReferenceBackend_eq_ok hactive
    obtain ⟨hentryTarget, hentryGeneration⟩ := (hs.captured c hc).published entry hentry
    have hsound := hs.targets _ kept hkept
    have hagrees : c.Agrees active :=
      hsound.current c hc (hentryTarget.symm.trans htarget) active hcurrent (hgeneration.trans hentryGeneration)
    have hmap := (hsound.valid active hcurrent).1.bindings _ _ hbinding
    exact ⟨hagrees.kept entry hentry backend hmap, active.frame, hagrees.document ▸ hdocument⟩
  · obtain ⟨htarget, hgeneration⟩ := (hs.captured c hc).published entry hentry
    obtain ⟨htarget', hgeneration'⟩ := (hs.captured c' hc').published entry' hentry'
    have hcompatible : c.Compatible c' := by
      refine hs.compatible c hc c' hc' ?_ ?_
      · rw [← htarget, ← htarget', heq]
      · rw [← hgeneration, ← hgeneration', heq]
    exact hcompatible.published entry hentry entry' hentry' heq

/-- A button of the backend node `backend`. -/
def buttonWire (backend : Int) (name : String) : AxNodeWire where
  nodeId := some "1"
  frameId := none
  ignored := false
  role := some ⟨some (.string "button")⟩
  name := some ⟨some (.string name)⟩
  value := none
  description := none
  backendDomNodeId := some backend
  childIds := []
  properties := []

def somePage : BoundTarget := ⟨⟨someUuid 1⟩, 1⟩

/-- A capture of a page that shows one button. -/
def captureButton (backend : Int) (name : String) : Input :=
  .capture ⟨someUuid 0⟩ somePage none
    { startedAt := ⟨0⟩, document := .ok ⟨"frame", "loader"⟩,
      accessibilityTree := .ok (some ⟨some (some [buttonWire backend name]), none⟩), dom := none, completedAt := .ok ⟨0⟩ }

theorem references_hold_button :
    (State.initial.next (captureButton 10 "Save")).captures.length = 1 ∧ ReferencesHold (State.initial.next (captureButton 10 "Save")) :=
  have hguard : NoReturn .initial (captureButton 10 "Save") := Or.inr nofun
  ⟨by decide +kernel, references_hold (.next (o := ()) (.start rfl) hguard rfl)⟩

/-- The counters of a target start again when it comes back, and a reference of its first snapshot resolves to the node
that took its place. -/
theorem reference_of_returned_target : ¬ ∀ s, pageControl.Reachable s → ReferencesHold s := by
  intro hall
  obtain ⟨s, hs, c, hc, entry, hentry, hbackend, hresolve⟩ := exists_reachable (· = State.initial)
    (fun s input => some (s.next input)) .initial rfl [captureButton 10 "Save", .retainTargets [], captureButton 20 "Delete"]
    (fun s => ∃ c ∈ s.captures, ∃ entry ∈ c.published, entry.2 = 10 ∧
      s.registry.validatedReferenceBackend somePage entry.1 (fun _ => .ok c.document) = .ok 20) (by decide +kernel)
  have heq := ((hall s hs).resolve c hc entry hentry _ _ _ hresolve).1
  rw [hbackend] at heq
  exact absurd heq (by decide)

/-- The captures of a target, the newest first: the generations do not go down, and within one the attachment and the
document stay. -/
def State.GenerationsFollow (s : State) : Prop :=
  s.captures.Pairwise fun newer older => newer.target = older.target →
    older.snapshot.generation.value ≤ newer.snapshot.generation.value ∧
      (newer.snapshot.generation = older.snapshot.generation →
        newer.snapshot.context.attachmentGeneration = older.snapshot.context.attachmentGeneration ∧
          newer.document = older.document)

/-- In every run the generations of a target do not go down. -/
theorem generations_follow {trace : List (State × Input × Unit)} (h : Run pageControl NoReturn trace s) :
    s.GenerationsFollow := by
  have hpairwise : s.captures.Pairwise fun newer older => newer.target = older.target →
      older.snapshot.generation.value ≤ newer.snapshot.generation.value := by
    refine (h.invariant (P := fun s => s.Sound ∧ s.captures.Pairwise fun newer older => newer.target = older.target →
      older.snapshot.generation.value ≤ newer.snapshot.generation.value) ?_ ?_).2
    · rintro _ rfl
      exact ⟨⟨nofun, nofun, nofun⟩, .nil⟩
    · rintro s input _ s' ⟨hs, hfollow⟩ hguard hstep
      obtain rfl := Option.some.inj hstep
      refine ⟨hs.next hguard, ?_⟩
      cases input with
      | capture sessionId bound frame replies =>
        rcases capture_cases (s := s) sessionId bound frame replies with heq | heq |
          ⟨document, response, generation, identities, c, active, hbegin, hdecode, heq⟩
        · rwa [heq]
        · rwa [heq]
        · rw [heq]
          have hkept := hs.entry hguard
          have hmade := made_of_decodeSnapshot (valid_of_begin hkept hbegin) hdecode
          refine List.pairwise_cons.2 ⟨fun older holder htarget => ?_, hfollow⟩
          rw [hmade.generation_eq]
          exact (hkept.drawn older holder (htarget.symm.trans hmade.target_eq)).trans (nextGeneration_le hkept hbegin)
      | invalidateTarget targetId => exact hfollow
      | retainTargets live => exact hfollow
  have hs := sound_of_run h
  refine List.pairwise_iff_get.2 fun i j hij htarget => ⟨List.pairwise_iff_get.1 hpairwise i j hij htarget, fun hgeneration => ?_⟩
  have hcompatible := hs.compatible _ (List.get_mem ..) _ (List.get_mem ..) htarget hgeneration
  exact ⟨hcompatible.attachment, hcompatible.document⟩

theorem generations_follow_again :
    let saved := State.initial.next (captureButton 10 "Save")
    (saved.next (captureButton 20 "Delete")).captures.length = 2 ∧ (saved.next (captureButton 20 "Delete")).GenerationsFollow :=
  have hguard : NoReturn .initial (captureButton 10 "Save") := Or.inr nofun
  have hagain : NoReturn (State.initial.next (captureButton 10 "Save")) (captureButton 20 "Delete") :=
    Or.inl (by decide +kernel)
  ⟨by decide +kernel, generations_follow (.next (o := ()) (.next (o := ()) (.start rfl) hguard rfl) hagain rfl)⟩

end Krometrail.Control
