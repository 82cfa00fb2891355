import Krometrail.Control.AccessibilityTree

/-!
# Identities in a decoded tree

What a decoded tree does with the identities it starts from (`Decoder.Sound`): an identity belongs to one backend node,
one that is given anew has not been drawn before, and every reference stands for the backend node that it was made for.
-/

namespace Krometrail.Control

open Results

/-- Every identity belongs to one backend node and has been drawn. -/
structure Identities.Valid (identities : Identities) : Prop where
  drawn : ∀ backend id, identities.nodeByBackend backend = some id → id.value ≤ identities.nextNodeId
  injective : ∀ backend backend' id, identities.nodeByBackend backend = some id →
    identities.nodeByBackend backend' = some id → backend = backend'

/-- An identity of `later` is one of `earlier`, of the same backend node, or is drawn after all of them. -/
structure Identities.Follows (earlier later : Identities) : Prop where
  next_le : earlier.nextNodeId ≤ later.nextNodeId
  kept_or_drawn : ∀ backend id, later.nodeByBackend backend = some id →
    earlier.nodeByBackend backend = some id ∨ earlier.nextNodeId < id.value

namespace Identities

variable {identities later : Identities} {id : SnapshotNodeId} {backend : Option Int}

theorem Valid.restrict (h : identities.Valid) (seen : Finset Int) :
    ({ identities with nodeByBackend := fun b => if b ∈ seen then identities.nodeByBackend b else none }).Valid where
  drawn b id hb := h.drawn b id (Option.ite_none_right_eq_some.1 hb).2
  injective b b' id hb hb' :=
    h.injective b b' id (Option.ite_none_right_eq_some.1 hb).2 (Option.ite_none_right_eq_some.1 hb').2

theorem Follows.refl (identities : Identities) : identities.Follows identities := ⟨le_rfl, fun _ _ => .inl⟩

theorem Follows.trans {a b c : Identities} (hab : a.Follows b) (hbc : b.Follows c) : a.Follows c where
  next_le := hab.next_le.trans hbc.next_le
  kept_or_drawn backend id h := by
    rcases hbc.kept_or_drawn backend id h with h | h
    · exact hab.kept_or_drawn backend id h
    · exact .inr (hab.next_le.trans_lt h)

theorem draw_eq_ok (h : identities.draw = .ok (id, later)) :
    id.value = identities.nextNodeId + 1 ∧ later = { identities with nextNodeId := identities.nextNodeId + 1 } := by
  unfold draw at h
  split at h
  · obtain ⟨id', hid, heq⟩ := bind_eq_ok.1 h
    obtain ⟨rfl, rfl⟩ := Prod.mk.inj (pure_eq_ok.1 heq)
    unfold SnapshotNodeId.new at hid
    split at hid
    · exact ⟨congrArg SnapshotNodeId.value (Except.ok.inj hid).symm, rfl⟩
    · cases hid
  · cases h

theorem identify_eq_ok (h : identities.identify backend = .ok (id, later)) :
    (later = identities ∧ ∃ b, backend = some b ∧ identities.nodeByBackend b = some id) ∨
    (id.value = identities.nextNodeId + 1 ∧ later.nextNodeId = identities.nextNodeId + 1 ∧
      ((backend = none ∧ later.nodeByBackend = identities.nodeByBackend) ∨
        ∃ b, backend = some b ∧ later.nodeByBackend = Function.update identities.nodeByBackend b (some id))) := by
  cases backend with
  | none =>
    obtain ⟨hid, rfl⟩ := draw_eq_ok h
    exact .inr ⟨hid, rfl, .inl ⟨rfl, rfl⟩⟩
  | some b =>
    simp only [identify] at h
    split at h
    · rename_i known hknown
      cases h
      exact .inl ⟨rfl, b, rfl, hknown⟩
    · obtain ⟨⟨id', drawn⟩, hdraw, heq⟩ := bind_eq_ok.1 h
      obtain ⟨rfl, rfl⟩ := Prod.mk.inj (pure_eq_ok.1 heq)
      obtain ⟨hid, rfl⟩ := draw_eq_ok hdraw
      exact .inr ⟨hid, rfl, .inr ⟨b, rfl, rfl⟩⟩

theorem follows_of_identify (h : identities.identify backend = .ok (id, later)) : identities.Follows later := by
  rcases identify_eq_ok h with ⟨rfl, -⟩ | ⟨hid, hnext, ⟨-, hmap⟩ | ⟨b, -, hmap⟩⟩
  · exact .refl _
  · exact ⟨by omega, fun b id hb => .inl (hmap ▸ hb)⟩
  · refine ⟨by omega, fun b' id' hb' => ?_⟩
    rw [hmap, Function.update_apply] at hb'
    split at hb'
    · obtain rfl : id = id' := Option.some.inj hb'
      exact .inr (by omega)
    · exact .inl hb'

theorem Valid.identify (hvalid : identities.Valid) (h : identities.identify backend = .ok (id, later)) : later.Valid := by
  rcases identify_eq_ok h with ⟨rfl, -⟩ | ⟨hid, hnext, ⟨-, hmap⟩ | ⟨b, -, hmap⟩⟩
  · exact hvalid
  · exact ⟨fun b id hb => (hvalid.drawn b id (hmap ▸ hb)).trans (by omega),
      fun b b' id hb hb' => hvalid.injective b b' id (hmap ▸ hb) (hmap ▸ hb')⟩
  · have hcases : ∀ b' id', later.nodeByBackend b' = some id' →
        (b' = b ∧ id' = id) ∨ (identities.nodeByBackend b' = some id' ∧ id'.value < id.value) := by
      intro b' id' hb'
      rw [hmap, Function.update_apply] at hb'
      split at hb'
      · rename_i heq
        exact .inl ⟨heq, (Option.some.inj hb').symm⟩
      · have := hvalid.drawn b' id' hb'
        exact .inr ⟨hb', by omega⟩
    constructor
    · intro b' id' hb'
      rcases hcases b' id' hb' with ⟨-, rfl⟩ | ⟨-, hlt⟩ <;> omega
    · intro b₁ b₂ id' h₁ h₂
      rcases hcases b₁ id' h₁ with ⟨rfl, rfl⟩ | ⟨h₁, hlt₁⟩ <;> rcases hcases b₂ _ h₂ with ⟨rfl, h⟩ | ⟨h₂, hlt₂⟩
      · rfl
      · omega
      · subst h
        omega
      · exact hvalid.injective b₁ b₂ id' h₁ h₂

theorem nodeByBackend_of_identify {b : Int} (h : identities.identify (some b) = .ok (id, later)) :
    later.nodeByBackend b = some id := by
  rcases identify_eq_ok h with ⟨rfl, b', heq, hb⟩ | ⟨-, -, ⟨heq, -⟩ | ⟨b', heq, hmap⟩⟩
  · exact Option.some.inj heq ▸ hb
  · cases heq
  · cases heq
    rw [hmap, Function.update_self]

theorem nodeByBackend_mono {b : Int} {known : SnapshotNodeId} (hknown : identities.nodeByBackend b = some known)
    (h : identities.identify backend = .ok (id, later)) : later.nodeByBackend b = some known := by
  cases backend with
  | none =>
    obtain ⟨-, rfl⟩ := draw_eq_ok h
    exact hknown
  | some b' =>
    by_cases heq : b = b'
    · subst heq
      have hid : (.ok (known, identities) : Result _) = .ok (id, later) := by simpa [identify, hknown] using h
      cases hid
      exact hknown
    · rcases identify_eq_ok h with ⟨rfl, -⟩ | ⟨-, -, ⟨-, hmap⟩ | ⟨b'', heq', hmap⟩⟩
      · exact hknown
      · rwa [hmap]
      · cases heq'
        rw [hmap, Function.update_of_ne heq]
        exact hknown

end Identities

/-- The invariant of a decoder that started from the identities `start`. -/
structure Decoder.Sound (scope : Scope) (start : Identities) (d : Decoder) : Prop where
  valid : d.identities.Valid
  follows : start.Follows d.identities
  bindings : ∀ id backend, d.bindings id = some backend →
    d.identities.nodeByBackend backend = some id ∧ backend ∈ d.seenBackends
  published : ∀ entry ∈ d.published,
    entry.1.targetId = scope.targetId ∧ entry.1.generation = scope.generation ∧ d.bindings entry.1.nodeId = some entry.2
  references : d.nodes.filterMap SnapshotNode.reference = d.published.map Prod.fst

variable {scope : Scope} {start : Identities} {d d' : Decoder} {node : AxNodeWire} {parent : Option SnapshotNodeId}
  {depth : Nat} {r : Descent}

/-- A node is left out, or gets an identity and, when it is actionable, a reference and a binding to its backend node. -/
theorem Decoder.enter_eq_ok (h : d.enter scope node parent depth = .ok r) :
    (∃ omitted, r.decoder = { d with omitted }) ∨
    ∃ nodeId identities snapshotNode backend textBytes,
      d.identities.identify node.backendDomNodeId = .ok (nodeId, identities) ∧
      (∀ b ∈ backend, node.backendDomNodeId = some b) ∧
      snapshotNode.reference = (backend.map fun _ => (⟨scope.targetId, scope.generation, nodeId⟩ : NodeReference)) ∧
      r.decoder = { d with
        identities
        seenBackends := d.seenBackends ∪ node.backendDomNodeId.toFinset
        nodes := d.nodes ++ [snapshotNode]
        bindings := if backend.isSome then Function.update d.bindings nodeId backend else d.bindings
        textBytes
        published := d.published ++ (backend.map fun b => (⟨scope.targetId, scope.generation, nodeId⟩, b)).toList } := by
  unfold enter at h
  simp only [] at h
  split at h
  · exact .inl ⟨d.omitted, by rw [← pure_eq_ok.1 h]⟩
  split at h
  · exact .inl ⟨_, by rw [← pure_eq_ok.1 h]⟩
  obtain ⟨⟨nodeId, identities⟩, hidentify, h⟩ := bind_eq_ok.1 h
  simp only [] at h
  split at h
  · refine .inr ⟨nodeId, identities, _, _, _, hidentify, ?_, ?_, by rw [← pure_eq_ok.1 h]⟩
    · intro b hb
      exact (Option.filter_eq_some_iff.1 hb).1
    · cases hbackend : node.backendDomNodeId with
      | none => simp [isActionable, hbackend]
      | some b => by_cases ha : isActionable node ((axString node.role).getD "generic") (decodeProperties node.properties) <;> simp [ha]
  · cases h

theorem Decoder.Sound.enter (hsound : d.Sound scope start) (h : d.enter scope node parent depth = .ok r) :
    r.decoder.Sound scope start := by
  rcases enter_eq_ok h with ⟨omitted, heq⟩ |
    ⟨nodeId, identities, snapshotNode, backend, textBytes, hidentify, hbackend, hreference, heq⟩
  · rw [heq]
    exact ⟨hsound.valid, hsound.follows, hsound.bindings, hsound.published, hsound.references⟩
  have hvalid := hsound.valid.identify hidentify
  -- an identity that was bound already is bound to the same backend node
  have hbound : ∀ id b, d.bindings id = some b → identities.nodeByBackend b = some id ∧
      b ∈ d.seenBackends ∪ node.backendDomNodeId.toFinset := fun id b hb =>
    ⟨Identities.nodeByBackend_mono (hsound.bindings id b hb).1 hidentify,
      Finset.mem_union_left _ (hsound.bindings id b hb).2⟩
  rw [heq]
  cases hcase : backend with
  | none =>
    refine ⟨hvalid, hsound.follows.trans (Identities.follows_of_identify hidentify), ?_, ?_, ?_⟩
    · simpa using hbound
    · simpa using hsound.published
    · simp [hreference, hcase, hsound.references]
  | some b =>
    obtain hnode := hbackend b (by simp [hcase])
    have hb : identities.nodeByBackend b = some nodeId := Identities.nodeByBackend_of_identify (hnode ▸ hidentify)
    refine ⟨hvalid, hsound.follows.trans (Identities.follows_of_identify hidentify), ?_, ?_, ?_⟩
    · intro id b' hid
      simp only [Option.isSome_some, if_true, Function.update_apply] at hid
      split at hid
      · rename_i hid'
        obtain rfl : b = b' := Option.some.inj hid
        exact ⟨hid' ▸ hb, by simp [hnode]⟩
      · exact hbound id b' hid
    · intro entry hentry
      simp only [Option.map_some, Option.toList_some, List.mem_append, List.mem_singleton] at hentry
      simp only [Option.isSome_some, if_true, Function.update_apply]
      rcases hentry with hentry | rfl
      · obtain ⟨ht, hg, hbinding⟩ := hsound.published entry hentry
        refine ⟨ht, hg, ?_⟩
        split
        · rename_i hid
          have hold : identities.nodeByBackend entry.2 = some nodeId := hid ▸ (hbound _ _ hbinding).1
          rw [hvalid.injective _ _ _ hold hb]
        · exact hbinding
      · exact ⟨rfl, rfl, by simp⟩
    · simp [hreference, hcase, hsound.references]

theorem Decoder.identity_of_enter {b : Int} {id : SnapshotNodeId} (hid : d.identities.nodeByBackend b = some id)
    (h : d.enter scope node parent depth = .ok r) : r.decoder.identities.nodeByBackend b = some id := by
  rcases enter_eq_ok h with ⟨omitted, heq⟩ | ⟨_, _, _, _, _, hidentify, _, _, heq⟩
  · rw [heq]
    exact hid
  · rw [heq]
    exact Identities.nodeByBackend_mono hid hidentify

theorem Decoder.visited_of_enter (h : d.enter scope node parent depth = .ok r) : r.decoder.visited = d.visited := by
  rcases enter_eq_ok h with ⟨omitted, heq⟩ | ⟨_, _, _, _, _, _, _, _, heq⟩ <;> rw [heq]

variable {nodes : List AxNodeWire} {fuel index : Nat}

theorem visit_invariant {P : Decoder → Prop} (hvisited : ∀ d visited, P d → P { d with visited })
    (henter : ∀ d node parent depth r, P d → d.enter scope node parent depth = .ok r → P r.decoder)
    (hd : P d) (h : visit scope nodes fuel index parent depth d = .ok d') : P d' := by
  induction fuel generalizing index parent depth d d' with
  | zero => exact Except.ok.inj h ▸ hd
  | succ fuel ih =>
    unfold visit at h
    simp only [] at h
    split at h
    · exact Except.ok.inj h ▸ hd
    · rename_i node hnode
      split at h
      · exact Except.ok.inj h ▸ hd
      · obtain ⟨descent, hdescent, h⟩ := bind_eq_ok.1 h
        refine foldlM_invariant (P := P) (fun childId _ b b' hb hstep => ?_)
          (henter _ _ _ _ _ (hvisited _ _ hd) hdescent) h
        obtain ⟨child, -, hchild⟩ := bind_eq_ok.1 hstep
        exact ih hb hchild

theorem visited_subset_of_visit (h : visit scope nodes fuel index parent depth d = .ok d') : d.visited ⊆ d'.visited := by
  induction fuel generalizing index parent depth d d' with
  | zero => exact Except.ok.inj h ▸ subset_rfl
  | succ fuel ih =>
    unfold visit at h
    simp only [] at h
    split at h
    · exact Except.ok.inj h ▸ subset_rfl
    · split at h
      · exact Except.ok.inj h ▸ subset_rfl
      · obtain ⟨descent, hdescent, h⟩ := bind_eq_ok.1 h
        have hstart : d.visited ⊆ descent.decoder.visited := by
          rw [Decoder.visited_of_enter hdescent]
          exact Finset.subset_insert _ _
        refine foldlM_invariant (P := fun e => d.visited ⊆ e.visited) (fun childId _ b b' hb hstep => ?_) hstart h
        obtain ⟨child, -, hchild⟩ := bind_eq_ok.1 hstep
        exact hb.trans (ih hchild)

/-- The nodes that are still to be visited. -/
def unvisited (nodes : List AxNodeWire) (d : Decoder) : Nat := (Finset.range nodes.length \ d.visited).card

theorem visit_fuel (hfuel : unvisited nodes d < fuel) :
    visit scope nodes (fuel + 1) index parent depth d = visit scope nodes fuel index parent depth d := by
  induction fuel generalizing index parent depth d with
  | zero => exact absurd hfuel (Nat.not_lt_zero _)
  | succ fuel ih =>
    rw [visit, visit]
    split
    · rfl
    · rename_i node hnode
      split
      · rfl
      · rename_i hnew
        refine bind_congr_ok fun descent hdescent => ?_
        have hless : unvisited nodes descent.decoder < fuel := by
          have hmem : canonicalIndex nodes index ∈ Finset.range nodes.length \ d.visited := by
            refine Finset.mem_sdiff.2 ⟨Finset.mem_range.2 ?_, hnew⟩
            exact (List.getElem?_eq_some_iff.1 hnode).1
          have hcard := Finset.card_erase_lt_of_mem hmem
          have heq : Finset.range nodes.length \ descent.decoder.visited =
              (Finset.range nodes.length \ d.visited).erase (canonicalIndex nodes index) := by
            rw [Decoder.visited_of_enter hdescent, Finset.sdiff_insert]
          unfold unvisited at hfuel ⊢
          rw [heq]
          omega
        refine foldlM_congr (P := fun e => unvisited nodes e < fuel) (fun childId _ b hb => ?_) hless
        refine ⟨bind_congr_ok fun child _ => ih hb, fun b' hstep => ?_⟩
        obtain ⟨child, -, hchild⟩ := bind_eq_ok.1 hstep
        exact (Finset.card_le_card (Finset.sdiff_subset_sdiff subset_rfl (visited_subset_of_visit hchild))).trans_lt hb

/-- A walk as deep as the nodes are many reaches its end. -/
theorem visit_enough (k : Nat) :
    visit scope nodes (nodes.length + 1 + k) index parent depth d = visit scope nodes (nodes.length + 1) index parent depth d := by
  induction k with
  | zero => rfl
  | succ k ih =>
    have hle : unvisited nodes d ≤ nodes.length :=
      (Finset.card_le_card Finset.sdiff_subset).trans_eq (Finset.card_range _)
    rw [← Nat.add_assoc, visit_fuel (by omega), ih]

variable {response : Option AxTreeResponse} {expectedFrameId : String}

/-- What a decoded tree is: a walk from the identities that it starts from, with those of the backend nodes that it has
seen. -/
theorem walk_of_decode {P : Decoder → Prop} (hvisited : ∀ d visited, P d → P { d with visited })
    (henter : ∀ d node parent depth r, P d → d.enter scope node parent depth = .ok r → P r.decoder)
    (hstart : P ⟨[], fun _ => none, 0, 0, ∅, start, ∅, []⟩)
    (h : decodeAxTreeWithIds response scope start expectedFrameId = .ok d) :
    ∃ walked, P walked ∧ d = { walked with identities.nodeByBackend := fun backend =>
      if backend ∈ walked.seenBackends then walked.identities.nodeByBackend backend else none } := by
  unfold decodeAxTreeWithIds at h
  simp only [bind_eq_ok] at h
  obtain ⟨response, -, rawNodes, -, h⟩ := h
  split at h
  · cases h
  obtain ⟨walked, hwalk, heq⟩ := bind_eq_ok.1 h
  refine ⟨walked, ?_, (pure_eq_ok.1 heq).symm⟩
  exact foldlM_invariant (P := P) (fun index _ b b' hb hstep => visit_invariant hvisited henter hb hstep) hstart hwalk

theorem sound_of_decode (hstart : start.Valid) (h : decodeAxTreeWithIds response scope start expectedFrameId = .ok d)
    : d.Sound scope start := by
  obtain ⟨walked, hsound, rfl⟩ := walk_of_decode (P := Decoder.Sound scope start)
    (fun _ _ hd => ⟨hd.valid, hd.follows, hd.bindings, hd.published, hd.references⟩) (fun _ _ _ _ _ hd => hd.enter)
    ⟨hstart, .refl _, nofun, nofun, rfl⟩ h
  refine ⟨hsound.valid.restrict _, ⟨hsound.follows.next_le, fun backend id hid => ?_⟩, ?_, hsound.published, hsound.references⟩
  · exact hsound.follows.kept_or_drawn backend id (Option.ite_none_right_eq_some.1 hid).2
  · intro id backend hid
    obtain ⟨hmap, hseen⟩ := hsound.bindings id backend hid
    exact ⟨(if_pos hseen).trans hmap, hseen⟩

theorem identity_of_decode {b : Int} {id : SnapshotNodeId} (hid : start.nodeByBackend b = some id)
    (h : decodeAxTreeWithIds response scope start expectedFrameId = .ok d) (hshown : (d.identities.nodeByBackend b).isSome)
    : d.identities.nodeByBackend b = some id := by
  obtain ⟨walked, hwalked, rfl⟩ := walk_of_decode (P := fun d => d.identities.nodeByBackend b = some id)
    (fun _ _ hd => hd) (fun _ _ _ _ _ hd => Decoder.identity_of_enter hd) hid h
  simp only [] at hshown ⊢
  split at hshown
  · rename_i hseen
    exact (if_pos hseen).trans hwalked
  · cases hshown

end Krometrail.Control
