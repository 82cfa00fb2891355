import Krometrail.Control.WellFormedTrees
import Krometrail.Lib.Walks

/-!
# Decoded trees

Which nodes of an accessibility tree a snapshot shows.  The tree is gone through in the order in which its identifiers are
reached; a node that is not skipped is shown while there is room for it and left out otherwise (`Fit`).  The decoder follows
this order (`Walked`), and what it makes of the identities decides whether the snapshot is accepted.
-/

namespace Krometrail.Control

open Results Walks

/-! ### What a tree holds -/

/-- The last definition of a node identifier. -/
def definition (nodes : List AxNodeWire) (id : String) : Option AxNodeWire := (byId nodes id).bind (nodes[·]?)

def childrenOf (nodes : List AxNodeWire) (id : String) : List String := (definition nodes id).elim [] AxNodeWire.childIds

def rootIds (nodes : List AxNodeWire) : List String :=
  ((nodes.filterMap AxNodeWire.nodeId).filter fun id => !(nodes.flatMap AxNodeWire.childIds).contains id).eraseDups

/-- The identifiers in the order in which they are reached, first from the roots and then one after the other. -/
def reached (nodes : List AxNodeWire) : List String :=
  preorder (childrenOf nodes) (nodes.length + 1) (rootIds nodes ++ nodes.filterMap AxNodeWire.nodeId)

def roleOf (node : AxNodeWire) : String := (axString node.role).getD "generic"

def isSkipped (node : AxNodeWire) : Bool := node.ignored || roleOf node = "none" || roleOf node = "presentation"

def nodeBytes (node : AxNodeWire) : Nat :=
  (roleOf node).utf8ByteSize + textBytes (axOwned node.name) + textBytes (axOwned node.value) +
    textBytes (axOwned node.description) + (decodeProperties node.properties).bytes

/-- The identifiers that are shown and those that are left out, with the bytes of the shown texts. -/
structure Fit where
  shown : List String
  bytes : Nat
  left : List String

def Fit.take (nodes : List AxNodeWire) (fit : Fit) (id : String) : Fit :=
  match definition nodes id with
  | none => fit
  | some node =>
    if isSkipped node then fit
    else if fit.shown.length ≥ maxSnapshotNodes ∨ fit.bytes + nodeBytes node > maxSnapshotTextBytes then
      { fit with left := fit.left ++ [id] }
    else { fit with shown := fit.shown ++ [id], bytes := fit.bytes + nodeBytes node }

def fit (nodes : List AxNodeWire) (ids : List String) : Fit := ids.foldl (Fit.take nodes) ⟨[], 0, []⟩

/-- The node of a snapshot that shows a wire node. -/
def shownAs (scope : Scope) (node : AxNodeWire) (nodeId : SnapshotNodeId) (parent : Option SnapshotNodeId) (depth : Nat) :
    SnapshotNode :=
  let properties := decodeProperties node.properties
  let actionable := isActionable node (roleOf node) properties
  { id := nodeId, parent, depth, role := roleOf node, name := axOwned node.name, value := axOwned node.value,
    description := axOwned node.description, properties := properties.properties, actionable,
    reference := if actionable then some ⟨scope.targetId, scope.generation, nodeId⟩ else none }

variable {nodes : List AxNodeWire} {id : String} {ids : List String} {node : AxNodeWire} {index c : Nat}

theorem nodeId_of_byId (h : byId nodes id = some c) : nodes[c]?.bind AxNodeWire.nodeId = some id := by
  obtain ⟨entry, hlast, rfl⟩ := Option.map_eq_some_iff.1 h
  obtain ⟨hmem, hid⟩ := List.mem_filter.1 (List.mem_of_getLast? hlast)
  rw [List.mem_zipIdx_iff_getElem?.1 hmem]
  simpa using hid

theorem byId_injective {id' : String} (h : byId nodes id = some c) (h' : byId nodes id' = some c) : id = id' :=
  Option.some.inj ((nodeId_of_byId h).symm.trans (nodeId_of_byId h'))

theorem byId_isSome (index : Nat) (h : nodes[index]?.bind AxNodeWire.nodeId = some id) : (byId nodes id).isSome := by
  obtain ⟨node, hnode, hid⟩ := Option.bind_eq_some_iff.1 h
  have hmem : (node, index) ∈ nodes.zipIdx.filter fun entry => entry.1.nodeId = some id :=
    List.mem_filter.2 ⟨List.mem_zipIdx_iff_getElem?.2 hnode, by simpa using hid⟩
  simpa [byId, List.getLast?_isSome] using List.ne_nil_of_mem hmem

theorem definition_eq_some (h : byId nodes id = some c) : definition nodes id = nodes[c]? := by
  rw [definition, h, Option.bind_some]

theorem definition_isSome : (definition nodes id).isSome ↔ (byId nodes id).isSome := by
  refine ⟨fun h => ?_, fun h => ?_⟩
  · obtain ⟨node, hnode⟩ := Option.isSome_iff_exists.1 h
    obtain ⟨c, hc, -⟩ := Option.bind_eq_some_iff.1 hnode
    exact hc ▸ rfl
  · obtain ⟨c, hc⟩ := Option.isSome_iff_exists.1 h
    obtain ⟨node, hnode, -⟩ := Option.bind_eq_some_iff.1 (nodeId_of_byId hc)
    rw [definition_eq_some hc, hnode]
    rfl

theorem definition_isSome_iff_mem : (definition nodes id).isSome ↔ id ∈ nodes.filterMap AxNodeWire.nodeId := by
  rw [definition_isSome]
  refine ⟨fun h => ?_, fun h => ?_⟩
  · obtain ⟨c, hc⟩ := Option.isSome_iff_exists.1 h
    obtain ⟨node, hnode, hid⟩ := Option.bind_eq_some_iff.1 (nodeId_of_byId hc)
    exact List.mem_filterMap.2 ⟨node, List.mem_of_getElem? hnode, hid⟩
  · obtain ⟨node, hnode, hid⟩ := List.mem_filterMap.1 h
    obtain ⟨index, hindex⟩ := List.mem_iff_getElem?.1 hnode
    exact byId_isSome index (by rw [hindex, Option.bind_some, hid])

theorem canonicalIndex_eq (h : nodes[index]?.bind AxNodeWire.nodeId = some id) (hc : byId nodes id = some c) :
    canonicalIndex nodes index = c := by
  rw [canonicalIndex, h, Option.bind_some, hc, Option.getD_some]

theorem starts_eq : (roots nodes ++ identified nodes).filterMap (fun index => nodes[index]?.bind AxNodeWire.nodeId) =
    rootIds nodes ++ nodes.filterMap AxNodeWire.nodeId := by
  rw [List.filterMap_append]
  congr 1
  · have hroots : ∀ id ∈ rootIds nodes, ((byId nodes id).bind fun index => nodes[index]?.bind AxNodeWire.nodeId) = some id := by
      intro id hid
      rw [rootIds, List.mem_eraseDups, List.mem_filter, ← definition_isSome_iff_mem, definition_isSome] at hid
      obtain ⟨c, hc⟩ := Option.isSome_iff_exists.1 hid.1
      rw [hc, Option.bind_some, nodeId_of_byId hc]
    change ((rootIds nodes).filterMap (byId nodes)).filterMap _ = _
    rw [List.filterMap_filterMap, List.filterMap_congr hroots, List.filterMap_some]
  · have hidentified : ∀ entry ∈ nodes.zipIdx, (Option.guard (fun entry => entry.1.nodeId.isSome) entry).bind
        (fun entry : AxNodeWire × Nat => nodes[entry.2]?.bind AxNodeWire.nodeId) = entry.1.nodeId := by
      rintro ⟨node, index⟩ hentry
      have hnode := List.mem_zipIdx_iff_getElem?.1 hentry
      simp only [] at hnode
      cases hid : node.nodeId with
      | none => simp [Option.guard, hid]
      | some id => simp [Option.guard, hid, hnode]
    rw [identified, List.filterMap_map, ← List.filterMap_eq_filter, List.filterMap_filterMap]
    calc _ = nodes.zipIdx.filterMap (AxNodeWire.nodeId ∘ Prod.fst) := List.filterMap_congr hidentified
      _ = (nodes.zipIdx.map Prod.fst).filterMap AxNodeWire.nodeId := List.filterMap_map.symm
      _ = _ := by rw [List.zipIdx_map_fst]

theorem fit_append : fit nodes (ids ++ [id]) = (fit nodes ids).take nodes id := by
  rw [fit, List.foldl_append]
  rfl

/-- What is shown and what is left out are the identifiers that are not skipped, each as often as it is reached. -/
theorem perm_fit : ((fit nodes ids).shown ++ (fit nodes ids).left).Perm
    (ids.filter fun id => (definition nodes id).any fun node => !isSkipped node) := by
  induction ids using List.reverseRecOn with
  | nil => exact .refl _
  | append_singleton ids id ih =>
    rw [fit_append, List.filter_append, Fit.take]
    cases hnode : definition nodes id with
    | none => simpa [hnode] using ih
    | some node =>
      by_cases hskip : isSkipped node
      · simpa [hnode, hskip] using ih
      · simp only [hskip, Bool.false_eq_true, if_false]
        split
        · simpa [hnode, hskip, ← List.append_assoc] using ih.append_right [id]
        · have hmove : ((fit nodes ids).shown ++ [id] ++ (fit nodes ids).left).Perm
              ((fit nodes ids).shown ++ (fit nodes ids).left ++ [id]) := by
            rw [List.append_assoc, List.append_assoc]
            exact List.perm_append_comm.append_left _
          simpa [hnode, hskip] using hmove.trans (ih.append_right [id])

theorem mem_decodeProperties {properties : List AxPropertyWire} :
    ∀ property ∈ (decodeProperties properties).properties, property.name ∈ accessibleProperties := by
  refine List.foldlRecOn (motive := fun d : DecodedProperties => ∀ property ∈ d.properties, property.name ∈ accessibleProperties)
    _ _ (fun _ h => absurd h List.not_mem_nil) fun d hd wire _ => ?_
  unfold DecodedProperties.add
  split
  · exact hd
  rename_i name _
  simp only []
  split
  · exact hd
  rename_i hname
  simp only [Bool.or_eq_true, Bool.not_eq_true', decide_eq_true_eq, not_or, Bool.not_eq_false] at hname
  split
  · exact hd
  · intro property hproperty
    rcases List.mem_append.1 hproperty with hproperty | hproperty
    · exact hd property hproperty
    · rw [List.mem_singleton.1 hproperty]
      exact List.contains_iff_mem.1 hname.1

variable {scope : Scope} {start : Identities} {d d' : Decoder} {parent : Option SnapshotNodeId} {depth : Nat} {r : Descent}

theorem Decoder.enter_cases (h : d.enter scope node parent depth = .ok r) :
    (isSkipped node ∧ r = ⟨d, parent, depth⟩) ∨
    (isSkipped node = false ∧
      (d.nodes.length ≥ maxSnapshotNodes ∨ d.textBytes + nodeBytes node > maxSnapshotTextBytes) ∧
      r = ⟨{ d with omitted := min (d.omitted + 1) (2 ^ 32 - 1) }, parent, depth⟩) ∨
    (isSkipped node = false ∧
      ¬(d.nodes.length ≥ maxSnapshotNodes ∨ d.textBytes + nodeBytes node > maxSnapshotTextBytes) ∧ depth + 1 < 2 ^ 16 ∧
      ∃ nodeId, d.identities.identify node.backendDomNodeId = .ok (nodeId, r.decoder.identities) ∧
        r.parent = some nodeId ∧ r.depth = depth + 1 ∧
        r.decoder.nodes = d.nodes ++ [shownAs scope node nodeId parent depth] ∧
        r.decoder.textBytes = d.textBytes + nodeBytes node ∧ r.decoder.omitted = d.omitted) := by
  unfold enter at h
  simp only [] at h
  split at h
  · rename_i hskip
    exact .inl ⟨hskip, (pure_eq_ok.1 h).symm⟩
  rename_i hskip
  have hkept : isSkipped node = false := Bool.eq_false_iff.2 hskip
  split at h
  · rename_i hfull
    exact .inr (.inl ⟨hkept, by simpa [roleOf, nodeBytes] using hfull, (pure_eq_ok.1 h).symm⟩)
  rename_i hroom
  obtain ⟨⟨nodeId, identities⟩, hidentify, h⟩ := bind_eq_ok.1 h
  simp only [] at h
  split at h
  · rename_i hdepth
    refine .inr (.inr ⟨hkept, by simpa [roleOf, nodeBytes] using hroom, hdepth, nodeId, ?_⟩)
    obtain rfl := pure_eq_ok.1 h
    exact ⟨hidentify, rfl, rfl, rfl, rfl, rfl⟩
  · cases h

/-! ### The walk -/

/-- A node of a snapshot beside the wire node that it shows. -/
structure ShownNode where
  id : String
  wire : AxNodeWire
  node : SnapshotNode

/-- What a shown node has from its wire node and from the identities of the walk. -/
structure ShownNode.Valid (nodes : List AxNodeWire) (scope : Scope) (start identities : Identities) (shown : ShownNode) :
    Prop where
  defined : definition nodes shown.id = some shown.wire
  content : shown.node = shownAs scope shown.wire shown.node.id shown.node.parent shown.node.depth
  drawn : shown.node.id.value ≤ identities.nextNodeId
  named : ∀ backend ∈ shown.wire.backendDomNodeId, identities.nodeByBackend backend = some shown.node.id
  anonymous : shown.wire.backendDomNodeId = none →
    start.nextNodeId < shown.node.id.value ∧ ∀ backend, identities.nodeByBackend backend ≠ some shown.node.id

variable {identities later : Identities} {shown : List ShownNode} {e : ShownNode} {nodeId : SnapshotNodeId}
  {backend : Option Int} {seen : List String}

theorem ShownNode.Valid.identify (h : e.Valid nodes scope start identities)
    (hidentify : identities.identify backend = .ok (nodeId, later)) : e.Valid nodes scope start later where
  defined := h.defined
  content := h.content
  drawn := h.drawn.trans (Identities.follows_of_identify hidentify).next_le
  named b hb := Identities.nodeByBackend_mono (h.named b hb) hidentify
  anonymous hnone := by
    refine ⟨(h.anonymous hnone).1, fun b hb => ?_⟩
    rcases (Identities.follows_of_identify hidentify).kept_or_drawn b _ hb with hb | hlt
    · exact (h.anonymous hnone).2 b hb
    · exact absurd h.drawn (Nat.not_le.2 hlt)

theorem valid_shownAs (hvalid : identities.Valid) (hfollows : start.Follows identities) (hnode : definition nodes id = some node)
    (hidentify : identities.identify node.backendDomNodeId = .ok (nodeId, later)) :
    ShownNode.Valid nodes scope start later ⟨id, node, shownAs scope node nodeId parent depth⟩ where
  defined := hnode
  content := rfl
  drawn := by
    change nodeId.value ≤ later.nextNodeId
    rcases Identities.identify_eq_ok hidentify with ⟨rfl, b, -, hknown⟩ | ⟨hid, hnext, -⟩
    · exact hvalid.drawn b nodeId hknown
    · omega
  named b hb := Identities.nodeByBackend_of_identify (Option.mem_def.1 hb ▸ hidentify)
  anonymous hnone := by
    rw [show node.backendDomNodeId = none from hnone] at hidentify
    obtain ⟨hid, rfl⟩ := Identities.draw_eq_ok hidentify
    have hnext := hfollows.next_le
    refine ⟨by change start.nextNodeId < nodeId.value; omega, fun b hb => ?_⟩
    have hle : nodeId.value ≤ identities.nextNodeId := hvalid.drawn b nodeId hb
    omega

/-- Nodes without a backend node have identities of their own. -/
def Distinct (shown : List ShownNode) : Prop :=
  shown.Pairwise fun e e' => e.wire.backendDomNodeId = none → e'.wire.backendDomNodeId = none → e.node.id ≠ e'.node.id

/-- The invariant of the walk, with the identifiers that it has reached and the nodes that are shown. -/
structure Walked (nodes : List AxNodeWire) (scope : Scope) (start : Identities) (seen : List String) (d : Decoder)
    (shown : List ShownNode) : Prop where
  defined : ∀ id ∈ seen, (definition nodes id).isSome
  visited : ∀ id c, byId nodes id = some c → (c ∈ d.visited ↔ id ∈ seen)
  sound : d.Sound scope start
  keeps : ∀ backend id, start.nodeByBackend backend = some id → d.identities.nodeByBackend backend = some id
  listed : d.nodes = shown.map ShownNode.node
  ids : (fit nodes seen).shown = shown.map ShownNode.id
  bytes : (fit nodes seen).bytes = d.textBytes
  omitted : d.omitted = min (fit nodes seen).left.length (2 ^ 32 - 1)
  grown : Grown scope d.nodes
  valid : ∀ e ∈ shown, e.Valid nodes scope start d.identities
  distinct : Distinct shown

theorem Walked.enter (hwalked : Walked nodes scope start seen d shown) (hc : byId nodes id = some c)
    (hnode : definition nodes id = some node) (hunder : Under d.nodes parent depth)
    (h : Decoder.enter { d with visited := insert c d.visited } scope node parent depth = .ok r) :
    ∃ shown', Walked nodes scope start (seen ++ [id]) r.decoder shown' ∧ Under r.decoder.nodes r.parent r.depth := by
  have hdefined : ∀ id' ∈ seen ++ [id], (definition nodes id').isSome := by
    intro id' hid'
    rcases List.mem_append.1 hid' with hid' | hid'
    · exact hwalked.defined id' hid'
    · rw [List.mem_singleton.1 hid', hnode]
      rfl
  have hvisited : ∀ id' c', byId nodes id' = some c' → (c' ∈ insert c d.visited ↔ id' ∈ seen ++ [id]) := by
    intro id' c' hc'
    rw [Finset.mem_insert, hwalked.visited id' c' hc', List.mem_append, List.mem_singleton, or_comm]
    refine or_congr_right ⟨fun heq => ?_, fun heq => ?_⟩
    · exact byId_injective (heq ▸ hc') hc
    · exact Option.some.inj ((heq ▸ hc').symm.trans hc)
  have hsound : Decoder.Sound scope start { d with visited := insert c d.visited } :=
    ⟨hwalked.sound.valid, hwalked.sound.follows, hwalked.sound.bindings, hwalked.sound.published, hwalked.sound.references⟩
  have hlength : (fit nodes seen).shown.length = d.nodes.length := by rw [hwalked.ids, hwalked.listed]; simp
  have hsound' := hsound.enter h
  have hvisited' := Decoder.visited_of_enter h
  rcases Decoder.enter_cases h with ⟨hskip, rfl⟩ | ⟨hskip, hfull, rfl⟩ |
    ⟨hskip, hroom, hdepth, nodeId, hidentify, hparent, hd, hnodes, hbytes, homitted⟩
  · have hfit : fit nodes (seen ++ [id]) = fit nodes seen := by simp [fit_append, Fit.take, hnode, hskip]
    exact ⟨shown, ⟨hdefined, hvisited, hsound', hwalked.keeps, hwalked.listed, by rw [hfit, hwalked.ids],
      by rw [hfit, hwalked.bytes], by rw [hfit]; exact hwalked.omitted, hwalked.grown, hwalked.valid, hwalked.distinct⟩, hunder⟩
  · have hfit : fit nodes (seen ++ [id]) = { fit nodes seen with left := (fit nodes seen).left ++ [id] } := by
      rw [fit_append, Fit.take, hnode]
      simp only [hskip, Bool.false_eq_true, if_false]
      rw [if_pos (by rwa [hlength, hwalked.bytes])]
    refine ⟨shown, ⟨hdefined, hvisited, hsound', hwalked.keeps, hwalked.listed, by rw [hfit]; exact hwalked.ids,
      by rw [hfit]; exact hwalked.bytes, ?_, hwalked.grown, hwalked.valid, hwalked.distinct⟩, hunder⟩
    have := hwalked.omitted
    rw [hfit, List.length_append, List.length_singleton]
    simp only [this]
    omega
  · have hfit : fit nodes (seen ++ [id]) =
        { fit nodes seen with shown := (fit nodes seen).shown ++ [id], bytes := (fit nodes seen).bytes + nodeBytes node } := by
      rw [fit_append, Fit.take, hnode]
      simp only [hskip, Bool.false_eq_true, if_false]
      rw [if_neg (by rwa [hlength, hwalked.bytes])]
    have hvalid : ShownNode.Valid nodes scope start _ ⟨id, node, shownAs scope node nodeId parent depth⟩ :=
      valid_shownAs hwalked.sound.valid hwalked.sound.follows hnode hidentify
    refine ⟨shown ++ [⟨id, node, shownAs scope node nodeId parent depth⟩],
      ⟨hdefined, hvisited' ▸ hvisited, hsound', ?_, ?_, ?_, ?_, ?_, ?_, ?_, ?_⟩, ?_⟩
    · exact fun b known hknown => Identities.nodeByBackend_mono (hwalked.keeps b known hknown) hidentify
    · rw [hnodes, hwalked.listed, List.map_append, List.map_singleton]
    · rw [hfit, List.map_append, List.map_singleton, hwalked.ids]
    · rw [hfit, hbytes, hwalked.bytes]
    · rw [hfit, homitted]
      exact hwalked.omitted
    · rw [hnodes]
      refine hwalked.grown.snoc hunder ?_ ?_ ?_
      · simp only [shownAs]
        split <;> simp_all
      · simp only [shownAs]
        split <;> simp
      · exact mem_decodeProperties
    · intro e he
      rcases List.mem_append.1 he with he | he
      · exact (hwalked.valid e he).identify hidentify
      · exact List.mem_singleton.1 he ▸ hvalid
    · refine List.pairwise_append.2 ⟨hwalked.distinct, List.pairwise_singleton _ _, fun e he e' he' _ hnone' heq => ?_⟩
      obtain rfl := List.mem_singleton.1 he'
      have hdraw : d.identities.identify none = .ok (nodeId, r.decoder.identities) := hnone' ▸ hidentify
      obtain ⟨hid, -⟩ := Identities.draw_eq_ok hdraw
      have hdrawn := (hwalked.valid e he).drawn
      rw [heq] at hdrawn
      change nodeId.value ≤ d.identities.nextNodeId at hdrawn
      omega
    · rw [hnodes, hparent, hd]
      exact .inr ⟨_, List.mem_append_right _ (List.mem_singleton_self _), rfl, rfl, hdepth⟩

theorem nodes_subset_of_visit {fuel : Nat} (h : visit scope nodes fuel index parent depth d = .ok d') : d.nodes ⊆ d'.nodes := by
  refine visit_invariant (P := fun e => d.nodes ⊆ e.nodes) (fun _ _ hd => hd) (fun e node parent depth r he h => ?_)
    (List.Subset.refl _) h
  rcases Decoder.enter_eq_ok h with ⟨omitted, heq⟩ | ⟨_, _, node', _, _, _, _, _, heq⟩
  · rw [heq]
    exact he
  · rw [heq]
    exact List.subset_append_of_subset_left _ he

theorem Walked.visit {fuel : Nat} (hwalked : Walked nodes scope start seen d shown) (hindex : canonicalIndex nodes index = c)
    (hc : byId nodes id = some c) (hunder : Under d.nodes parent depth)
    (h : visit scope nodes fuel index parent depth d = .ok d') :
    ∃ shown', Walked nodes scope start (walk (childrenOf nodes) fuel seen id) d' shown' := by
  induction fuel generalizing index parent depth d d' seen shown id c with
  | zero => exact ⟨shown, Except.ok.inj h ▸ hwalked⟩
  | succ fuel ih =>
    obtain ⟨node, hnode⟩ := Option.isSome_iff_exists.1 (definition_isSome.2 (hc ▸ rfl : (byId nodes id).isSome))
    have hget := (definition_eq_some hc).symm.trans hnode
    rw [Control.visit, hindex, hget] at h
    simp only [] at h
    by_cases hmem : id ∈ seen
    · rw [if_pos ((hwalked.visited id c hc).2 hmem)] at h
      rw [walk_of_mem hmem]
      exact ⟨shown, Except.ok.inj h ▸ hwalked⟩
    · rw [if_neg fun hvisited => hmem ((hwalked.visited id c hc).1 hvisited)] at h
      obtain ⟨descent, hdescent, h⟩ := bind_eq_ok.1 h
      obtain ⟨shown', hwalked', hunder'⟩ := hwalked.enter hc hnode hunder hdescent
      have hchildren : childrenOf nodes id = node.childIds := by rw [childrenOf, hnode, Option.elim_some]
      rw [walk_of_not_mem hmem, hchildren]
      -- the children are visited under the node, or under its parent when it is not shown
      refine And.left <| foldlM_prefix (P := fun visited e => (∃ shown', Walked nodes scope start
        (visited.foldl (walk (childrenOf nodes) fuel) (seen ++ [id])) e shown') ∧ Under e.nodes descent.parent descent.depth)
        (fun l₁ childId l₂ e e' _ hP hstep => ?_) ⟨⟨shown', hwalked'⟩, hunder'⟩ h
      obtain ⟨⟨shownBefore, hbefore⟩, hunderBefore⟩ := hP
      obtain ⟨child, hchild, hvisit⟩ := bind_eq_ok.1 hstep
      have hchild := okOr_eq_ok.1 hchild
      rw [List.foldl_append]
      exact ⟨ih hbefore (canonicalIndex_eq (nodeId_of_byId hchild) hchild) hchild hunderBefore hvisit,
        hunderBefore.mono (nodes_subset_of_visit hvisit)⟩

/-- The decoder of the nodes of a frame. -/
def decodeNodes (scope : Scope) (identities : Identities) (nodes : List AxNodeWire) : Result Decoder :=
  (roots nodes ++ identified nodes).foldlM (fun d index => visit scope nodes (nodes.length + 1) index none 0 d)
    ⟨[], fun _ => none, 0, 0, ∅, identities, ∅, []⟩

theorem walked_of_decodeNodes (hstart : start.Valid) (h : decodeNodes scope start nodes = .ok d) :
    ∃ shown, Walked nodes scope start (reached nodes) d shown := by
  rw [reached, ← starts_eq]
  refine foldlM_prefix (P := fun visited e => ∃ shown, Walked nodes scope start (preorder (childrenOf nodes) (nodes.length + 1)
    (visited.filterMap fun index => nodes[index]?.bind AxNodeWire.nodeId)) e shown)
    (fun l₁ index l₂ e e' hl hP hvisit => ?_) ?_ h
  · obtain ⟨shown, hwalked⟩ := hP
    have hid : ∃ id, nodes[index]?.bind AxNodeWire.nodeId = some id := by
      have hmem : index ∈ roots nodes ++ identified nodes := hl ▸ List.mem_append_right _ List.mem_cons_self
      rcases List.mem_append.1 hmem with hmem | hmem
      · obtain ⟨id, -, hid⟩ := List.mem_filterMap.1 hmem
        exact ⟨id, nodeId_of_byId hid⟩
      · obtain ⟨⟨node, i⟩, hentry, rfl⟩ := List.mem_map.1 hmem
        obtain ⟨hzip, hsome⟩ := List.mem_filter.1 hentry
        obtain ⟨id, hid⟩ := Option.isSome_iff_exists.1 hsome
        exact ⟨id, by rw [List.mem_zipIdx_iff_getElem?.1 hzip, Option.bind_some, hid]⟩
    obtain ⟨id, hid⟩ := hid
    obtain ⟨c, hc⟩ := Option.isSome_iff_exists.1 (byId_isSome index hid)
    rw [List.filterMap_append, preorder, List.foldl_append, List.filterMap_cons, hid]
    exact hwalked.visit (canonicalIndex_eq hid hc) hc (.inl ⟨rfl, rfl⟩) hvisit
  · exact ⟨[], fun _ h => absurd h List.not_mem_nil, fun _ _ _ => by simp [preorder], 
      ⟨hstart, .refl _, nofun, fun _ h => absurd h List.not_mem_nil, rfl⟩, fun _ _ h => h, rfl, rfl, rfl, rfl,
      .nil, fun _ h => absurd h List.not_mem_nil, .nil⟩

/-- The nodes of a response that belong to the expected frame. -/
def responseNodes (response : Option AxTreeResponse) (expectedFrameId : Option String) : List AxNodeWire :=
  ((response.bind rawNodes).getD []).filter fun node => expectedFrameId.all fun expected => node.frameId.all (· = expected)

/-- `decode_ax_tree_with_ids` with or without an expected frame. -/
def decodeResponse (response : Option AxTreeResponse) (scope : Scope) (identities : Identities) : Option String → Result Decoder
  | some expectedFrameId => decodeAxTreeWithIds response scope identities expectedFrameId
  | none => do
    let response ← okOr response (malformed "accessibility tree response is malformed")
    let nodes ← okOr (rawNodes response) (malformed "accessibility tree response is malformed")
    let d ← decodeNodes scope identities nodes
    return { d with
      identities.nodeByBackend := fun backend => if backend ∈ d.seenBackends then d.identities.nodeByBackend backend else none }

/-- The identities that the captures of one generation leave behind. -/
inductive LeftBy (scope : Scope) : Identities → Prop
  | first : LeftBy scope ⟨fun _ => none, 0⟩
  | capture {response : Option AxTreeResponse} {start : Identities} {expectedFrameId : Option String} {d : Decoder}
      (h : LeftBy scope start) (hdecode : decodeResponse response scope start expectedFrameId = .ok d) : LeftBy scope d.identities

variable {response : Option AxTreeResponse} {expectedFrameId : Option String}

theorem decodeResponse_eq_ok (h : decodeResponse response scope start expectedFrameId = .ok d) :
    ∃ walked, decodeNodes scope start (responseNodes response expectedFrameId) = .ok walked ∧
      d = { walked with identities.nodeByBackend := fun backend =>
        if backend ∈ walked.seenBackends then walked.identities.nodeByBackend backend else none } := by
  cases expectedFrameId with
  | none =>
    simp only [decodeResponse, bind_eq_ok, okOr_eq_ok, pure_eq_ok] at h
    obtain ⟨response, rfl, nodes, hnodes, walked, hwalked, rfl⟩ := h
    exact ⟨walked, by simpa [responseNodes, hnodes] using hwalked, rfl⟩
  | some expected =>
    simp only [decodeResponse, decodeAxTreeWithIds, bind_eq_ok, okOr_eq_ok] at h
    obtain ⟨response, rfl, nodes, hnodes, h⟩ := h
    split at h
    · cases h
    obtain ⟨walked, hwalked, heq⟩ := bind_eq_ok.1 h
    exact ⟨walked, by simpa [responseNodes, hnodes, decodeNodes] using hwalked, (pure_eq_ok.1 heq).symm⟩

theorem LeftBy.valid {identities : Identities} (h : LeftBy scope identities) : identities.Valid := by
  induction h with
  | first => exact ⟨nofun, nofun⟩
  | capture _ hdecode ih =>
    obtain ⟨walked, hwalked, rfl⟩ := decodeResponse_eq_ok hdecode
    obtain ⟨shown, hshown⟩ := walked_of_decodeNodes ih hwalked
    exact hshown.sound.valid.restrict _

/-! ### Accepted trees -/

def shownNodes (nodes : List AxNodeWire) : List AxNodeWire := (fit nodes (reached nodes)).shown.filterMap (definition nodes)

/-- No two shown nodes have one backend node, every shown role has a text, and the nodes that are left out can be counted. -/
structure Presentable (nodes : List AxNodeWire) : Prop where
  backends : ((shownNodes nodes).filterMap AxNodeWire.backendDomNodeId).Nodup
  roles : ∀ node ∈ shownNodes nodes, isBlank (roleOf node) = false
  counted : (fit nodes (reached nodes)).left.length < 2 ^ 32

/-- A backend node that has an identity keeps it, any other node has a new one, and an actionable node is bound to its own
backend node. -/
structure ShownNode.Presents (nodes : List AxNodeWire) (scope : Scope) (start : Identities) (d : Decoder) (shown : ShownNode) :
    Prop where
  defined : definition nodes shown.id = some shown.wire
  content : shown.node = shownAs scope shown.wire shown.node.id shown.node.parent shown.node.depth
  kept : ∀ backend ∈ shown.wire.backendDomNodeId, ∀ id, start.nodeByBackend backend = some id → shown.node.id = id
  fresh : (∀ backend ∈ shown.wire.backendDomNodeId, start.nodeByBackend backend = none) →
    start.nextNodeId < shown.node.id.value
  bound : shown.node.actionable = true →
    ∃ backend ∈ shown.wire.backendDomNodeId, d.bindings shown.node.id = some backend

/-- The snapshot of a tree is valid, and it shows or counts every node that is not skipped once. -/
structure ShowsTree (context : ObservationContext) (scope : Scope) (start : Identities) (nodes : List AxNodeWire) (d : Decoder) :
    Prop where
  accepted : ∃ snapshot, PageSnapshot.new context scope.generation d.nodes d.omitted = .ok snapshot
  complete : ∃ (shown : List ShownNode) (left : List String),
    d.nodes = shown.map ShownNode.node ∧ (∀ e ∈ shown, e.Presents nodes scope start d) ∧
      (shown.map ShownNode.id ++ left).Nodup ∧
      (∀ id, id ∈ shown.map ShownNode.id ++ left ↔ ∃ node, definition nodes id = some node ∧ isSkipped node = false) ∧
      d.omitted = left.length

namespace Walked

variable (hwalked : Walked nodes scope start (reached nodes) d shown)

include hwalked

theorem shownNodes_eq : shownNodes nodes = shown.map ShownNode.wire := by
  rw [shownNodes, hwalked.ids, List.filterMap_map, ← List.filterMap_eq_map]
  exact List.filterMap_congr fun e he => (hwalked.valid e he).defined

theorem nodup_ids_iff : (d.nodes.map SnapshotNode.id).Nodup ↔ ((shownNodes nodes).filterMap AxNodeWire.backendDomNodeId).Nodup := by
  rw [hwalked.shownNodes_eq, hwalked.listed, List.Nodup, List.Nodup, List.pairwise_filterMap, List.map_map, List.pairwise_map,
    List.pairwise_map]
  constructor
  · refine List.Pairwise.imp_of_mem fun {e e'} he he' hne b hb b' hb' heq => ?_
    have hid := (hwalked.valid e he).named b hb
    have hid' := (hwalked.valid e' he').named b' hb'
    exact hne (Option.some.inj (hid.symm.trans (heq ▸ hid')))
  · intro hbackends
    refine (hbackends.and hwalked.distinct).imp_of_mem fun {e e'} he he' ⟨hbackend, hdistinct⟩ heq => ?_
    change e.node.id = e'.node.id at heq
    cases hb : e.wire.backendDomNodeId with
    | none =>
      cases hb' : e'.wire.backendDomNodeId with
      | none => exact hdistinct hb hb' heq
      | some b' => exact ((hwalked.valid e he).anonymous hb).2 b' (heq ▸ (hwalked.valid e' he').named b' hb')
    | some b =>
      cases hb' : e'.wire.backendDomNodeId with
      | none => exact ((hwalked.valid e' he').anonymous hb').2 b (heq ▸ (hwalked.valid e he).named b hb)
      | some b' =>
        refine hbackend b hb b' hb' (hwalked.sound.valid.injective b b' e.node.id ((hwalked.valid e he).named b hb) ?_)
        exact heq ▸ (hwalked.valid e' he').named b' hb'

theorem roles_iff : (∀ node ∈ d.nodes, isBlank node.role = false) ↔ ∀ node ∈ shownNodes nodes, isBlank (roleOf node) = false := by
  rw [hwalked.shownNodes_eq, hwalked.listed, List.forall_mem_map, List.forall_mem_map]
  refine forall₂_congr fun e he => ?_
  rw [(hwalked.valid e he).content]
  rfl

theorem presents (he : e ∈ shown) : e.Presents nodes scope start d where
  defined := (hwalked.valid e he).defined
  content := (hwalked.valid e he).content
  kept b hb known hknown := Option.some.inj (((hwalked.valid e he).named b hb).symm.trans (hwalked.keeps b known hknown))
  fresh hnone := by
    cases hb : e.wire.backendDomNodeId with
    | none => exact ((hwalked.valid e he).anonymous hb).1
    | some b =>
      rcases hwalked.sound.follows.kept_or_drawn b _ ((hwalked.valid e he).named b hb) with hknown | hlt
      · exact absurd ((hnone b hb).symm.trans hknown) (nomatch ·)
      · exact hlt
  bound hactionable := by
    have hcontent := (hwalked.valid e he).content
    have hreference : e.node.reference = some ⟨scope.targetId, scope.generation, e.node.id⟩ := by
      rw [hcontent] at hactionable ⊢
      exact if_pos hactionable
    have hmem : (⟨scope.targetId, scope.generation, e.node.id⟩ : NodeReference) ∈ d.published.map Prod.fst := by
      rw [← hwalked.sound.references, hwalked.listed]
      exact List.mem_filterMap.2 ⟨e.node, List.mem_map_of_mem he, hreference⟩
    obtain ⟨⟨reference, b⟩, hentry, rfl⟩ := List.mem_map.1 hmem
    have hbinding := (hwalked.sound.published _ hentry).2.2
    cases hb : e.wire.backendDomNodeId with
    | none =>
      rw [hcontent] at hactionable
      simp [shownAs, isActionable, hb] at hactionable
    | some b' =>
      have hsame := hwalked.sound.valid.injective b b' e.node.id (hwalked.sound.bindings _ _ hbinding).1
        ((hwalked.valid e he).named b' hb)
      exact ⟨b', rfl, hsame ▸ hbinding⟩

theorem mem_fit_iff : id ∈ shown.map ShownNode.id ++ (fit nodes (reached nodes)).left ↔
    ∃ node, definition nodes id = some node ∧ isSkipped node = false := by
  rw [← hwalked.ids, perm_fit.mem_iff, List.mem_filter, Option.any_eq_true]
  constructor
  · rintro ⟨-, node, hnode, hskip⟩
    exact ⟨node, hnode, by simpa using hskip⟩
  · rintro ⟨node, hnode, hskip⟩
    refine ⟨subset_preorder (List.mem_append_right _ ?_), node, hnode, by simpa using hskip⟩
    exact definition_isSome_iff_mem.1 (hnode ▸ rfl)

theorem nodup_fit : (shown.map ShownNode.id ++ (fit nodes (reached nodes)).left).Nodup := by
  rw [← hwalked.ids]
  exact perm_fit.nodup_iff.2 (nodup_preorder.filter _)

end Walked

/-- A decoded tree makes a valid snapshot that shows or counts every node once exactly when no two shown nodes have one
backend node, no shown role is blank, and the nodes that are left out can be counted. -/
theorem showsTree_iff {context : ObservationContext} (hstart : LeftBy scope start) (hcontext : context.targetId = scope.targetId)
    (h : decodeResponse response scope start expectedFrameId = .ok d) :
    ShowsTree context scope start (responseNodes response expectedFrameId) d ↔
      Presentable (responseNodes response expectedFrameId) := by
  obtain ⟨walked, hdecode, rfl⟩ := decodeResponse_eq_ok h
  obtain ⟨shown, hwalked⟩ := walked_of_decodeNodes hstart.valid hdecode
  have haccepted := new_eq_ok walked.omitted hcontext hwalked.grown
  rw [hwalked.nodup_ids_iff, hwalked.roles_iff] at haccepted
  constructor
  · rintro ⟨hnew, shown', left, hnodes, -, hnodup, hmem, homitted⟩
    obtain ⟨hbackends, hroles⟩ := haccepted.1 hnew
    refine ⟨hbackends, hroles, ?_⟩
    -- whatever is taken for the nodes that are left out, there are as many of them
    have hlength := ((List.perm_ext_iff_of_nodup hnodup hwalked.nodup_fit).2 fun id => (hmem id).trans hwalked.mem_fit_iff.symm).length_eq
    have hshown := congrArg List.length (hnodes.symm.trans hwalked.listed)
    have hcount := hwalked.omitted
    simp only [List.length_append, List.length_map] at hlength hshown
    change walked.omitted = left.length at homitted
    omega
  · rintro ⟨hbackends, hroles, hcounted⟩
    refine ⟨haccepted.2 ⟨hbackends, hroles⟩, shown, (fit _ (reached _)).left, hwalked.listed, fun e he => ?_, hwalked.nodup_fit,
      fun id => hwalked.mem_fit_iff, ?_⟩
    · have hpresents := hwalked.presents he
      exact ⟨hpresents.defined, hpresents.content, hpresents.kept, hpresents.fresh, hpresents.bound⟩
    · change walked.omitted = _
      rw [hwalked.omitted]
      omega

def someContext : ObservationContext := ⟨⟨someUuid 0⟩, ⟨someUuid 1⟩, 1, ⟨0⟩, ⟨0⟩⟩

def someScope : Scope := ⟨⟨someUuid 1⟩, ⟨1, Nat.one_ne_zero⟩⟩

/-- A button of the backend node 7. -/
def wireButton (id : String) (childIds : List String) : AxNodeWire where
  nodeId := some id
  frameId := none
  ignored := false
  role := some ⟨some (.string "button")⟩
  name := none
  value := none
  description := none
  backendDomNodeId := some 7
  childIds := childIds
  properties := []

/-- The tree of a button, and the tree of a button that holds another node of its backend node. -/
def oneButton : AxTreeResponse := ⟨some (some [wireButton "1" []]), none⟩

def twinButtons : AxTreeResponse := ⟨some (some [wireButton "1" ["2"], wireButton "2" []]), none⟩

theorem exists_ok {α : Type} {x : Result α} (h : x.isOk = true) : ∃ a, x = .ok a := by
  cases x with
  | ok a => exact ⟨a, rfl⟩
  | error e => cases h

theorem showsTree_iff_oneButton : ∃ d, decodeResponse (some oneButton) someScope ⟨fun _ => none, 0⟩ none = .ok d ∧
    (ShowsTree someContext someScope ⟨fun _ => none, 0⟩ (responseNodes (some oneButton) none) d ↔
      Presentable (responseNodes (some oneButton) none)) := by
  obtain ⟨d, hd⟩ := exists_ok (by decide +kernel :
    (decodeResponse (some oneButton) someScope ⟨fun _ => none, 0⟩ none).isOk = true)
  exact ⟨d, hd, showsTree_iff .first rfl hd⟩

/-- Two nodes of one backend node are given one identity, and the snapshot is refused. -/
theorem not_showsTree_twinButtons : ¬ ∀ (context : ObservationContext) (scope : Scope) (start : Identities)
    (response : Option AxTreeResponse) (expectedFrameId : Option String) (d : Decoder), LeftBy scope start →
    context.targetId = scope.targetId → decodeResponse response scope start expectedFrameId = .ok d →
    ShowsTree context scope start (responseNodes response expectedFrameId) d := by
  intro hall
  have hrefused : (do
      let d ← decodeResponse (some twinButtons) someScope ⟨fun _ => none, 0⟩ none
      PageSnapshot.new someContext someScope.generation d.nodes d.omitted) =
        .error (invalid "snapshot node ids must be unique") := by decide +kernel
  obtain ⟨d, hd⟩ := exists_ok (by decide +kernel :
    (decodeResponse (some twinButtons) someScope ⟨fun _ => none, 0⟩ none).isOk = true)
  obtain ⟨snapshot, hsnapshot⟩ := (hall someContext someScope _ _ _ d .first rfl hd).accepted
  rw [hd, ok_bind, hsnapshot] at hrefused
  cases hrefused

end Krometrail.Control
