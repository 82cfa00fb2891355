import Krometrail.Control.Reports
import Krometrail.Lib.Filling

/-!
# Bounded projections

The targets and the context of a projected snapshot are each filled within a number and a length of JSON.  The length of a
target or of an entry is what the serializer makes it; that of the snapshot around them is counted here, as the numbers of
the omissions are part of it.
-/

namespace Krometrail.Control

open Results Sorting Filling

/-! ### Lengths -/

def jsonArray (lengths : List Nat) : Nat := 2 + lengths.sum + (lengths.length - 1)

/-- An object has its names in quotes, and a colon behind each. -/
def jsonObject (fields : List (String × Nat)) : Nat := jsonArray (fields.map fun field => field.1.length + 3 + field.2)

def jsonNumber (n : Nat) : Nat := (Nat.toDigits 10 n).length

/-- An identifier is written with hyphens, in quotes. -/
def jsonId : Nat := 38

def contextBytes (context : ObservationContext) : Nat :=
  jsonObject [("session_id", jsonId), ("target_id", jsonId), ("attachment_generation", jsonNumber context.attachmentGeneration),
    ("started_at", jsonNumber context.startedAt.nanos.toNat), ("completed_at", jsonNumber context.completedAt.nanos.toNat)]

/-- The lengths of what the serializer writes, and whether the geometry was left out of the snapshot. -/
structure Lengths where
  target : ExactTarget → Nat
  entry : SemanticContextEntry → Nat
  geometryOmitted : Bool

namespace Lengths

def targets (lengths : Lengths) (targets : List ExactTarget) : Nat := jsonArray (targets.map lengths.target)

/-- The length of a `BoundedSnapshot`. -/
def boundedSnapshot (lengths : Lengths) (snapshot : PageSnapshot) (targets : List ExactTarget)
    (semanticContext : List SemanticContextEntry) : Nat :=
  let contextCount := snapshot.nodes.length - snapshot.actionable.length
  jsonObject [("context", contextBytes snapshot.context), ("generation", jsonNumber snapshot.generation.value),
    ("targets", lengths.targets targets), ("semantic_context", jsonArray (semanticContext.map lengths.entry)),
    ("omissions", jsonObject [("source_nodes", jsonNumber snapshot.omittedNodeCount),
      ("presentation_targets", jsonNumber (snapshot.actionable.length - targets.length)),
      ("presentation_context_nodes", jsonNumber (contextCount - semanticContext.length)),
      ("geometry_omitted", if lengths.geometryOmitted then 4 else 5)])]

def presentation (lengths : Lengths) (inViewport : Option (SnapshotNode → Bool)) (snapshot : PageSnapshot) : Presentation :=
  ⟨inViewport, lengths.target, lengths.boundedSnapshot snapshot⟩

def fitsTargets (lengths : Lengths) (detail : ResponseDetail) (targets : List ExactTarget) : Bool :=
  lengths.targets targets ≤ (SnapshotBudget.forDetail detail).maxTargetJsonBytes

def fitsSnapshot (lengths : Lengths) (snapshot : PageSnapshot) (detail : ResponseDetail) (targets : List ExactTarget)
    (semanticContext : List SemanticContextEntry) : Bool :=
  lengths.boundedSnapshot snapshot targets semanticContext ≤ (SnapshotBudget.forDetail detail).maxSnapshotJsonBytes

end Lengths

/-- The numbers of a snapshot are in the ranges of their types. -/
structure PageSnapshot.InRange (snapshot : PageSnapshot) : Prop where
  attachmentGeneration_lt : snapshot.context.attachmentGeneration < 2 ^ 64
  generation_lt : snapshot.generation.value < 2 ^ 64
  omittedNodeCount_lt : snapshot.omittedNodeCount < 2 ^ 32
  id_lt : ∀ node ∈ snapshot.nodes, node.id.value < 2 ^ 32

/-! ### The order of the offers -/

def targetRank (inViewport : Option (SnapshotNode → Bool)) (node : SnapshotNode) : Nat ×ₗ Nat ×ₗ Nat :=
  toLex (inViewport.elim 0 fun inside => if inside node then 0 else 1,
    toLex (snapshotActionRank node, if snapshotIsIdentifiable node then 0 else 1))

def rankedTargets (inViewport : Option (SnapshotNode → Bool)) (snapshot : PageSnapshot) : List SnapshotNode :=
  sortByKey (targetRank inViewport) snapshot.actionable

def rankedContext (snapshot : PageSnapshot) : List SnapshotNode :=
  sortByKey semanticRank (snapshot.nodes.filter fun node => !node.actionable)

def contextEntry (node : SnapshotNode) : SemanticContextEntry :=
  { nodeId := node.id, parentNodeId := node.parent, depth := node.depth, role := node.role, name := node.name,
    value := node.value, description := node.description, states := node.properties }

/-- The list has the nodes in the order of a rank; nodes of one rank stay in the order of the page. -/
structure Ranked {κ : Type} [LinearOrder κ] (rank : SnapshotNode → κ) (nodes ranked : List SnapshotNode) : Prop where
  perm : ranked.Perm nodes
  ordered : ranked.Pairwise fun a b => rank a ≤ rank b
  stable : ∀ a b, [a, b].Sublist nodes → rank a ≤ rank b → [a, b].Sublist ranked

theorem ranked_sortByKey {κ : Type} [LinearOrder κ] (rank : SnapshotNode → κ) (nodes : List SnapshotNode) :
    Ranked rank nodes (sortByKey rank nodes) :=
  ⟨perm_sortByKey rank nodes, pairwise_sortByKey rank nodes, fun _ _ hsublist hle =>
    List.pair_sublist_insertionSort hle hsublist⟩

/-! ### The passes -/

variable {lengths : Lengths} {inViewport : Option (SnapshotNode → Bool)} {snapshot : PageSnapshot} {detail : ResponseDetail}
  {nodes : List SnapshotNode} {targets offered taken : List ExactTarget} {budget : SnapshotBudget} {concise : Bool}

theorem jsonArray_append (lengths : List Nat) (n : Nat) :
    jsonArray (lengths ++ [n]) = jsonArray lengths + (if lengths.isEmpty then 0 else 1) + n := by
  cases lengths with
  | nil => simp [jsonArray]
  | cons m rest => simp [jsonArray]; omega

theorem takeTargets_eq {presentation : Presentation}
    (h : nodes.mapM (fun node => exactTarget node concise) = .ok offered) (hle : taken.length ≤ budget.maxTargets) :
    takeTargets presentation concise budget nodes taken (jsonArray (taken.map presentation.targetBytes)) =
      .ok (taken ++ fill (fun added => jsonArray ((taken ++ added).map presentation.targetBytes) ≤ budget.maxTargetJsonBytes)
        (budget.maxTargets - taken.length) offered) := by
  induction nodes generalizing taken offered with
  | nil =>
    cases pure_eq_ok.1 h
    cases budget.maxTargets - taken.length <;> simp [takeTargets, fill]
  | cons node nodes ih =>
    rw [List.mapM_cons, bind_eq_ok] at h
    obtain ⟨target, htarget, h⟩ := h
    obtain ⟨rest, hrest, h⟩ := bind_eq_ok.1 h
    cases pure_eq_ok.1 h
    rw [takeTargets]
    split
    · rename_i hfull
      rw [hfull, Nat.sub_self, fill, List.append_nil]
    · rename_i hroom
      obtain ⟨limit, hlimit⟩ : ∃ limit, budget.maxTargets - taken.length = limit + 1 :=
        ⟨budget.maxTargets - taken.length - 1, by omega⟩
      have hbytes : jsonArray ((taken ++ [target]).map presentation.targetBytes) =
          jsonArray (taken.map presentation.targetBytes) + (if taken.isEmpty then 0 else 1) + presentation.targetBytes target := by
        rw [List.map_append, List.map_singleton, jsonArray_append, List.isEmpty_map]
      rw [htarget, hlimit, fill]
      simp only [ok_bind, ← hbytes, decide_eq_true_eq]
      by_cases hfits : jsonArray ((taken ++ [target]).map presentation.targetBytes) ≤ budget.maxTargetJsonBytes
      · rw [if_neg hfits.not_gt, if_pos hfits, ih hrest (by simp; omega)]
        have hleft : budget.maxTargets - (taken ++ [target]).length = limit := by simp; omega
        simp only [hleft, List.append_assoc, List.singleton_append]
      · rw [if_pos (not_le.1 hfits), if_neg hfits, ih hrest hle, hlimit]

theorem takeContext_cons (presentation : Presentation) (budget : SnapshotBudget) (targets : List ExactTarget)
    (node : SnapshotNode) (nodes : List SnapshotNode) (taken : List SemanticContextEntry) :
    takeContext presentation budget targets (node :: nodes) taken =
      if taken.length = budget.maxContextNodes then taken
      else if presentation.snapshotBytes targets (taken ++ [contextEntry node]) ≤ budget.maxSnapshotJsonBytes then
        takeContext presentation budget targets nodes (taken ++ [contextEntry node])
      else takeContext presentation budget targets nodes taken := by
  rw [takeContext]
  simp only [gt_iff_lt, ← not_le, ite_not]
  rfl

theorem takeContext_eq {presentation : Presentation} {taken : List SemanticContextEntry}
    (hle : taken.length ≤ budget.maxContextNodes) :
    takeContext presentation budget targets nodes taken =
      taken ++ fill (fun added => presentation.snapshotBytes targets (taken ++ added) ≤ budget.maxSnapshotJsonBytes)
        (budget.maxContextNodes - taken.length) (nodes.map contextEntry) := by
  induction nodes generalizing taken with
  | nil => cases budget.maxContextNodes - taken.length <;> simp [takeContext, fill]
  | cons node nodes ih =>
    rw [takeContext_cons]
    split
    · rename_i hfull
      rw [hfull, Nat.sub_self, fill, List.append_nil]
    · rename_i hroom
      obtain ⟨limit, hlimit⟩ : ∃ limit, budget.maxContextNodes - taken.length = limit + 1 :=
        ⟨budget.maxContextNodes - taken.length - 1, by omega⟩
      rw [hlimit, List.map_cons, fill]
      simp only [decide_eq_true_eq]
      by_cases hfits : presentation.snapshotBytes targets (taken ++ [contextEntry node]) ≤ budget.maxSnapshotJsonBytes
      · have hleft : budget.maxContextNodes - (taken ++ [contextEntry node]).length = limit := by simp; omega
        rw [if_pos hfits, if_pos hfits, ih (by simp; omega)]
        simp only [hleft, List.append_assoc, List.singleton_append]
      · rw [if_neg hfits, if_neg hfits, ih hle, hlimit]

/-! ### What is projected -/

/-- The targets are those of actionable nodes, each once, filled in the order of their rank. -/
structure TargetsBounded (lengths : Lengths) (inViewport : Option (SnapshotNode → Bool)) (snapshot : PageSnapshot)
    (detail : ResponseDetail) (targets : List ExactTarget) : Prop where
  filled : ∃ offered, (rankedTargets inViewport snapshot).mapM (fun node => exactTarget node (detail = .concise)) = .ok offered ∧
    Filled (lengths.fitsTargets detail) (SnapshotBudget.forDetail detail).maxTargets offered targets
  distinct : (targets.map (·.reference)).Nodup
  fits : lengths.fitsTargets detail targets = true

/-- The context is that of the other nodes, filled in the order of their rank while the whole snapshot fits. -/
structure ContextBounded (lengths : Lengths) (snapshot : PageSnapshot) (detail : ResponseDetail) (targets : List ExactTarget)
    (semanticContext : List SemanticContextEntry) : Prop where
  filled : Filled (lengths.fitsSnapshot snapshot detail targets) (SnapshotBudget.forDetail detail).maxContextNodes
    ((rankedContext snapshot).map contextEntry) semanticContext
  fits : lengths.fitsSnapshot snapshot detail targets semanticContext = true

section
variable {context : ObservationContext} {generation : SnapshotGeneration} {omitted : Nat}

theorem distinct_of_new (h : PageSnapshot.new context generation nodes omitted = .ok snapshot) :
    (nodes.map (·.id)).Nodup ∧ ∀ node ∈ nodes, ∀ reference ∈ node.reference, reference.nodeId = node.id := by
  obtain ⟨seen, hnodes, -⟩ := bind_eq_ok.1 h
  refine ( foldlM_prefix (P := fun l seen => (∀ node ∈ l, (seen node.id).isSome = true) ∧ (l.map (·.id)).Nodup ∧
    ∀ node ∈ l, ∀ reference ∈ node.reference, reference.nodeId = node.id) ?_ (by simp) hnodes).2
  rintro before node after seen seen' - ⟨hseen, hnodup, hreferences⟩ hcheck
  simp only [checkNode, bind_eq_ok, refuse_eq_ok, pure_eq_ok] at hcheck
  obtain ⟨-, -, -, hnew, -, -, -, -, -, hreference, -, -, rfl⟩ := hcheck
  refine ⟨fun other hother => ?_, ?_, fun other hother => ?_⟩
  · by_cases heq : other.id = node.id
    · simp [heq]
    · rw [Function.update_of_ne heq]
      exact hseen other ((List.mem_append.1 hother).resolve_right (by simpa using fun h => heq (congrArg _ h)))
  · rw [List.map_append, List.map_singleton, List.nodup_append_comm, List.singleton_append, List.nodup_cons]
    refine ⟨fun hmem => hnew ?_, hnodup⟩
    obtain ⟨other, hother, heq⟩ := List.mem_map.1 hmem
    exact heq ▸ hseen other hother
  · rcases List.mem_append.1 hother with hother | hother
    · exact hreferences other hother
    · cases List.mem_singleton.1 hother
      intro reference hmem
      exact congrArg NodeReference.nodeId (not_not.1 fun hne => hreference ⟨reference, hmem, hne⟩)

theorem length_lt_of_new (h : PageSnapshot.new context generation nodes omitted = .ok snapshot)
    (hrange : snapshot.InRange) : snapshot.nodes.length < 2 ^ 32 := by
  obtain ⟨rfl, -⟩ := actionable_of_new h
  have hnodup : (0 :: nodes.map (·.id.value)).Nodup := by
    refine List.nodup_cons.2 ⟨?_, ?_⟩
    · simp only [List.mem_map, not_exists, not_and]
      exact fun node _ => node.id.value_ne_zero
    · have hinjective : Function.Injective SnapshotNodeId.value := fun ⟨_, _⟩ ⟨_, _⟩ heq => by simpa using heq
      simpa [Function.comp_def] using (distinct_of_new h).1.map hinjective
  have hsubset : 0 :: nodes.map (·.id.value) ⊆ List.range (2 ^ 32) := by
    simpa [List.subset_def] using hrange.id_lt
  have hle := (hnodup.subperm hsubset).length_le
  rw [List.length_range, List.length_cons, List.length_map] at hle
  exact hle

theorem exactTarget_total (h : PageSnapshot.new context generation nodes omitted = .ok snapshot) {node : SnapshotNode}
    (hnode : node ∈ snapshot.actionable) (concise : Bool) : ∃ target, exactTarget node concise = .ok target := by
  obtain ⟨rfl, hactionable⟩ := actionable_of_new h
  obtain ⟨hnode, haction⟩ := List.mem_filter.1 hnode
  obtain ⟨reference, hreference⟩ := Option.isSome_iff_exists.1 ((hactionable node hnode).symm.trans haction)
  exact ⟨_, by rw [exactTarget, hreference]; rfl⟩

theorem reference_of_exactTarget {node : SnapshotNode} {target : ExactTarget} (h : exactTarget node concise = .ok target) :
    node.reference = some target.reference := by
  obtain ⟨reference, hreference, h⟩ := bind_eq_ok.1 h
  cases pure_eq_ok.1 h
  cases hnode : node.reference with
  | none =>
    rw [hnode] at hreference
    cases hreference
  | some other =>
    rw [hnode] at hreference
    exact congrArg some (Except.ok.inj hreference)

theorem nodup_references (h : PageSnapshot.new context generation nodes omitted = .ok snapshot) :
    (snapshot.actionable.map (·.reference)).Nodup := by
  obtain ⟨rfl, hactionable⟩ := actionable_of_new h
  obtain ⟨hdistinct, hids⟩ := distinct_of_new h
  refine List.Nodup.of_map (Option.map (·.nodeId)) ?_
  have heq : ((nodes.filter SnapshotNode.actionable).map (·.reference)).map (Option.map (·.nodeId)) =
      ((nodes.filter SnapshotNode.actionable).map (·.id)).map some := by
    rw [List.map_map, List.map_map]
    refine List.map_congr_left fun node hnode => ?_
    obtain ⟨hnode, haction⟩ := List.mem_filter.1 hnode
    obtain ⟨reference, hreference⟩ := Option.isSome_iff_exists.1 ((hactionable node hnode).symm.trans haction)
    simp [hreference, hids node hnode reference hreference]
  rw [PageSnapshot.actionable, heq]
  exact (hdistinct.sublist (List.filter_sublist.map _)).map (Option.some_injective _)

theorem boundedTargets_spec (lengths : Lengths) (inViewport : Option (SnapshotNode → Bool)) (detail : ResponseDetail)
    (h : PageSnapshot.new context generation nodes omitted = .ok snapshot) :
    ∃ targets, boundedTargets (lengths.presentation inViewport snapshot) snapshot detail = .ok targets ∧
      TargetsBounded lengths inViewport snapshot detail targets := by
  obtain ⟨offered, hoffered⟩ := mapM_total.2 fun node (hnode : node ∈ rankedTargets inViewport snapshot) =>
    exactTarget_total h (mem_sortByKey.1 hnode) (detail = .concise)
  have hfilled := filled_fill (lengths.fitsTargets detail) (SnapshotBudget.forDetail detail).maxTargets offered
  refine ⟨_, takeTargets_eq hoffered (Nat.zero_le _), ⟨offered, hoffered, hfilled⟩, ?_, ?_⟩
  · have hreferences : offered.map (fun target => some target.reference) =
        (rankedTargets inViewport snapshot).map (·.reference) :=
      map_mapM hoffered fun _ _ htarget => (reference_of_exactTarget htarget).symm
    refine List.Nodup.of_map some ?_
    rw [List.map_map]
    refine List.Nodup.sublist (hfilled.sublist.map _) ?_
    rw [Function.comp_def, hreferences, rankedTargets, ((perm_sortByKey _ _).map _).nodup_iff]
    exact nodup_references h
  · exact hfilled.fits (by cases detail <;> rfl)

theorem jsonNumber_le {n : Nat} (h : n < 2 ^ 64) : jsonNumber n ≤ 20 :=
  Nat.toDigits_length 10 n 20 (by decide) (h.trans (by decide))

theorem boundedSnapshot_nil_le (lengths : Lengths) (targets : List ExactTarget) (hrange : snapshot.InRange)
    (hlength : snapshot.nodes.length < 2 ^ 32) :
    lengths.boundedSnapshot snapshot targets [] ≤ lengths.targets targets + 1024 := by
  have hactionable : snapshot.actionable.length ≤ snapshot.nodes.length := List.length_filter_le _ _
  have h₁ := jsonNumber_le hrange.attachmentGeneration_lt
  have h₂ := jsonNumber_le hrange.generation_lt
  have h₃ := jsonNumber_le snapshot.context.startedAt.nanos.toNat_lt
  have h₄ := jsonNumber_le snapshot.context.completedAt.nanos.toNat_lt
  have h₅ := jsonNumber_le (hrange.omittedNodeCount_lt.trans (by decide))
  have h₆ : jsonNumber (snapshot.actionable.length - targets.length) ≤ 20 := jsonNumber_le (by omega)
  have h₇ : jsonNumber (snapshot.nodes.length - snapshot.actionable.length) ≤ 20 := jsonNumber_le (by omega)
  have h₈ : (if lengths.geometryOmitted then 4 else 5) ≤ 5 := by split <;> decide
  have hnames : (["context", "session_id", "target_id", "attachment_generation", "started_at", "completed_at", "generation",
      "targets", "semantic_context", "omissions", "source_nodes", "presentation_targets", "presentation_context_nodes",
      "geometry_omitted"].map String.length).sum ≤ 256 := by decide
  simp only [Lengths.boundedSnapshot, contextBytes, jsonObject, jsonArray, jsonId] at *
  simp at *
  omega

/-- Without a context the snapshot fits, as its targets leave room for the rest. -/
theorem fitsSnapshot_nil (hdetail : detail ≠ .concise) (hfits : lengths.fitsTargets detail targets = true)
    (hrange : snapshot.InRange) (hlength : snapshot.nodes.length < 2 ^ 32) :
    lengths.fitsSnapshot snapshot detail targets [] = true := by
  have hroom : (SnapshotBudget.forDetail detail).maxTargetJsonBytes + 1024 ≤
      (SnapshotBudget.forDetail detail).maxSnapshotJsonBytes := by
    cases detail with
    | concise => exact absurd rfl hdetail
    | expanded | full => decide
  exact decide_eq_true ((boundedSnapshot_nil_le lengths targets hrange hlength).trans
    ((Nat.add_le_add_right (of_decide_eq_true hfits) 1024).trans hroom))

/-- The pass over the context, whatever the targets are that fit. -/
theorem takeContext_spec (lengths : Lengths) (inViewport : Option (SnapshotNode → Bool)) (hdetail : detail ≠ .concise)
    (hfits : lengths.fitsTargets detail targets = true) (hrange : snapshot.InRange) (hlength : snapshot.nodes.length < 2 ^ 32) :
    ∃ semanticContext, takeContext (lengths.presentation inViewport snapshot) (.forDetail detail) targets
        (rankedContext snapshot) [] = semanticContext ∧ ContextBounded lengths snapshot detail targets semanticContext := by
  have hfilled := filled_fill (lengths.fitsSnapshot snapshot detail targets) (SnapshotBudget.forDetail detail).maxContextNodes
    ((rankedContext snapshot).map contextEntry)
  exact ⟨_, takeContext_eq (Nat.zero_le _), hfilled, hfilled.fits (fitsSnapshot_nil hdetail hfits hrange hlength)⟩

/-- A projection of an accepted snapshot is bounded, and counts what it leaves out. -/
theorem projections_bounded (lengths : Lengths) (inViewport : Option (SnapshotNode → Bool)) (detail : ResponseDetail)
    (novelty : SnapshotNovelty) (h : PageSnapshot.new context generation nodes omitted = .ok snapshot)
    (hrange : snapshot.InRange) :
    Ranked (targetRank inViewport) snapshot.actionable (rankedTargets inViewport snapshot) ∧
    Ranked semanticRank (snapshot.nodes.filter fun node => !node.actionable) (rankedContext snapshot) ∧
    ∃ targets semanticContext omissions,
      projectSnapshot (lengths.presentation inViewport snapshot) snapshot detail novelty =
        .ok (if novelty = .unchanged ∧ detail ≠ .full then
            .unchanged snapshot.generation snapshot.actionable.length omissions
          else .targets snapshot.context snapshot.generation omissions targets semanticContext) ∧
      TargetsBounded lengths inViewport snapshot detail targets ∧
      targets.length + omissions.presentationTargets = snapshot.actionable.length ∧
      (detail ≠ .concise →
        ContextBounded lengths snapshot detail targets semanticContext ∧
        semanticContext.length + omissions.presentationContextNodes =
          (snapshot.nodes.filter fun node => !node.actionable).length) := by
  refine ⟨ranked_sortByKey _ _, ranked_sortByKey _ _, ?_⟩
  have hlength := length_lt_of_new h hrange
  have hcount : snapshot.nodes.length = snapshot.actionable.length + (snapshot.nodes.filter fun node => !node.actionable).length :=
    List.length_eq_length_filter_add _
  obtain ⟨targets, htargets, hbounded⟩ := boundedTargets_spec lengths inViewport detail h
  have hle : targets.length ≤ snapshot.actionable.length := by
    obtain ⟨offered, hoffered, hfilled⟩ := hbounded.filled
    have heq := (mapM_eq_ok hoffered).length_eq
    rw [rankedTargets, (perm_sortByKey _ _).length_eq] at heq
    exact heq ▸ hfilled.sublist.length_le
  have hu32 {n : Nat} (hn : n ≤ snapshot.nodes.length) : u32 n = .ok n := if_pos (hn.trans_lt hlength)
  by_cases hconcise : detail = .concise
  · subst hconcise
    refine ⟨targets, [], ⟨snapshot.omittedNodeCount, snapshot.actionable.length - targets.length, 0⟩, ?_, hbounded,
      Nat.add_sub_cancel' hle, fun h => absurd rfl h⟩
    rw [projectSnapshot, conciseSnapshot, htargets, ok_bind, hu32 (by omega), ok_bind]
    cases novelty <;> rfl
  · obtain ⟨semanticContext, hcontext, hcontextBounded⟩ :=
      takeContext_spec lengths inViewport hconcise hbounded.fits hrange hlength
    have hcontextLe : semanticContext.length ≤ (snapshot.nodes.filter fun node => !node.actionable).length := by
      have hle := hcontextBounded.filled.sublist.length_le
      rwa [List.length_map, rankedContext, (perm_sortByKey _ _).length_eq] at hle
    have hproject : projectSnapshot (lengths.presentation inViewport snapshot) snapshot detail novelty =
        boundedSnapshot (lengths.presentation inViewport snapshot) snapshot detail novelty := by
      cases detail with
      | concise => exact absurd rfl hconcise
      | expanded | full => rfl
    refine ⟨targets, semanticContext, ⟨snapshot.omittedNodeCount, snapshot.actionable.length - targets.length,
      snapshot.nodes.length - snapshot.actionable.length - semanticContext.length⟩, ?_, hbounded,
      Nat.add_sub_cancel' hle, fun _ => ⟨hcontextBounded, by dsimp only; omega⟩⟩
    rw [hproject, boundedSnapshot, htargets, ok_bind]
    simp only [rankedContext] at hcontext
    simp only [hcontext]
    rw [hu32 (by omega), ok_bind, hu32 (by omega), ok_bind]
    split <;> rfl

end

def buttonPage : PageSnapshot where
  context := ⟨⟨someUuid 1⟩, ⟨someUuid 2⟩, 1, ⟨0⟩, ⟨0⟩⟩
  generation := ⟨1, Nat.one_ne_zero⟩
  nodes := [{ id := ⟨1, Nat.one_ne_zero⟩, parent := none, depth := 0, role := "button", name := none, value := none,
              description := none, properties := [], actionable := true,
              reference := some ⟨⟨someUuid 2⟩, ⟨1, Nat.one_ne_zero⟩, ⟨1, Nat.one_ne_zero⟩⟩ }]
  omittedNodeCount := 0

theorem projections_bounded_button : ∃ targets, TargetsBounded ⟨fun _ => 100, fun _ => 50, false⟩ none buttonPage .full targets := by
  have hnew : PageSnapshot.new buttonPage.context buttonPage.generation buttonPage.nodes 0 = .ok buttonPage := rfl
  have hrange : buttonPage.InRange := ⟨by decide, by decide, by decide, by decide⟩
  obtain ⟨-, -, targets, _, _, -, htargets, -⟩ :=
    projections_bounded ⟨fun _ => 100, fun _ => 50, false⟩ none .full .novel hnew hrange
  exact ⟨targets, htargets⟩

end Krometrail.Control
