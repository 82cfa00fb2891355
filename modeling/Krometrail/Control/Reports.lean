import Krometrail.Control.References
import Krometrail.Lib.Sorting

/-!
# Projected snapshots

The presentation of a snapshot in a tool response.  After an action, a memory of the attachment and the generation that
was presented last for each target decides whether a concise or an expanded response repeats the targets, or says that
they are unchanged.
-/

namespace Krometrail.Control

open Results Sorting

inductive SnapshotNovelty
  | novel | unchanged
  deriving DecidableEq

structure ProjectedSnapshotMemory where
  entries : TargetId → Option (Nat × SnapshotGeneration)

def ProjectedSnapshotMemory.observe (memory : ProjectedSnapshotMemory) (target : TargetId) (attachmentGeneration : Nat)
    (generation : SnapshotGeneration) : ProjectedSnapshotMemory × SnapshotNovelty :=
  (⟨Function.update memory.entries target (some (attachmentGeneration, generation))⟩,
    if memory.entries target = some (attachmentGeneration, generation) then .unchanged else .novel)

/-! ### The targets -/

inductive ResponseDetail
  | concise | expanded | full
  deriving DecidableEq

/-- The map of a response to the format of the protocol has failed. -/
inductive ResponseInvariantError
  | mk

structure ExactTarget where
  reference : NodeReference
  role : String
  name : Option String
  value : Option String
  states : List AccessibleProperty

structure SemanticContextEntry where
  nodeId : SnapshotNodeId
  parentNodeId : Option SnapshotNodeId
  depth : Nat
  role : String
  name : Option String
  value : Option String
  description : Option String
  states : List AccessibleProperty

structure SnapshotBudget where
  maxTargets : Nat
  maxTargetJsonBytes : Nat
  maxContextNodes : Nat
  maxSnapshotJsonBytes : Nat

def SnapshotBudget.forDetail : ResponseDetail → SnapshotBudget
  | .concise => ⟨24, 6 * 1024, 0, 6 * 1024⟩
  | .expanded => ⟨48, 12 * 1024, 96, 32 * 1024⟩
  | .full => ⟨192, 48 * 1024, 384, 128 * 1024⟩

/-- What the projection takes from elsewhere: whether a node lies in the viewport, when the geometry is available, and the
lengths of what it writes as JSON. -/
structure Presentation where
  inViewport : Option (SnapshotNode → Bool)
  targetBytes : ExactTarget → Nat
  snapshotBytes : List ExactTarget → List SemanticContextEntry → Nat

def snapshotBooleanProperty (node : SnapshotNode) (name : String) : Bool :=
  node.properties.any fun property => property.name = name ∧ property.value = .boolean true

def snapshotActionRank (node : SnapshotNode) : Nat :=
  if snapshotBooleanProperty node "focused" then 0
  else if snapshotBooleanProperty node "editable" then 1
  else if node.role ≠ "link" then 2
  else 3

def snapshotIsIdentifiable (node : SnapshotNode) : Bool := node.name.isSome || node.value.isSome || node.description.isSome

def semanticRank (node : SnapshotNode) : Nat :=
  if node.role ∈ ["alert", "dialog", "heading", "status"] then 0 else if snapshotIsIdentifiable node then 1 else 2

def exactTarget (node : SnapshotNode) (concise : Bool) : Except ResponseInvariantError ExactTarget := do
  let states := node.properties.filter fun property =>
    !(concise && (property.name = "focusable" || property.value = .boolean false))
  let reference ← node.reference.elim (.error .mk) .ok
  return { reference, role := node.role, name := node.name, value := node.value, states }

/-- Take the targets in their order, as far as they fit. -/
def takeTargets (presentation : Presentation) (concise : Bool) (budget : SnapshotBudget) :
    List SnapshotNode → List ExactTarget → Nat → Except ResponseInvariantError (List ExactTarget)
  | [], targets, _ => .ok targets
  | node :: rest, targets, bytes =>
    if targets.length = budget.maxTargets then .ok targets
    else do
      let target ← exactTarget node concise
      let next := bytes + (if targets.isEmpty then 0 else 1) + presentation.targetBytes target
      if next > budget.maxTargetJsonBytes then takeTargets presentation concise budget rest targets bytes
      else takeTargets presentation concise budget rest (targets ++ [target]) next

def PageSnapshot.actionable (snapshot : PageSnapshot) : List SnapshotNode := snapshot.nodes.filter SnapshotNode.actionable

def boundedTargets (presentation : Presentation) (snapshot : PageSnapshot) (detail : ResponseDetail) :
    Except ResponseInvariantError (List ExactTarget) :=
  let outside (node : SnapshotNode) : Nat := presentation.inViewport.elim 0 fun inside => if inside node then 0 else 1
  let actions := sortByKey
    (fun node => toLex (outside node, toLex (snapshotActionRank node, if snapshotIsIdentifiable node then 0 else 1)))
    snapshot.actionable
  takeTargets presentation (detail = .concise) (.forDetail detail) actions [] 2

/-- Take the entries in their order, as far as the snapshot with them fits. -/
def takeContext (presentation : Presentation) (budget : SnapshotBudget) (targets : List ExactTarget) :
    List SnapshotNode → List SemanticContextEntry → List SemanticContextEntry
  | [], context => context
  | node :: rest, context =>
    if context.length = budget.maxContextNodes then context
    else
      let entry : SemanticContextEntry :=
        { nodeId := node.id, parentNodeId := node.parent, depth := node.depth, role := node.role, name := node.name,
          value := node.value, description := node.description, states := node.properties }
      if presentation.snapshotBytes targets (context ++ [entry]) > budget.maxSnapshotJsonBytes then
        takeContext presentation budget targets rest context
      else takeContext presentation budget targets rest (context ++ [entry])

structure Omissions where
  sourceNodes : Nat
  presentationTargets : Nat
  presentationContextNodes : Nat

inductive SnapshotProjection
  | unchanged (generation : SnapshotGeneration) (targetCount : Nat) (omissions : Omissions)
  | targets (context : ObservationContext) (generation : SnapshotGeneration) (omissions : Omissions)
      (targets : List ExactTarget) (semanticContext : List SemanticContextEntry)

def u32 (value : Nat) : Except ResponseInvariantError Nat := if value < 2 ^ 32 then .ok value else .error .mk

/-- A concise snapshot has no semantic context. -/
def conciseSnapshot (presentation : Presentation) (snapshot : PageSnapshot) (novelty : SnapshotNovelty) :
    Except ResponseInvariantError SnapshotProjection := do
  let targets ← boundedTargets presentation snapshot .concise
  let presentationTargets ← u32 (snapshot.actionable.length - targets.length)
  let omissions : Omissions := ⟨snapshot.omittedNodeCount, presentationTargets, 0⟩
  if novelty = .unchanged then return .unchanged snapshot.generation snapshot.actionable.length omissions
  return .targets snapshot.context snapshot.generation omissions targets []

def boundedSnapshot (presentation : Presentation) (snapshot : PageSnapshot) (detail : ResponseDetail)
    (novelty : SnapshotNovelty) : Except ResponseInvariantError SnapshotProjection := do
  let targets ← boundedTargets presentation snapshot detail
  let contextCount := snapshot.nodes.length - snapshot.actionable.length
  let candidates := sortByKey semanticRank (snapshot.nodes.filter fun node => !node.actionable)
  let semanticContext := takeContext presentation (.forDetail detail) targets candidates []
  let presentationTargets ← u32 (snapshot.actionable.length - targets.length)
  let presentationContextNodes ← u32 (contextCount - semanticContext.length)
  let omissions : Omissions := ⟨snapshot.omittedNodeCount, presentationTargets, presentationContextNodes⟩
  if novelty = .unchanged ∧ detail ≠ .full then
    return .unchanged snapshot.generation snapshot.actionable.length omissions
  return .targets snapshot.context snapshot.generation omissions targets semanticContext

def projectSnapshot (presentation : Presentation) (snapshot : PageSnapshot) (detail : ResponseDetail)
    (novelty : SnapshotNovelty) : Except ResponseInvariantError SnapshotProjection :=
  match detail with
  | .concise => conciseSnapshot presentation snapshot novelty
  | .expanded | .full => boundedSnapshot presentation snapshot detail novelty

theorem unchanged_of_projectSnapshot {presentation : Presentation} {snapshot : PageSnapshot} {detail : ResponseDetail}
    {novelty : SnapshotNovelty} {generation : SnapshotGeneration} {targetCount : Nat} {omissions : Omissions}
    (h : projectSnapshot presentation snapshot detail novelty = .ok (.unchanged generation targetCount omissions)) :
    novelty = .unchanged ∧ detail ≠ .full ∧ generation = snapshot.generation ∧
      targetCount = snapshot.actionable.length := by
  unfold projectSnapshot at h
  split at h
  · simp only [conciseSnapshot, bind_eq_ok] at h
    obtain ⟨_, -, _, -, h⟩ := h
    split at h
    · rename_i hnovelty
      obtain ⟨rfl, rfl, -⟩ := SnapshotProjection.unchanged.inj (pure_eq_ok.1 h)
      exact ⟨hnovelty, by simp, rfl, rfl⟩
    · cases (pure_eq_ok.1 h)
  all_goals
    simp only [boundedSnapshot, bind_eq_ok] at h
    obtain ⟨_, -, _, -, _, -, h⟩ := h
    split at h
    · rename_i hnovelty
      obtain ⟨rfl, rfl, -⟩ := SnapshotProjection.unchanged.inj (pure_eq_ok.1 h)
      exact ⟨hnovelty.1, hnovelty.2, rfl, rfl⟩
    · cases (pure_eq_ok.1 h)

/-- A page control with the responses that its snapshots are presented in.  `observed` is the snapshot of a target that
was observed last for a response, and `reports` lists the summaries, each with the snapshot observed before it and the
one that it replaces. -/
structure Session where
  control : State
  memory : ProjectedSnapshotMemory
  observed : TargetId → Option Capture
  reports : List (Capture × Capture)

/-- The response after an action presents a snapshot that some capture returned, by its place among them: it is not always
the last one, as operations of other callers come in between. -/
inductive SessionInput
  | control (input : Input)
  | respond (index : Nat) (detail : ResponseDetail) (presentation : Presentation)

def SnapshotProjection.isUnchanged : SnapshotProjection → Bool
  | .unchanged .. => true
  | .targets .. => false

def Session.respond (s : Session) (capture : Capture) (detail : ResponseDetail) (presentation : Presentation) : Session :=
  let context := capture.snapshot.context
  let (memory, novelty) := s.memory.observe context.targetId context.attachmentGeneration capture.snapshot.generation
  let reported := match projectSnapshot presentation capture.snapshot detail novelty, s.observed context.targetId with
    | .ok projection, some earlier => if projection.isUnchanged then [(earlier, capture)] else []
    | _, _ => []
  { s with memory, observed := Function.update s.observed context.targetId (some capture), reports := reported ++ s.reports }

def Session.initial : Session := ⟨.initial, ⟨fun _ => none⟩, fun _ => none, []⟩

def Session.exec (s : Session) : SessionInput → Option Session
  | .control input => some { s with control := s.control.next input }
  | .respond index detail presentation =>
    s.control.captures[index]?.map fun capture => s.respond capture detail presentation

def toolSession : Runs.System Session SessionInput Unit := .ofExec (· = .initial) Session.exec

end Krometrail.Control

/-!
## Unchanged reports

A report that the targets of a snapshot are unchanged is made when it has the attachment and the generation of the one
observed before it.  These name the document, not its content: the report is true when the content of the page is the
same and no backend node was gone in between.
-/

namespace Krometrail.Control

open Runs

/-- An actionable node, under its reference or under its backend node. -/
structure Shown (α : Type) where
  identity : Option α
  role : String
  name : Option String
  value : Option String
  properties : List AccessibleProperty
  deriving DecidableEq

def Capture.shown {α : Type} (c : Capture) (identity : NodeReference → Option α) : List (Shown α) :=
  c.snapshot.actionable.map fun node => ⟨node.reference.bind identity, node.role, node.name, node.value, node.properties⟩

/-- The backend node that a reference of a snapshot stands for. -/
def Capture.backendOf (c : Capture) (reference : NodeReference) : Option Int :=
  (c.published.find? (·.1 = reference)).map Prod.snd

/-- The actionable nodes as a caller knows them. -/
def Capture.listed (c : Capture) : List (Shown NodeReference) := c.shown some

/-- The actionable nodes as the page has them. -/
def Capture.content (c : Capture) : List (Shown Int) := c.shown c.backendOf

/-- The tree of a capture has the backend node. -/
def Capture.Shows (c : Capture) (backend : Int) : Prop := (c.identities.nodeByBackend backend).isSome = true

def ofGeneration (targetId : TargetId) (generation : SnapshotGeneration) (c : Capture) : Bool :=
  c.target = targetId ∧ c.snapshot.generation = generation

/-- Every capture of the generation that was made between the two shows the backend node. -/
def ShownBetween (captures : List Capture) (c c' : Capture) (backend : Int) : Prop :=
  c = c' ∨ ∃ later newer between older earlier,
    captures.filter (ofGeneration c.target c.snapshot.generation) = later ++ newer :: (between ++ older :: earlier) ∧
      (newer = c ∧ older = c' ∨ newer = c' ∧ older = c) ∧ ∀ k ∈ between, k.Shows backend

/-- A backend node that both trees have keeps its identity. -/
def Capture.Continues (newer older : Capture) : Prop :=
  ∀ backend id, older.identities.nodeByBackend backend = some id → newer.Shows backend →
    newer.identities.nodeByBackend backend = some id

/-- The captures of a generation continue one another, and the active snapshot is the last one. -/
structure State.Ordered (s : State) : Prop where
  chain : ∀ targetId generation, (s.captures.filter (ofGeneration targetId generation)).IsChain Capture.Continues
  current : ∀ targetId kept active, s.registry.targets targetId = some kept → kept.active = some active →
    ∀ c ∈ (s.captures.filter (ofGeneration targetId active.generation)).head?, c.identities = active.identities

variable {s : State} {c c' : Capture} {bound : BoundTarget} {document : DocumentFingerprint}
  {generation : SnapshotGeneration} {identities : Identities} {active : ActiveSnapshot} {targetId : TargetId}
  {target : TargetSnapshotRegistry} {backend : Int} {id : SnapshotNodeId}

@[simp] theorem ofGeneration_eq_true : ofGeneration targetId generation c = true ↔
    c.target = targetId ∧ c.snapshot.generation = generation := decide_eq_true_iff

theorem identity_of_chain {newer older : Capture} {between earlier : List Capture}
    (hchain : (newer :: (between ++ older :: earlier)).IsChain Capture.Continues)
    (hid : older.identities.nodeByBackend backend = some id) (hbetween : ∀ k ∈ between, k.Shows backend)
    (hnewer : newer.Shows backend) : newer.identities.nodeByBackend backend = some id := by
  induction between generalizing newer with
  | nil => exact (List.isChain_cons_cons.1 hchain).1 backend id hid hnewer
  | cons k between ih =>
    obtain ⟨hcontinues, hchain⟩ := List.isChain_cons_cons.1 hchain
    exact hcontinues backend id (ih hchain (fun k hk => hbetween k (by simp [hk])) (hbetween k (by simp))) hnewer

namespace State.Ordered

theorem set (hs : s.Ordered) (h : ∀ active ∈ target.active, ∃ kept, s.registry.targets targetId = some kept ∧
    kept.active = some active) : State.Ordered { s with registry := s.registry.set targetId target } := by
  refine ⟨hs.chain, fun id kept active hkept hactive => ?_⟩
  by_cases heq : id = targetId
  · subst heq
    simp only [SnapshotRegistry.set_targets_self, Option.some.injEq] at hkept
    subst hkept
    obtain ⟨old, hold, hactive⟩ := h active hactive
    exact hs.current id old active hold hactive
  · simp only [SnapshotRegistry.set_targets_of_ne heq] at hkept
    exact hs.current id kept active hkept hactive

theorem capture (hs : s.Ordered) (hkept : (s.registry.entry bound.targetId).Sound s.captures bound.targetId)
    (hbegin : (s.registry.beginSnapshot bound.targetId bound.attachmentGeneration document).2 = .ok (generation, identities))
    (hmade : c.Made active bound document generation identities) :
    State.Ordered ⟨s.registry.set bound.targetId ⟨active.generation.value, some active⟩, c :: s.captures⟩ := by
  refine ⟨fun id g => ?_, fun id kept active' hid hactive => ?_⟩
  · rw [List.filter_cons]
    split
    · rename_i hc
      obtain ⟨rfl, rfl⟩ := ofGeneration_eq_true.1 hc
      refine List.isChain_cons.2 ⟨fun k hk => ?_, hs.chain _ _⟩
      have hmem := List.mem_filter.1 (List.mem_of_mem_head? hk)
      obtain ⟨htarget, hgeneration⟩ := ofGeneration_eq_true.1 hmem.2
      rcases SnapshotRegistry.beginSnapshot_eq_ok hbegin with ⟨old, hold, -, -, hgen, rfl⟩ | ⟨hgen, -⟩
      · -- the capture continues the active snapshot, which is the last one of the generation
        obtain ⟨kept, hentry⟩ : ∃ kept, s.registry.targets bound.targetId = some kept := by
          cases htargets : s.registry.targets bound.targetId with
          | none => simp [SnapshotRegistry.entry, htargets] at hold
          | some kept => exact ⟨kept, rfl⟩
        rw [SnapshotRegistry.entry_of_targets hentry] at hold
        rw [hmade.target_eq, hmade.generation_eq, hgen] at hk
        have hidentities := hs.current _ kept old hentry hold k hk
        intro backend id hb hshows
        exact hmade.stable backend id (hidentities ▸ hb) hshows
      · -- no capture has the generation before it is drawn
        have hle := hkept.drawn k hmem.1 (htarget.trans hmade.target_eq)
        rw [hgeneration, hmade.generation_eq] at hle
        omega
    · exact hs.chain id g
  · by_cases heq : id = bound.targetId
    · subst heq
      simp only [SnapshotRegistry.set_targets_self, Option.some.injEq] at hid
      subst hid
      obtain rfl : active = active' := Option.some.inj hactive
      have hc : ofGeneration bound.targetId active.generation c = true :=
        ofGeneration_eq_true.2 ⟨hmade.target_eq, hmade.generation_eq.trans hmade.active_generation.symm⟩
      rw [List.filter_cons_of_pos hc]
      rintro k hk
      obtain rfl : c = k := Option.some.inj hk
      exact hmade.identities_eq
    · simp only [SnapshotRegistry.set_targets_of_ne heq] at hid
      have hc : ¬ ofGeneration id active'.generation c = true := fun hc =>
        heq ((ofGeneration_eq_true.1 hc).1.symm.trans hmade.target_eq)
      rw [List.filter_cons_of_neg hc]
      exact hs.current id kept active' hid hactive

theorem next (hsound : s.Sound) (hs : s.Ordered) {input : Input} (hguard : NoReturn s input) : (s.next input).Ordered := by
  cases input with
  | capture sessionId bound frame replies =>
    have hkept := hsound.entry hguard
    rcases capture_cases (s := s) sessionId bound frame replies with heq | heq |
      ⟨document, response, generation, identities, c, active, hbegin, hdecode, heq⟩
    · rwa [heq]
    · rw [heq]
      refine hs.set fun active hactive => ?_
      cases htargets : s.registry.targets bound.targetId with
      | none => simp [SnapshotRegistry.entry, htargets] at hactive
      | some kept =>
        rw [SnapshotRegistry.entry_of_targets htargets] at hactive
        exact ⟨kept, rfl, hactive⟩
    · rw [heq]
      exact hs.capture hkept hbegin (made_of_decodeSnapshot (valid_of_begin hkept hbegin) hdecode)
  | invalidateTarget targetId =>
    simp only [State.next, SnapshotRegistry.invalidateTarget]
    split
    · exact hs
    · exact hs.set (by simp)
  | retainTargets live =>
    exact ⟨hs.chain, fun id kept active hkept => hs.current id kept active (Option.ite_none_right_eq_some.1 hkept).2⟩

end State.Ordered

theorem identity_of_shownBetween (hs : s.Ordered) (hgeneration : ofGeneration c.target c.snapshot.generation c' = true)
    (hbetween : ShownBetween s.captures c c' backend) {id' : SnapshotNodeId} (hid : c.identities.nodeByBackend backend = some id)
    (hid' : c'.identities.nodeByBackend backend = some id') : id = id' := by
  rcases hbetween with rfl | ⟨later, newer, between, older, earlier, hfilter, hends, hshows⟩
  · exact Option.some.inj (hid.symm.trans hid')
  have hchain : (newer :: (between ++ older :: earlier)).IsChain Capture.Continues :=
    List.IsChain.right_of_append (hfilter ▸ hs.chain c.target c.snapshot.generation)
  rcases hends with ⟨rfl, rfl⟩ | ⟨rfl, rfl⟩
  · have := identity_of_chain hchain hid' hshows (by simp [Capture.Shows, hid])
    exact Option.some.inj (hid.symm.trans this)
  · have := identity_of_chain hchain hid hshows (by simp [Capture.Shows, hid'])
    exact Option.some.inj (this.symm.trans hid')

theorem mem_published_of_backendOf {reference : NodeReference} (h : c.backendOf reference = some backend) :
    (reference, backend) ∈ c.published := by
  obtain ⟨entry, hfind, rfl⟩ := Option.map_eq_some_iff.1 h
  have heq : entry.1 = reference := by simpa using List.find?_some hfind
  exact heq ▸ List.mem_of_find?_eq_some hfind

theorem exists_backendOf (hc : c.Scoped) {node : SnapshotNode} (hnode : node ∈ c.snapshot.actionable) :
    ∃ reference backend, node.reference = some reference ∧ c.backendOf reference = some backend := by
  obtain ⟨hnode, hactionable⟩ := List.mem_filter.1 hnode
  obtain ⟨reference, hreference⟩ := Option.isSome_iff_exists.1 ((hc.actionable node hnode).symm.trans hactionable)
  have hmem : reference ∈ c.published.map Prod.fst := by
    rw [← hc.references]
    exact List.mem_filterMap.2 ⟨node, hnode, hreference⟩
  obtain ⟨entry, hentry, hfst⟩ := List.mem_map.1 hmem
  obtain ⟨found, hfound⟩ := Option.isSome_iff_exists.1
    (List.find?_isSome.2 ⟨entry, hentry, by simpa using hfst⟩ : (c.published.find? (·.1 = reference)).isSome = true)
  exact ⟨reference, found.2, hreference, by simp [Capture.backendOf, hfound]⟩

/-- Two snapshots of one generation that show the same content list the same references, when no backend node of it was
gone in between. -/
theorem listed_eq (hs : s.Sound) (ho : s.Ordered) (hc : c ∈ s.captures) (hc' : c' ∈ s.captures)
    (hgeneration : ofGeneration c.target c.snapshot.generation c' = true) (hcontent : c.content = c'.content)
    (hbetween : ∀ shown ∈ c.content, ∀ backend ∈ shown.identity, ShownBetween s.captures c c' backend) :
    c.listed = c'.listed := by
  have hscoped := hs.captured c hc
  have hscoped' := hs.captured c' hc'
  have hpairs : List.Forall₂ (fun node node' : SnapshotNode =>
      (⟨node.reference.bind c.backendOf, node.role, node.name, node.value, node.properties⟩ : Shown Int) =
        ⟨node'.reference.bind c'.backendOf, node'.role, node'.name, node'.value, node'.properties⟩)
      c.snapshot.actionable c'.snapshot.actionable := by
    unfold Capture.content Capture.shown at hcontent
    rwa [← List.forall₂_eq_eq_eq, List.forall₂_map_left_iff, List.forall₂_map_right_iff] at hcontent
  unfold Capture.listed Capture.shown
  rw [← List.forall₂_eq_eq_eq, List.forall₂_map_left_iff, List.forall₂_map_right_iff]
  obtain ⟨hlength, hzip⟩ := List.forall₂_iff_zip.1 hpairs
  refine List.forall₂_iff_zip.2 ⟨hlength, fun {node node'} hmem => ?_⟩
  obtain ⟨hnode, hnode'⟩ := List.of_mem_zip hmem
  obtain ⟨reference, b, hreference, hb⟩ := exists_backendOf hscoped hnode
  obtain ⟨reference', b', hreference', hb'⟩ := exists_backendOf hscoped' hnode'
  have hsame := hzip hmem
  simp only [hreference, hreference', Option.bind_some, hb, hb', Shown.mk.injEq, Option.some.injEq] at hsame ⊢
  obtain ⟨rfl, hrest⟩ := hsame
  refine ⟨?_, hrest⟩
  -- the two references stand for one backend node, which has kept its identity
  have hentry := mem_published_of_backendOf hb
  have hentry' := mem_published_of_backendOf hb'
  have hshown : ShownBetween s.captures c c' b := by
    refine hbetween _ (List.mem_map_of_mem hnode) b ?_
    simp [hreference, hb]
  have hid : reference.nodeId = reference'.nodeId :=
    identity_of_shownBetween ho hgeneration hshown (hscoped.backed _ hentry) (hscoped'.backed _ hentry')
  obtain ⟨htarget, hgen⟩ := hscoped.published _ hentry
  obtain ⟨htarget', hgen'⟩ := hscoped'.published _ hentry'
  obtain ⟨hsameTarget, hsameGeneration⟩ := ofGeneration_eq_true.1 hgeneration
  cases reference
  cases reference'
  simp_all

/-! ### Sessions -/

variable {t : Session} {trace : List (Session × SessionInput × Unit)}

/-- The condition of a response: when the snapshot has the attachment and the generation of the one observed before it, the
page has the same content in both, and no backend node of it was gone in between. -/
def Steady (t : Session) : SessionInput → Prop
  | .control input => NoReturn t.control input
  | .respond index detail _ => ∀ c ∈ t.control.captures[index]?, ∀ earlier ∈ t.observed c.target,
    detail ≠ .full → c.snapshot.context.attachmentGeneration = earlier.snapshot.context.attachmentGeneration →
    c.snapshot.generation = earlier.snapshot.generation →
    earlier.content = c.content ∧
      ∀ shown ∈ earlier.content, ∀ backend ∈ shown.identity, ShownBetween t.control.captures earlier c backend

/-- The memory is of the snapshots that were observed last, and every report was true. -/
structure Session.Sound (t : Session) : Prop where
  control : t.control.Sound
  ordered : t.control.Ordered
  observed : ∀ targetId, ∀ c ∈ t.observed targetId, c ∈ t.control.captures ∧ c.target = targetId
  memory : ∀ targetId, t.memory.entries targetId =
    (t.observed targetId).map fun c => (c.snapshot.context.attachmentGeneration, c.snapshot.generation)
  reports : ∀ report ∈ t.reports, report.1.listed = report.2.listed

variable {detail : ResponseDetail} {presentation : Presentation}

theorem respond_observed :
    (t.respond c detail presentation).observed = Function.update t.observed c.target (some c) := rfl

theorem respond_entries :
    (t.respond c detail presentation).memory.entries = Function.update t.memory.entries c.target
      (some (c.snapshot.context.attachmentGeneration, c.snapshot.generation)) := rfl

theorem captures_subset (input : Input) : s.captures ⊆ (s.next input).captures := by
  cases input with
  | capture sessionId bound frame replies =>
    rcases capture_cases (s := s) sessionId bound frame replies with heq | heq | ⟨_, _, _, _, _, _, -, -, heq⟩ <;> rw [heq]
    · exact List.Subset.refl _
    · exact List.Subset.refl _
    · exact List.subset_cons_self _ _
  | invalidateTarget targetId => exact List.Subset.refl _
  | retainTargets live => exact List.Subset.refl _

theorem report_of_respond {report : Capture × Capture} (hmemory : ∀ targetId, t.memory.entries targetId =
      (t.observed targetId).map fun c => (c.snapshot.context.attachmentGeneration, c.snapshot.generation))
    (h : report ∈ (t.respond c detail presentation).reports) :
    report ∈ t.reports ∨ (report.2 = c ∧ t.observed c.target = some report.1 ∧ detail ≠ .full ∧
      c.snapshot.context.attachmentGeneration = report.1.snapshot.context.attachmentGeneration ∧
      c.snapshot.generation = report.1.snapshot.generation) := by
  rcases List.mem_append.1 h with h | h
  · split at h
    · rename_i projection earlier hproject hearlier
      split at h
      · rename_i hunchanged
        obtain rfl := List.mem_singleton.1 h
        cases projection with
        | targets => cases hunchanged
        | unchanged generation targetCount omissions =>
          obtain ⟨hnovelty, hdetail, -, -⟩ := unchanged_of_projectSnapshot hproject
          have hentries : t.memory.entries c.target =
              some (c.snapshot.context.attachmentGeneration, c.snapshot.generation) := by
            by_contra hne
            exact absurd hnovelty (by simp [show c.snapshot.context.targetId = c.target from rfl, hne])
          rw [hmemory, show t.observed c.target = some earlier from hearlier] at hentries
          obtain ⟨hattachment, hgeneration⟩ := Prod.mk.inj (Option.some.inj hentries)
          exact .inr ⟨rfl, hearlier, hdetail, hattachment.symm, hgeneration.symm⟩
      · cases h
    · cases h
  · exact .inl h

theorem Session.Sound.respond (ht : t.Sound) {index : Nat} (hc : t.control.captures[index]? = some c)
    (hguard : Steady t (.respond index detail presentation)) : (t.respond c detail presentation).Sound := by
  have hmem : c ∈ t.control.captures := List.mem_of_getElem? hc
  refine ⟨ht.control, ht.ordered, fun targetId k hk => ?_, fun targetId => ?_, fun report hreport => ?_⟩
  · by_cases heq : targetId = c.target
    · subst heq
      rw [respond_observed, Function.update_self] at hk
      obtain rfl : c = k := Option.some.inj hk
      exact ⟨hmem, rfl⟩
    · rw [respond_observed, Function.update_of_ne heq] at hk
      exact ht.observed targetId k hk
  · by_cases heq : targetId = c.target
    · subst heq
      rw [respond_observed, respond_entries, Function.update_self, Function.update_self]
      rfl
    · rw [respond_observed, respond_entries, Function.update_of_ne heq, Function.update_of_ne heq]
      exact ht.memory targetId
  · rcases report_of_respond ht.memory hreport with hold | ⟨rfl, hearlier, hdetail, hattachment, hgeneration⟩
    · exact ht.reports report hold
    · obtain ⟨hcontent, hbetween⟩ := hguard _ hc report.1 hearlier hdetail hattachment hgeneration
      obtain ⟨hearlierMem, htarget⟩ := ht.observed _ _ hearlier
      exact listed_eq ht.control ht.ordered hearlierMem hmem (ofGeneration_eq_true.2 ⟨htarget.symm, hgeneration⟩) hcontent
        hbetween

/-- **An unchanged report is true in every run whose responses meet the condition.** -/
theorem reports_true (h : Run toolSession Steady trace t) : ∀ report ∈ t.reports, report.1.listed = report.2.listed := by
  have hsound : t.Sound := by
    refine h.invariant (P := Session.Sound) ?_ ?_
    · rintro _ rfl
      refine ⟨sound_of_run (.start rfl), ?_, nofun, fun _ => rfl, nofun⟩
      exact ⟨fun _ _ => .nil, nofun⟩
    · intro t input _ t' ht hguard hstep
      cases input with
      | control input =>
        cases hstep
        refine ⟨ht.control.next hguard, ht.ordered.next ht.control hguard, fun targetId c hc => ?_, ht.memory, ht.reports⟩
        exact ⟨captures_subset input (ht.observed targetId c hc).1, (ht.observed targetId c hc).2⟩
      | respond index detail presentation =>
        obtain ⟨c, hc, rfl⟩ := Option.map_eq_some_iff.1 hstep
        exact ht.respond hc hguard
  exact hsound.reports

def plainPresentation : Presentation := ⟨none, fun _ => 1, fun _ _ => 1⟩

def capturedButton : Session := { Session.initial with control := State.initial.next (captureButton 10 "Save") }

theorem steady_again {index : Nat} {detail' : ResponseDetail} {presentation' : Presentation}
    (hc : t.control.captures[index]? = some c) :
    Steady (t.respond c detail presentation) (.respond index detail' presentation') := by
  intro c' hc' earlier hearlier _ _ _
  obtain rfl : c = c' := Option.some.inj (hc.symm.trans hc')
  rw [respond_observed, Function.update_self] at hearlier
  obtain rfl : c = earlier := Option.some.inj hearlier
  exact ⟨rfl, fun _ _ _ _ => .inl rfl⟩

theorem reports_true_again : ∃ c, capturedButton.control.captures = [c] ∧
    ∀ report ∈ ((capturedButton.respond c .concise plainPresentation).respond c .concise plainPresentation).reports,
      report.1.listed = report.2.listed := by
  obtain ⟨c, hc⟩ : ∃ c, capturedButton.control.captures = [c] := List.length_eq_one_iff.1 (by decide +kernel)
  refine ⟨c, hc, ?_⟩
  have hget : capturedButton.control.captures[0]? = some c := by rw [hc]; rfl
  have hguard : Steady .initial (.control (captureButton 10 "Save")) := Or.inr nofun
  have hrespond : ∀ t : Session, t.control = capturedButton.control →
      t.exec (.respond 0 .concise plainPresentation) = some (t.respond c .concise plainPresentation) := fun t ht => by
    rw [Session.exec, ht, hget]
    rfl
  have hcaptured : Run toolSession Steady _ capturedButton := .next (o := ()) (.start rfl) hguard rfl
  have hfirst : Steady capturedButton (.respond 0 .concise plainPresentation) := nofun
  have hpresented := Run.next (o := ()) hcaptured hfirst (hrespond _ rfl)
  exact reports_true (.next (o := ()) hpresented (steady_again hget) (hrespond _ rfl))

/-- A page that renames a button in place is reported as unchanged. -/
theorem renamed_button_unchanged :
    ¬ ∀ t, toolSession.Reachable t → ∀ report ∈ t.reports, report.1.listed = report.2.listed := by
  intro hall
  obtain ⟨t, ht, report, hreport, hne⟩ := exists_reachable (· = Session.initial) Session.exec .initial rfl
    [.control (captureButton 10 "Save"), .respond 0 .concise plainPresentation,
      .control (captureButton 10 "Delete"), .respond 0 .concise plainPresentation]
    (fun t => ∃ report ∈ t.reports, report.1.listed ≠ report.2.listed) (by decide +kernel)
  exact hne (hall t ht report hreport)

end Krometrail.Control
