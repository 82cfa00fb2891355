import Krometrail.Control.SnapshotRegistry

/-!
# Snapshots that are accepted

A decoded list of nodes grows one node at a time, each under a node that is there already.  `PageSnapshot::new` accepts such a
list exactly when the identities of its nodes differ and none of its roles is blank (`new_eq_ok`).
-/

namespace Krometrail.Control

open Results

/-- The parent and the depth of a node behind the nodes of a list. -/
def Under (nodes : List SnapshotNode) (parent : Option SnapshotNodeId) (depth : Nat) : Prop :=
  (parent = none ∧ depth = 0) ∨ ∃ node ∈ nodes, parent = some node.id ∧ depth = node.depth + 1 ∧ depth < 2 ^ 16

/-- The nodes are in scope, and each of them is behind its parent. -/
inductive Grown (scope : Scope) : List SnapshotNode → Prop
  | nil : Grown scope []
  | snoc {nodes : List SnapshotNode} {node : SnapshotNode} (grown : Grown scope nodes) (under : Under nodes node.parent node.depth)
      (referenced : node.actionable = node.reference.isSome)
      (inScope : ∀ reference ∈ node.reference, reference = ⟨scope.targetId, scope.generation, node.id⟩)
      (named : ∀ property ∈ node.properties, property.name ∈ accessibleProperties) : Grown scope (nodes ++ [node])

variable {scope : Scope} {context : ObservationContext} {nodes nodes' : List SnapshotNode} {node : SnapshotNode}
  {parent : Option SnapshotNodeId} {depth : Nat} {seen seen' : SnapshotNodeId → Option Nat}

theorem Under.mono (h : Under nodes parent depth) (hsubset : nodes ⊆ nodes') : Under nodes' parent depth := by
  rcases h with h | ⟨node, hnode, h⟩
  · exact .inl h
  · exact .inr ⟨node, hsubset hnode, h⟩

theorem not_isBlank_of_mem {name : String} (h : name ∈ accessibleProperties) : isBlank name = false := by
  have hall : ∀ name ∈ accessibleProperties, isBlank name = false := by decide +kernel
  exact hall name h

/-- The depths that the constructor has noted are those of the nodes. -/
structure Noted (nodes : List SnapshotNode) (seen : SnapshotNodeId → Option Nat) : Prop where
  depth : ∀ node ∈ nodes, seen node.id = some node.depth
  listed : ∀ id, (seen id).isSome → id ∈ nodes.map SnapshotNode.id

theorem Noted.snoc (h : Noted nodes seen) (hnew : node.id ∉ nodes.map SnapshotNode.id) :
    Noted (nodes ++ [node]) (Function.update seen node.id (some node.depth)) where
  depth n hn := by
    rcases List.mem_append.1 hn with hn | hn
    · have hne : n.id ≠ node.id := fun heq => hnew (heq ▸ List.mem_map_of_mem hn)
      rw [Function.update_of_ne hne, h.depth n hn]
    · rw [List.mem_singleton.1 hn, Function.update_self]
  listed id hid := by
    rw [Function.update_apply] at hid
    split at hid
    · rename_i heq
      simp [heq]
    · simp [h.listed id hid]

theorem checkParent_eq_ok (h : Noted (nodes ++ [node]) seen) (hunder : Under nodes node.parent node.depth) :
    checkParent seen node = .ok () := by
  unfold checkParent
  rcases hunder with ⟨hparent, hdepth⟩ | ⟨p, hp, hparent, hdepth, hlt⟩
  · rw [hparent]
    simp [refuse, hdepth]
  · rw [hparent]
    have hseen := h.depth p (List.mem_append_left _ hp)
    have hmin : node.depth = min (p.depth + 1) (2 ^ 16 - 1) := by omega
    simp only [hseen, okOr]
    exact refuse_eq_ok.2 (not_not.2 hmin)

theorem checkNode_eq_ok (h : Noted nodes seen) (hunder : Under nodes node.parent node.depth)
    (hreferenced : node.actionable = node.reference.isSome)
    (hscope : ∀ reference ∈ node.reference, reference = ⟨context.targetId, scope.generation, node.id⟩)
    (hnamed : ∀ property ∈ node.properties, property.name ∈ accessibleProperties) :
    checkNode context scope.generation seen node = .ok seen' ↔
      isBlank node.role = false ∧ node.id ∉ nodes.map SnapshotNode.id ∧
        seen' = Function.update seen node.id (some node.depth) := by
  have hlisted : (seen node.id).isSome ↔ node.id ∈ nodes.map SnapshotNode.id := by
    refine ⟨h.listed node.id, fun hid => ?_⟩
    obtain ⟨n, hn, heq⟩ := List.mem_map.1 hid
    rw [← heq, h.depth n hn]
    rfl
  have hproperties : ¬ (node.properties.any fun property => isBlank property.name) = true := by
    simp only [List.any_eq_true, not_exists, not_and, Bool.not_eq_true]
    exact fun property hproperty => not_isBlank_of_mem (hnamed property hproperty)
  have hreference : ¬ ∃ reference ∈ node.reference, reference ≠ ⟨context.targetId, scope.generation, node.id⟩ := by
    rintro ⟨reference, hmem, hne⟩
    exact hne (hscope reference hmem)
  unfold checkNode
  simp only [bind_eq_ok, refuse_eq_ok, pure_eq_ok, exists_const, hlisted]
  constructor
  · rintro ⟨hrole, hnew, _, -, -, -, -, rfl⟩
    exact ⟨by simpa using hrole, hnew, rfl⟩
  · rintro ⟨hrole, hnew, rfl⟩
    exact ⟨by simpa using hrole, hnew, (), checkParent_eq_ok (h.snoc hnew) hunder, not_not.2 hreferenced, hreference,
      hproperties, rfl⟩

theorem checkNodes_eq_ok (hcontext : context.targetId = scope.targetId) (h : Grown scope nodes) :
    (∀ seen, nodes.foldlM (checkNode context scope.generation) (fun _ => none) = .ok seen → Noted nodes seen) ∧
      ((∃ seen, nodes.foldlM (checkNode context scope.generation) (fun _ => none) = .ok seen) ↔
        (nodes.map SnapshotNode.id).Nodup ∧ ∀ node ∈ nodes, isBlank node.role = false) := by
  induction h with
  | nil =>
    refine ⟨fun seen h => ?_, by simp⟩
    obtain rfl : (fun _ => none) = seen := by simpa using h
    exact ⟨fun _ h => absurd h List.not_mem_nil, nofun⟩
  | @snoc nodes node hgrown hunder hreferenced hscope hnamed ih =>
    rw [← hcontext] at hscope
    have hstep {seen seen' : SnapshotNodeId → Option Nat} (hnoted : Noted nodes seen) :
        checkNode context scope.generation seen node = .ok seen' ↔ _ :=
      checkNode_eq_ok hnoted hunder hreferenced hscope hnamed
    simp only [List.foldlM_append, List.foldlM_cons, List.foldlM_nil, bind_eq_ok, pure_eq_ok, exists_eq_right]
    constructor
    · rintro seen ⟨before, hbefore, hcheck⟩
      have hnoted := ih.1 before hbefore
      obtain ⟨-, hnew, rfl⟩ := (hstep hnoted).1 hcheck
      exact hnoted.snoc hnew
    · rw [List.map_append, List.map_singleton, List.nodup_append_comm, List.singleton_append, List.nodup_cons]
      simp only [List.forall_mem_append, List.forall_mem_singleton]
      constructor
      · rintro ⟨seen, before, hbefore, hcheck⟩
        obtain ⟨hrole, hnew, -⟩ := (hstep (ih.1 before hbefore)).1 hcheck
        obtain ⟨hnodup, hroles⟩ := ih.2.1 ⟨before, hbefore⟩
        exact ⟨⟨hnew, hnodup⟩, hroles, hrole⟩
      · rintro ⟨⟨hnew, hnodup⟩, hroles, hrole⟩
        obtain ⟨before, hbefore⟩ := ih.2.2 ⟨hnodup, hroles⟩
        exact ⟨_, before, hbefore, (hstep (ih.1 before hbefore)).2 ⟨hrole, hnew, rfl⟩⟩

theorem new_eq_ok (omitted : Nat) (hcontext : context.targetId = scope.targetId) (h : Grown scope nodes) :
    (∃ snapshot, PageSnapshot.new context scope.generation nodes omitted = .ok snapshot) ↔
      (nodes.map SnapshotNode.id).Nodup ∧ ∀ node ∈ nodes, isBlank node.role = false := by
  rw [← (checkNodes_eq_ok hcontext h).2]
  unfold PageSnapshot.new
  simp only [bind_eq_ok, pure_eq_ok]
  constructor
  · rintro ⟨_, seen, hseen, -⟩
    exact ⟨seen, hseen⟩
  · rintro ⟨seen, hseen⟩
    exact ⟨_, seen, hseen, rfl⟩

end Krometrail.Control
