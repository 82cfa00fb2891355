import Mathlib

/-!
# Forests in which parents come before children

A forest is the list of the parents of its nodes.  What is computed from the leaves up is a recursion over the children
(`fold`), and a sweep of a table from the last node to the first computes it (`sweep_getElem?`).  A node weighs no more
than all the nodes from it on (`weight_le`).
-/

/-- The parent of each node, if it has one, is an earlier node. -/
structure Forest where
  parents : List (Option Nat)
  before : ∀ node parent : Nat, parents[node]? = some (some parent) → parent < node

namespace Forest

variable {α : Type*} (forest : Forest)

def size : Nat := forest.parents.length

/-- The children of a node, in their order. -/
def children (node : Nat) : List Nat :=
  (List.range forest.size).filter fun child => forest.parents[child]? = some (some node)

variable {forest} {node child : Nat}

theorem mem_children : child ∈ forest.children node ↔ forest.parents[child]? = some (some node) := by
  simp only [children, List.mem_filter, List.mem_range, decide_eq_true_eq, and_iff_right_iff_imp]
  intro h
  exact (List.getElem?_eq_some_iff.1 h).1

theorem lt_of_mem (h : child ∈ forest.children node) : node < child := forest.before child node (mem_children.1 h)

theorem lt_size_of_mem (h : child ∈ forest.children node) : child < forest.size :=
  (List.getElem?_eq_some_iff.1 (mem_children.1 h)).1

theorem nodup_children (forest : Forest) (node : Nat) : (forest.children node).Nodup := List.nodup_range.filter _

/-- What `f` makes of a node and of what it has made of the children. -/
def fold (forest : Forest) (f : Nat → List α → α) (node : Nat) : α :=
  f node ((forest.children node).attach.map fun child => fold forest f child.1)
termination_by forest.size - node
decreasing_by
  have hlt := lt_of_mem child.2
  have hsize := lt_size_of_mem child.2
  omega

theorem fold_eq (f : Nat → List α → α) (node : Nat) :
    forest.fold f node = f node ((forest.children node).map (forest.fold f)) := by
  rw [fold, List.attach_map_val (f := forest.fold f)]

/-- What holds of a node if it holds of its children holds of every node. -/
theorem induction {motive : Nat → Prop} (forest : Forest)
    (step : ∀ node, (∀ child ∈ forest.children node, motive child) → motive node) (node : Nat) : motive node := by
  refine step node fun child hchild => ?_
  exact induction forest step child
termination_by forest.size - node
decreasing_by
  have hlt := lt_of_mem hchild
  have hsize := lt_size_of_mem hchild
  omega

/-- What a node weighs with all its descendants. -/
def weight (forest : Forest) (own : Nat → Nat) (node : Nat) : Nat :=
  forest.fold (fun node weights => own node + weights.sum) node

theorem weight_eq (own : Nat → Nat) (node : Nat) :
    forest.weight own node = own node + ((forest.children node).map (forest.weight own)).sum :=
  fold_eq ..

/-- The nodes from `start` on whose parent is not one of them. -/
def tops (forest : Forest) (start : Nat) : Finset Nat :=
  (Finset.range forest.size).filter fun node =>
    start ≤ node ∧ ∀ parent ∈ forest.parents[node]?.join, parent < start

theorem mem_tops {start : Nat} : node ∈ forest.tops start ↔
    node < forest.size ∧ start ≤ node ∧ ∀ parent, forest.parents[node]? = some (some parent) → parent < start := by
  simp only [tops, Finset.mem_filter, Finset.mem_range, Option.mem_def, Option.join_eq_some_iff]

/-- The tops from a node on are the node and the tops behind it that are not its children. -/
theorem tops_eq (h : node < forest.size) :
    forest.tops node = insert node (forest.tops (node + 1) \ (forest.children node).toFinset) := by
  ext other
  simp only [Finset.mem_insert, Finset.mem_sdiff, mem_tops, List.mem_toFinset, mem_children]
  constructor
  · rintro ⟨hsize, hle, hparent⟩
    rcases hle.eq_or_lt with rfl | hlt
    · exact .inl rfl
    · refine .inr ⟨⟨hsize, hlt, fun parent hp => (hparent parent hp).trans (Nat.lt_succ_self _)⟩, fun hchild => ?_⟩
      exact absurd (hparent node hchild) (lt_irrefl _)
  · rintro (rfl | ⟨⟨hsize, hle, hparent⟩, hchild⟩)
    · exact ⟨h, le_rfl, forest.before _⟩
    · refine ⟨hsize, Nat.le_of_succ_le hle, fun parent hp => ?_⟩
      rcases (Nat.lt_succ_iff.1 (hparent parent hp)).eq_or_lt with rfl | hlt
      · exact absurd hp hchild
      · exact hlt

theorem children_subset_tops (forest : Forest) (node : Nat) : (forest.children node).toFinset ⊆ forest.tops (node + 1) := by
  intro child hchild
  rw [List.mem_toFinset] at hchild
  refine mem_tops.2 ⟨lt_size_of_mem hchild, lt_of_mem hchild, fun parent hp => ?_⟩
  obtain rfl : parent = node := by simpa [mem_children.1 hchild, eq_comm] using hp
  exact Nat.lt_succ_self _

/-- The tops weigh as much as all the nodes from `start` on. -/
theorem sum_tops (own : Nat → Nat) {start : Nat} (h : start ≤ forest.size) :
    ∑ node ∈ forest.tops start, forest.weight own node = ∑ node ∈ Finset.Ico start forest.size, own node := by
  induction h using Nat.decreasingInduction with
  | self =>
    rw [Finset.Ico_self, Finset.sum_empty]
    refine Finset.sum_eq_zero fun node hnode => ?_
    obtain ⟨hlt, hle, -⟩ := mem_tops.1 hnode
    exact absurd hlt (not_lt.2 hle)
  | of_succ start h ih =>
    have hnode : start ∉ forest.tops (start + 1) \ (forest.children start).toFinset := fun hmem =>
      absurd (mem_tops.1 (Finset.mem_sdiff.1 hmem).1).2.1 (Nat.not_succ_le_self _)
    have hchildren : ((forest.children start).map (forest.weight own)).sum =
        ∑ child ∈ (forest.children start).toFinset, forest.weight own child :=
      (List.sum_toFinset _ (forest.nodup_children start)).symm
    have hsplit := Finset.sum_sdiff (f := forest.weight own) (children_subset_tops forest start)
    rw [tops_eq h, Finset.sum_insert hnode, weight_eq, hchildren, Finset.sum_eq_sum_Ico_succ_bot h, ← ih, ← hsplit]
    ring

theorem weight_le (own : Nat → Nat) (h : node < forest.size) :
    forest.weight own node ≤ ∑ node ∈ Finset.range forest.size, own node := by
  have htop : node ∈ forest.tops node := mem_tops.2 ⟨h, le_rfl, forest.before node⟩
  calc forest.weight own node
      ≤ ∑ node ∈ forest.tops node, forest.weight own node :=
        Finset.single_le_sum (f := forest.weight own) (fun _ _ => Nat.zero_le _) htop
    _ = ∑ node ∈ Finset.Ico node forest.size, own node := sum_tops own h.le
    _ ≤ ∑ node ∈ Finset.range forest.size, own node :=
        Finset.sum_le_sum_of_subset fun other hother => Finset.mem_range.2 (Finset.mem_Ico.1 hother).2

section

variable [Inhabited α] {combine : α → α → α} {table : List α}

/-- The children of a node are combined into its entry. -/
def gather (forest : Forest) (combine : α → α → α) (table : List α) (node : Nat) : List α :=
  (forest.children node).foldl (fun table child => table.modify node fun entry => combine entry table[child]!) table

/-- From the last node to the first. -/
def sweep (forest : Forest) (combine : α → α → α) (table : List α) : List α :=
  (List.range forest.size).reverse.foldl (forest.gather combine) table

theorem gather_eq (table : List α) (node : Nat) : forest.gather combine table node =
    table.modify node fun entry => (forest.children node).foldl (fun entry child => combine entry table[child]!) entry := by
  have hlt : ∀ child ∈ forest.children node, child ≠ node := fun child hchild => (lt_of_mem hchild).ne'
  unfold gather
  generalize forest.children node = children at hlt
  suffices h : ∀ f : α → α, children.foldl (fun table child => table.modify node fun entry => combine entry table[child]!)
      (table.modify node f) = table.modify node fun entry =>
        children.foldl (fun entry child => combine entry table[child]!) (f entry) by
    have hid := h id
    rwa [List.modify_id] at hid
  induction children with
  | nil => exact fun f => rfl
  | cons child children ih =>
    intro f
    have hne : child ≠ node := hlt child List.mem_cons_self
    have hget : (table.modify node f)[child]! = table[child]! := by
      simp [List.getElem!_eq_getElem?_getD, hne.symm]
    rw [List.foldl_cons, hget, List.modify_modify_eq, ih fun other hother => hlt other (List.mem_cons_of_mem _ hother)]
    rfl

theorem length_gather (table : List α) (node : Nat) : (forest.gather combine table node).length = table.length := by
  rw [gather_eq, List.length_modify]

theorem length_sweep (combine : α → α → α) (table : List α) : (forest.sweep combine table).length = table.length :=
  List.foldlRecOn _ _ (motive := fun later => List.length later = table.length) rfl fun later h node _ =>
    (length_gather later node).trans h

/-- What the sweep leaves at a node: its entry, with what it leaves at the children combined into it. -/
def swept (forest : Forest) (combine : α → α → α) (table : List α) (node : Nat) : α :=
  forest.fold (fun node entries => entries.foldl combine table[node]!) node

theorem swept_eq (node : Nat) : forest.swept combine table node =
    ((forest.children node).map (forest.swept combine table)).foldl combine table[node]! := fold_eq ..

theorem sweep_from (forest : Forest) {table : List α} (combine : α → α → α) (hlength : table.length = forest.size) {start : Nat} (h : start ≤ forest.size) :
    ∃ later, later.length = forest.size ∧
      forest.sweep combine table = (List.range start).reverse.foldl (forest.gather combine) later ∧
      ∀ node < forest.size, later[node]! = if start ≤ node then forest.swept combine table node else table[node]! := by
  induction h using Nat.decreasingInduction with
  | self => exact ⟨table, hlength, rfl, fun node hnode => by rw [if_neg (not_le.2 hnode)]⟩
  | of_succ start h ih =>
    obtain ⟨later, hlater, hsweep, hentries⟩ := ih
    refine ⟨forest.gather combine later start, by rw [length_gather, hlater], ?_, fun node hnode => ?_⟩
    · rw [hsweep, List.range_succ, List.reverse_append]
      rfl
    · have hchildren : (forest.children start).foldl (fun entry child => combine entry later[child]!) later[start]! =
          forest.swept combine table start := by
        rw [swept_eq, List.foldl_map, hentries start h, if_neg (Nat.not_succ_le_self _)]
        refine List.foldl_ext _ _ _ fun entry child hchild => ?_
        rw [hentries child (lt_size_of_mem hchild), if_pos (Nat.succ_le_of_lt (lt_of_mem hchild))]
      have hget : later[node]? = some later[node]! := by
        rw [List.getElem!_eq_getElem?_getD, List.getElem?_eq_getElem (hlater ▸ hnode)]
        rfl
      rw [gather_eq, List.getElem!_eq_getElem?_getD, List.getElem?_modify, hget]
      rcases lt_trichotomy node start with hlt | rfl | hlt
      · simpa [hlt.ne', not_le.2 hlt, not_le.2 (Nat.lt_succ_of_lt hlt)] using hentries node hnode
      · simpa using hchildren
      · simpa [hlt.ne, hlt.le, Nat.succ_le_of_lt hlt] using hentries node hnode

/-- The sweep leaves at each node what the recursion over the children makes of it. -/
theorem sweep_getElem (combine : α → α → α) (hlength : table.length = forest.size) (hnode : node < forest.size) :
    (forest.sweep combine table)[node]! = forest.swept combine table node := by
  obtain ⟨later, -, hsweep, hentries⟩ := sweep_from forest combine hlength (Nat.zero_le _)
  rw [hsweep]
  exact (hentries node hnode).trans (if_pos (Nat.zero_le _))

end

end Forest
