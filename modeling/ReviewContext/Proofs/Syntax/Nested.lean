import ReviewContext.Syntax.Tree

/-! Nested trees: each node holds the rows of its children, and with them those of all nodes below
it. -/
namespace ReviewContext.Syntax.Tree

theorem nodesOfAll_eq_flatMap (trees : List Tree) : nodesOfAll trees = trees.flatMap nodes := by
  induction trees with
  | nil => rw [nodesOfAll, List.flatMap_nil]
  | cons tree trees ih => rw [nodesOfAll, List.flatMap_cons, ih]

def Holds (outer inner : Tree) : Prop :=
  outer.label.startRow ≤ inner.label.startRow ∧ inner.label.endRow ≤ outer.label.endRow

def Nested (tree : Tree) : Prop := ∀ node ∈ tree.nodes, ∀ child ∈ node.children, node.Holds child

theorem Holds.trans {outer middle inner : Tree} (first : outer.Holds middle)
    (second : middle.Holds inner) :
    outer.Holds inner := by
  obtain ⟨start, stop⟩ := first
  exact ⟨Int.le_trans start second.1, Int.le_trans second.2 stop⟩

theorem Holds.containsRows {outer inner : Tree} {rows : Rows} (holds : outer.Holds inner)
    (contains : inner.containsRows rows = true) : outer.containsRows rows = true := by
  obtain ⟨start, stop⟩ := holds
  simp only [Tree.containsRows, Bool.and_eq_true, decide_eq_true_eq] at contains ⊢
  omega

theorem nested_node_iff {label : Label} {children : List Tree} :
    (node label children).Nested ↔
      ∀ child ∈ children, (node label children).Holds child ∧ child.Nested := by
  simp only [Nested, nodes, nodesOfAll_eq_flatMap, List.forall_mem_cons, List.forall_mem_flatMap]
  constructor
  · rintro ⟨own, below⟩ child inside
    exact ⟨own child inside, below child inside⟩
  · intro each
    exact ⟨fun child inside => (each child inside).1, fun child inside => (each child inside).2⟩

mutual

theorem holds_of_mem_nodes :
    (tree : Tree) → tree.Nested → ∀ inner ∈ tree.nodes, tree.Holds inner
  | .node label children, nested, inner, inside => by
    rw [nested_node_iff] at nested
    rw [nodes, List.mem_cons] at inside
    rcases inside with rfl | inside
    · exact ⟨Int.le_refl _, Int.le_refl _⟩
    · obtain ⟨child, among, holds⟩ :=
        holds_of_mem_nodesOfAll children (fun child among => (nested child among).2) inner inside
      exact (nested child among).1.trans holds

theorem holds_of_mem_nodesOfAll :
    (trees : List Tree) → (∀ tree ∈ trees, tree.Nested) →
      ∀ inner ∈ nodesOfAll trees, ∃ tree ∈ trees, tree.Holds inner
  | [], _, inner, inside => by
    rw [nodesOfAll] at inside
    contradiction
  | tree :: rest, nested, inner, inside => by
    rw [List.forall_mem_cons] at nested
    rw [nodesOfAll, List.mem_append] at inside
    rcases inside with inside | inside
    · exact ⟨tree, List.mem_cons_self, holds_of_mem_nodes tree nested.1 inner inside⟩
    · obtain ⟨other, among, holds⟩ := holds_of_mem_nodesOfAll rest nested.2 inner inside
      exact ⟨other, List.mem_cons_of_mem _ among, holds⟩

end

end ReviewContext.Syntax.Tree
