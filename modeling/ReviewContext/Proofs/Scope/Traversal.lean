import ReviewContext.Scope.Lookup
import ReviewContext.Proofs.Syntax.Nested

/-! Traversals: nodes are visited off a stack, and one that does not contain the rows keeps all
below it off the stack. The picks left at the end are those made of the nodes in document order. -/
namespace ReviewContext

open Syntax (Rows Profile Tree)

structure Picks where
  definition : Option Located := none
  block : Option Located := none

namespace Picks

def weigh (profile : Profile) (source : String) (picks : Picks) (located : Located) : Picks :=
  if profile.isDefinition located.tree then
    { picks with definition := Located.smaller (Located.isScope source) picks.definition located }
  else if profile.isBlock located.tree then
    { picks with block := Located.smaller (Located.isScope source) picks.block located }
  else picks

/-- A definition goes before a block of any size. -/
def chosen? (picks : Picks) : Option (ScopeKind × Located) :=
  match picks.definition with
  | some located => some (.definition, located)
  | none => picks.block.map (.block, ·)

end Picks

namespace Located

def below (located : Located) : List Located :=
  located.tree.children.map fun child => ⟨child, located.tree :: located.above⟩

def load (stack : List Located) : Nat := (stack.flatMap fun located => located.tree.nodes).length

theorem load_cons (located : Located) (stack : List Located) :
    load (located :: stack) = load located.below + 1 + load stack := by
  obtain ⟨⟨label, children⟩, above⟩ := located
  rw [load, load, load, below, Tree.children, List.flatMap_cons, List.flatMap_map,
    List.length_append, Tree.nodes, Tree.nodesOfAll_eq_flatMap, List.length_cons]

theorem load_append (first second : List Located) :
    load (first ++ second) = load first + load second := by
  simp [load]

/-- Visits the nodes on a stack. The children of a node that contains the rows go on top of it. -/
def visit (profile : Profile) (source : String) (rows : Rows) (picks : Picks) : List Located → Picks
  | [] => picks
  | located :: stack =>
    if located.tree.containsRows rows then
      visit profile source rows (picks.weigh profile source located) (located.below ++ stack)
    else visit profile source rows picks stack
termination_by stack => load stack
decreasing_by
  · rw [load_append, load_cons]
    omega
  · rw [load_cons]
    omega

theorem aroundIn_eq_flatMap (rows : Rows) (above trees : List Tree) :
    aroundIn rows above trees = trees.flatMap (around rows above) := by
  induction trees with
  | nil => rw [aroundIn, List.flatMap_nil]
  | cons tree trees ih => rw [aroundIn, List.flatMap_cons, ih]

theorem around_eq (rows : Rows) (located : Located) :
    around rows located.above located.tree =
      if located.tree.containsRows rows then
        located :: located.below.flatMap fun inner => around rows inner.above inner.tree
      else [] := by
  obtain ⟨⟨label, children⟩, above⟩ := located
  rw [around, aroundIn_eq_flatMap, below, List.flatMap_map]
  rfl

theorem smaller_and (kind good : Located → Bool) (pick : Option Located) (located : Located) :
    smaller (fun node => kind node && good node) pick located =
      if kind located then smaller good pick located else pick := by
  unfold smaller
  cases own : kind located <;> simp [own]

section

variable (profile : Profile) (source : String)

/-- The stack stands for the nodes around the rows in its trees, in document order. -/
theorem visit_eq_foldl (rows : Rows) (picks : Picks) (stack : List Located) :
    visit profile source rows picks stack =
      (stack.flatMap fun located => around rows located.above located.tree).foldl
        (Picks.weigh profile source) picks := by
  fun_induction visit profile source rows picks stack with
  | case1 picks => rfl
  | case2 picks located stack contains ih =>
    rw [ih, List.flatMap_cons, around_eq, if_pos contains, List.flatMap_append, List.cons_append,
      List.foldl_cons]
  | case3 picks located stack apart ih =>
    rw [ih, List.flatMap_cons, around_eq, if_neg apart, List.nil_append]

theorem foldl_weigh (picks : Picks) (nodes : List Located) :
    nodes.foldl (Picks.weigh profile source) picks =
      ⟨nodes.foldl (smaller fun node => profile.isDefinition node.tree && node.isScope source)
          picks.definition,
        nodes.foldl (smaller fun node => profile.isBlock node.tree && node.isScope source)
          picks.block⟩ := by
  induction nodes generalizing picks with
  | nil => rfl
  | cons node nodes ih =>
    rw [List.foldl_cons, ih, List.foldl_cons, List.foldl_cons,
      smaller_and fun node => profile.isDefinition node.tree,
      smaller_and fun node => profile.isBlock node.tree, Picks.weigh]
    cases definition : profile.isDefinition node.tree with
    | true => simp [Profile.isBlock, definition]
    | false => cases block : profile.isBlock node.tree <;> simp

theorem chosen?_visit (tree : Tree) (rows : Rows) :
    (visit profile source rows {} [⟨tree, []⟩]).chosen? = pick? profile source tree rows := by
  rw [visit_eq_foldl, foldl_weigh, List.flatMap_singleton]
  rfl

end

end Located

end ReviewContext
