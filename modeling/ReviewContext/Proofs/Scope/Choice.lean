import Mathlib.Data.List.Induction
import ReviewContext.Syntax.Language
import ReviewContext.Proofs.Outcome
import ReviewContext.Proofs.Scope.Traversal

/-! Choices: in a tree whose nodes lie in one another the node picked for some rows is the first of
the smallest among all nodes of the tree that can be scopes around the rows, those that no traversal
looks at included. -/
namespace ReviewContext

open Syntax (Rows Profile Tree)

namespace Located

mutual

/-- All nodes of a tree in document order, each with the nodes above it. -/
def everywhere (above : List Tree) : Tree → List Located
  | .node label children =>
    ⟨.node label children, above⟩ :: everywhereIn (.node label children :: above) children

def everywhereIn (above : List Tree) : List Tree → List Located
  | [] => []
  | tree :: rest => everywhere above tree ++ everywhereIn above rest

end

mutual

theorem map_tree_everywhere (above : List Tree) :
    (tree : Tree) → (everywhere above tree).map Located.tree = tree.nodes
  | .node label children => by
    rw [everywhere, Tree.nodes, List.map_cons, map_tree_everywhereIn]

theorem map_tree_everywhereIn (above : List Tree) :
    (trees : List Tree) → (everywhereIn above trees).map Located.tree = Tree.nodesOfAll trees
  | [] => by rw [everywhereIn, Tree.nodesOfAll, List.map_nil]
  | tree :: rest => by
    rw [everywhereIn, Tree.nodesOfAll, List.map_append, map_tree_everywhere, map_tree_everywhereIn]

end

theorem mem_nodes_of_mem_everywhere {above : List Tree} {tree : Tree} {located : Located}
    (inside : located ∈ everywhere above tree) : located.tree ∈ tree.nodes := by
  rw [← map_tree_everywhere above]
  exact List.mem_map_of_mem inside

mutual

/-- Below a node that does not contain the rows none does, so that nothing is missed there. -/
theorem around_eq_filter (rows : Rows) (above : List Tree) :
    (tree : Tree) → tree.Nested →
      around rows above tree = (everywhere above tree).filter fun node =>
        node.tree.containsRows rows
  | .node label children, nested => by
    rw [around]
    split
    next contains =>
      have inner := aroundIn_eq_filter rows (.node label children :: above) children
        fun child inside => (Tree.nested_node_iff.mp nested child inside).2
      rw [everywhere, List.filter_cons, if_pos contains, inner]
    next apart =>
      symm
      rw [List.filter_eq_nil_iff]
      intro located inside contains
      have holds := Tree.holds_of_mem_nodes _ nested _ (mem_nodes_of_mem_everywhere inside)
      exact apart (holds.containsRows contains)

theorem aroundIn_eq_filter (rows : Rows) (above : List Tree) :
    (trees : List Tree) → (∀ tree ∈ trees, tree.Nested) →
      aroundIn rows above trees = (everywhereIn above trees).filter fun node =>
        node.tree.containsRows rows
  | [], _ => by rw [aroundIn, everywhereIn, List.filter_nil]
  | tree :: rest, nested => by
    rw [List.forall_mem_cons] at nested
    rw [aroundIn, everywhereIn, List.filter_append, around_eq_filter rows above tree nested.1,
      aroundIn_eq_filter rows above rest nested.2]

end

/-- Among the nodes of a list with a property none is smaller, and those before it are all
larger. -/
structure FirstSmallest (good : Located → Prop) (nodes : List Located)
    (located : Located) : Prop where
  own : good located
  least : ∀ other ∈ nodes, good other → located.tree.height ≤ other.tree.height
  first : ∃ before after, nodes = before ++ located :: after ∧
    ∀ other ∈ before, good other → located.tree.height < other.tree.height

theorem eq_or_mem_of_split {α : Type} {x y : α} {before after before' after' : List α}
    (same : before ++ x :: after = before' ++ y :: after') : x = y ∨ x ∈ before' ∨ y ∈ before := by
  induction before generalizing before' with
  | nil =>
    cases before' with
    | nil => exact .inl (List.cons.inj same).1
    | cons head before' => exact .inr (.inl ((List.cons.inj same).1 ▸ List.mem_cons_self))
  | cons head before ih =>
    cases before' with
    | nil => exact .inr (.inr ((List.cons.inj same).1 ▸ List.mem_cons_self))
    | cons head' before' =>
      exact (ih (List.cons.inj same).2).imp_right fun inside =>
        inside.imp (List.mem_cons_of_mem _) (List.mem_cons_of_mem _)

namespace FirstSmallest

variable {good : Located → Prop} {nodes : List Located} {located other : Located}

theorem mem (smallest : FirstSmallest good nodes located) : located ∈ nodes := by
  obtain ⟨before, after, rfl, -⟩ := smallest.first
  exact List.mem_append_right _ List.mem_cons_self

theorem eq (smallest : FirstSmallest good nodes located) (alike : FirstSmallest good nodes other) :
    located = other := by
  obtain ⟨before, after, split, first⟩ := smallest.first
  obtain ⟨before', after', split', first'⟩ := alike.first
  have low := smallest.least other alike.mem alike.own
  have low' := alike.least located smallest.mem smallest.own
  rcases eq_or_mem_of_split (split.symm.trans split') with same | early | early
  · exact same
  · have := first' located early smallest.own
    omega
  · have := first other early alike.own
    omega

theorem snoc_larger (smallest : FirstSmallest good nodes located)
    (larger : good other → located.tree.height ≤ other.tree.height) :
    FirstSmallest good (nodes ++ [other]) located := by
  obtain ⟨before, after, split, first⟩ := smallest.first
  refine ⟨smallest.own, ?_, before, after ++ [other], by rw [split]; simp, first⟩
  rw [List.forall_mem_append, List.forall_mem_singleton]
  exact ⟨smallest.least, larger⟩

theorem snoc_self (own : good other)
    (smaller : ∀ node ∈ nodes, good node → other.tree.height < node.tree.height) :
    FirstSmallest good (nodes ++ [other]) other := by
  refine ⟨own, ?_, nodes, [], rfl, smaller⟩
  rw [List.forall_mem_append, List.forall_mem_singleton]
  exact ⟨fun node inside kind => Int.le_of_lt (smaller node inside kind), fun _ => Int.le_refl _⟩

end FirstSmallest

def PickOf (good : Located → Bool) (nodes : List Located) : Option Located → Prop
  | none => ∀ node ∈ nodes, good node = false
  | some located => FirstSmallest (good · = true) nodes located

theorem PickOf.snoc {good : Located → Bool} {nodes : List Located} {pick : Option Located}
    (picked : PickOf good nodes pick) (node : Located) :
    PickOf good (nodes ++ [node]) (smaller good pick node) := by
  unfold smaller
  cases pick with
  | none =>
    rw [Option.all_none, Bool.true_and]
    split
    next own =>
      exact .snoc_self own fun other inside kind => absurd kind (by simp [picked other inside])
    next bad =>
      exact List.forall_mem_append.mpr ⟨picked,
        List.forall_mem_singleton.mpr (Bool.eq_false_iff.mpr bad)⟩
  | some best =>
    rw [Option.all_some]
    split
    next better =>
      rw [Bool.and_eq_true, decide_eq_true_eq] at better
      exact .snoc_self better.2 fun other inside kind =>
        Int.lt_of_lt_of_le better.1 (picked.least other inside kind)
    next worse =>
      rw [Bool.and_eq_true, decide_eq_true_eq] at worse
      exact picked.snoc_larger fun own => Int.not_lt.mp fun lower => worse ⟨lower, own⟩

theorem pickOf_smallest? (good : Located → Bool) (nodes : List Located) :
    PickOf good nodes (smallest? good nodes) := by
  induction nodes using List.reverseRecOn with
  | nil => exact List.forall_mem_nil _
  | append_singleton nodes node ih =>
    rw [smallest?, List.foldl_append]
    exact ih.snoc node

theorem smallest?_eq_some_iff {good : Located → Bool} {nodes : List Located} {located : Located} :
    smallest? good nodes = some located ↔ FirstSmallest (good · = true) nodes located := by
  have picked := pickOf_smallest? good nodes
  constructor
  · intro found
    rwa [found] at picked
  · intro smallest
    cases found : smallest? good nodes with
    | none =>
      rw [found] at picked
      exact absurd smallest.own (by simp [picked located smallest.mem])
    | some other =>
      rw [found] at picked
      exact congrArg some (picked.eq smallest)

theorem smallest?_eq_none_iff {good : Located → Bool} {nodes : List Located} :
    smallest? good nodes = none ↔ ∀ node ∈ nodes, good node = false := by
  have picked := pickOf_smallest? good nodes
  constructor
  · intro found
    rwa [found] at picked
  · intro none
    cases found : smallest? good nodes with
    | none => rfl
    | some other =>
      rw [found] at picked
      exact absurd picked.own (by simp [none other picked.mem])

theorem smallest?_around {tree : Tree} (nested : tree.Nested) (good : Located → Bool)
    (rows : Rows) :
    smallest? good (around rows [] tree) =
      smallest? (fun node => node.tree.containsRows rows && good node) (everywhere [] tree) := by
  rw [around_eq_filter rows [] tree nested, smallest?, smallest?, List.foldl_filter]
  congr 1
  funext pick node
  exact (smaller_and (fun node => node.tree.containsRows rows) good pick node).symm

end Located

/-- The types of node that a profile takes for a kind of scope; one in both of its lists is a
definition. -/
def Syntax.Profile.Opens (profile : Profile) (tree : Tree) : ScopeKind → Prop
  | .definition => tree.type ∈ profile.definitions
  | .block => tree.type ∈ profile.blocks ∧ tree.type ∉ profile.definitions

structure Qualifies (profile : Profile) (source : String) (rows : Rows) (kind : ScopeKind)
    (tree : Tree) : Prop where
  contains : tree.label.startRow ≤ rows.first ∧ rows.last ≤ tree.label.endRow
  tall : tree.label.startRow + 1 ≤ tree.label.endRow
  opens : profile.Opens tree kind
  shown : ∃ c ∈ (tree.text source).toList, Text.isBlank c = false

/-- The node to choose: a block only where no node qualifies as a definition. -/
def Chosen (profile : Profile) (source : String) (rows : Rows) (nodes : List Located) :
    ScopeKind → Located → Prop
  | .definition, located =>
    Located.FirstSmallest (fun node => Qualifies profile source rows .definition node.tree)
      nodes located
  | .block, located =>
    (∀ node ∈ nodes, ¬ Qualifies profile source rows .definition node.tree) ∧
      Located.FirstSmallest (fun node => Qualifies profile source rows .block node.tree)
        nodes located

def Located.shownAs (profile : Profile) (located : Located) : ScopeKind → Tree
  | .definition => located.widened profile
  | .block => located.tree

section

variable {profile : Profile} {source : String} {rows : Rows}

theorem qualifies_iff {opens : Tree → Bool} {kind : ScopeKind} (located : Located)
    (same : opens located.tree = true ↔ profile.Opens located.tree kind) :
    (located.tree.containsRows rows && (opens located.tree && located.isScope source)) = true ↔
      Qualifies profile source rows kind located.tree := by
  simp only [Located.isScope, Tree.containsRows, Text.isBlankText, Bool.and_eq_true, same,
    decide_eq_true_eq, Bool.not_eq_true', List.all_eq_false, Bool.not_eq_true]
  rw [Syntax.Tree.height]
  constructor
  · rintro ⟨contains, opens, tall, shown⟩
    exact ⟨contains, by omega, opens, shown⟩
  · rintro ⟨contains, tall, opens, shown⟩
    exact ⟨contains, opens, by omega, shown⟩

theorem isDefinition_iff (profile : Profile) (tree : Tree) :
    profile.isDefinition tree = true ↔ profile.Opens tree .definition := by
  simp [Profile.isDefinition, Profile.Opens]

theorem isBlock_iff (profile : Profile) (tree : Tree) :
    profile.isBlock tree = true ↔ profile.Opens tree .block := by
  simp [Profile.isBlock, Profile.isDefinition, Profile.Opens, and_comm]

variable {tree : Tree}

theorem smallest?_opens_eq_some_iff (nested : tree.Nested) {opens : Tree → Bool} {kind : ScopeKind}
    (same : ∀ tree, opens tree = true ↔ profile.Opens tree kind) {located : Located} :
    Located.smallest? (fun node => opens node.tree && node.isScope source)
    (Located.around rows [] tree) =
        some located ↔
      Located.FirstSmallest (fun node => Qualifies profile source rows kind node.tree)
        (Located.everywhere [] tree) located := by
  rw [Located.smallest?_around nested, Located.smallest?_eq_some_iff]
  simp only [qualifies_iff _ (same _)]

theorem smallest?_opens_eq_none_iff (source : String) (rows : Rows) (nested : tree.Nested)
    {opens : Tree → Bool} {kind : ScopeKind}
    (same : ∀ tree, opens tree = true ↔ profile.Opens tree kind) :
    Located.smallest? (fun node => opens node.tree && node.isScope source)
    (Located.around rows [] tree) =
        none ↔
      ∀ node ∈ Located.everywhere [] tree, ¬ Qualifies profile source rows kind node.tree := by
  rw [Located.smallest?_around nested, Located.smallest?_eq_none_iff]
  simp only [← Bool.not_eq_true, qualifies_iff _ (same _)]

theorem pick?_eq_some_iff (nested : tree.Nested) {kind : ScopeKind} {located : Located} :
    pick? profile source tree rows = some (kind, located) ↔
      Chosen profile source rows (Located.everywhere [] tree) kind located := by
  have none := smallest?_opens_eq_none_iff source rows nested (isDefinition_iff profile)
  unfold pick?
  dsimp only
  split
  next best found =>
    have smallest := (smallest?_opens_eq_some_iff nested (isDefinition_iff profile)).mp found
    cases kind with
    | definition =>
      rw [Option.some.injEq, Prod.mk.injEq]
      exact ⟨fun same => same.2 ▸ smallest, fun other => ⟨rfl, smallest.eq other⟩⟩
    | block =>
      refine iff_of_false (by simp) fun chosen => ?_
      exact chosen.1 best smallest.mem smallest.own
  next missing =>
    rw [none] at missing
    cases kind with
    | definition => exact iff_of_false (by simp) fun chosen => missing located chosen.mem chosen.own
    | block =>
      simp only [Option.map_eq_some_iff, Prod.mk.injEq, true_and, exists_eq_right,
        smallest?_opens_eq_some_iff nested (isBlock_iff profile), Chosen]
      exact ⟨fun smallest => ⟨missing, smallest⟩, fun chosen => chosen.2⟩

theorem pick?_eq_none_iff (nested : tree.Nested) :
    pick? profile source tree rows = none ↔
      ∀ node ∈ tree.nodes, ∀ kind, ¬ Qualifies profile source rows kind node := by
  have definition := smallest?_opens_eq_none_iff source rows nested (isDefinition_iff profile)
  have block := smallest?_opens_eq_none_iff source rows nested (isBlock_iff profile)
  rw [← Located.map_tree_everywhere [], List.forall_mem_map]
  unfold pick?
  dsimp only
  split
  next best found =>
    refine iff_of_false (by simp) fun none => ?_
    have smallest := (smallest?_opens_eq_some_iff nested (isDefinition_iff profile)).mp found
    exact none best smallest.mem .definition smallest.own
  next missing =>
    rw [Option.map_eq_none_iff, block]
    rw [definition] at missing
    constructor
    · intro none node inside kind
      cases kind with
      | definition => exact missing node inside
      | block => exact none node inside
    · exact fun none node inside => none node inside .block

theorem scopeIn_eq (profile : Profile) (source : String) (tree : Tree) (rows : Rows) :
    scopeIn profile source tree rows =
      match pick? profile source tree rows with
      | none => .ok none
      | some (kind, located) =>
        (scopeOf profile source kind (located.shownAs profile kind)).map some := by
  unfold scopeIn
  cases pick? profile source tree rows with
  | none => rfl
  | some picked =>
    obtain ⟨kind, located⟩ := picked
    cases kind <;> rfl

theorem findScope_of_le (profile : Profile) (source : String) (tree : Tree)
    (order : rows.first ≤ rows.last) :
    findScope profile ⟨source, .ok tree⟩ rows =
      (scopeIn profile source tree rows).mapError .scope := by
  have forward : reversed? rows = none := if_neg (Int.not_lt.mpr order)
  rw [findScope, forward]

theorem findScope_of_lt (profile : Profile) (source : Syntax.Source)
    (reversed : rows.last < rows.first) :
    findScope profile source rows =
      .error (.reversedRows (toString rows.first) (toString rows.last)) := by
  have refused : reversed? rows = some (.reversedRows (toString rows.first) (toString rows.last)) :=
    if_pos reversed
  rw [findScope, refused]

theorem findScope_eq_ok_iff {found : Option Scope} :
    findScope profile ⟨source, .ok tree⟩ rows = .ok found ↔
      rows.first ≤ rows.last ∧ scopeIn profile source tree rows = .ok found := by
  rcases Int.lt_or_le rows.last rows.first with reversed | order
  · rw [findScope_of_lt profile _ reversed]
    exact iff_of_false nofun fun facts => Int.not_lt.mpr facts.1 reversed
  · rw [findScope_of_le profile source tree order, Outcome.mapError_eq_ok_iff]
    simp [order]

theorem findScope_eq_some_iff (nested : tree.Nested) {scope : Scope} :
    findScope profile ⟨source, .ok tree⟩ rows = .ok (some scope) ↔
      rows.first ≤ rows.last ∧
        ∃ kind located, Chosen profile source rows (Located.everywhere [] tree) kind located ∧
          scopeOf profile source kind (located.shownAs profile kind) = .ok scope := by
  simp only [findScope_eq_ok_iff, ← pick?_eq_some_iff nested, scopeIn_eq]
  cases pick? profile source tree rows with
  | none => simp
  | some picked =>
    obtain ⟨kind, located⟩ := picked
    simp [Outcome.map_eq_ok_iff]

namespace Chosen

variable {nodes : List Located} {kind : ScopeKind} {located : Located}

theorem mem (chosen : Chosen profile source rows nodes kind located) : located ∈ nodes := by
  cases kind with
  | definition => exact Located.FirstSmallest.mem chosen
  | block => exact chosen.2.mem

theorem qualifies (chosen : Chosen profile source rows nodes kind located) :
    Qualifies profile source rows kind located.tree := by
  cases kind with
  | definition => exact chosen.own
  | block => exact chosen.2.own

end Chosen

end

/-- The walk over the stack ends with the node that a scan of the whole tree in document order
chooses: the first of the smallest definitions around the rows, or else of the blocks. The scope
found is that of this node, and none is found exactly where no node qualifies. -/
theorem findScope_visits_chosen {tree : Tree} (nested : tree.Nested) (profile : Profile)
    (source : String) {rows : Rows} (order : rows.first ≤ rows.last) :
    let nodes := Located.everywhere [] tree
    let picks := Located.visit profile source rows {} [⟨tree, []⟩]
    nodes.map Located.tree = tree.nodes ∧
      picks.chosen? = pick? profile source tree rows ∧
      (∀ kind located, picks.chosen? = some (kind, located) ↔
        Chosen profile source rows nodes kind located) ∧
      (∀ kind located, Chosen profile source rows nodes kind located →
        findScope profile ⟨source, .ok tree⟩ rows =
          ((scopeOf profile source kind (located.shownAs profile kind)).map some).mapError .scope) ∧
      (findScope profile ⟨source, .ok tree⟩ rows = .ok none ↔
        ∀ node ∈ tree.nodes, ∀ kind, ¬ Qualifies profile source rows kind node) := by
  intro nodes picks
  have walked : picks.chosen? = pick? profile source tree rows :=
    Located.chosen?_visit profile source tree rows
  refine ⟨Located.map_tree_everywhere [] tree, walked, ?_, ?_, ?_⟩
  · intro kind located
    rw [walked, pick?_eq_some_iff nested]
  · intro kind located chosen
    rw [findScope_of_le profile source tree order, scopeIn_eq,
      (pick?_eq_some_iff nested).mpr chosen]
  · rw [findScope_of_le profile source tree order, ← pick?_eq_none_iff nested, scopeIn_eq]
    cases pick? profile source tree rows with
    | none => exact iff_of_true rfl rfl
    | some picked =>
      refine iff_of_false (fun found => ?_) (by simp)
      rw [Outcome.mapError_eq_ok_iff, Outcome.map_eq_ok_iff] at found
      obtain ⟨scope, -, absent⟩ := found
      contradiction

theorem findScope_visits_chosen_wrapper :
    let text := "@w def f():\n  if x:\n    y\nz"
    let block : Tree := .node ⟨"if_statement", 1, 2, 2, 14, 25, none, {}⟩ []
    let inner : Tree := .node ⟨"function_definition", 0, 3, 2, 3, 25, some "definition", {}⟩ [block]
    let outer : Tree := .node ⟨"decorated_definition", 0, 0, 2, 0, 25, none, {}⟩ [inner]
    let tree : Tree := .node ⟨"module", 0, 0, 3, 0, 27, none, {}⟩ [outer]
    let rows : Rows := ⟨1, 2⟩
    tree.Nested ∧ rows.first ≤ rows.last ∧
      ∃ located, located.tree.type = "decorated_definition" ∧
        Chosen Syntax.Language.python.profile text rows (Located.everywhere [] tree) .definition
          located := by
  -- Of a definition and the wrapper of the same rows the wrapper is met first; the block in them is
  -- smaller.
  intro text block inner outer tree rows
  have nested : tree.Nested := by
    simp [Tree.Nested, Tree.nodes, Tree.nodesOfAll, Tree.children, Tree.Holds, Tree.label, tree,
      outer, inner, block]
  have order : rows.first ≤ rows.last := by decide
  have facts := findScope_visits_chosen nested Syntax.Language.python.profile text order
  have picked : (pick? Syntax.Language.python.profile text tree rows).map (fun pick =>
    (pick.1, pick.2.tree.type)) =
      some (.definition, "decorated_definition") := by decide +kernel
  obtain ⟨⟨kind, located⟩, found, same⟩ := Option.map_eq_some_iff.mp picked
  obtain ⟨rfl, type⟩ := Prod.mk.inj same
  exact ⟨nested, order, located, type, (facts.2.2.1 .definition located).mp (facts.2.1.trans found)⟩

end ReviewContext
