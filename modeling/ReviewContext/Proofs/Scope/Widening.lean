import ReviewContext.Proofs.Scope.Choice
import ReviewContext.Proofs.Scope.Lookup

/-! Widening: from a chosen definition the wrappers right above it are climbed, and from the topmost
of them its name is looked for downwards again. What is shown holds what was chosen, and if each
wrapper was put around the one below it, it has the same name. -/
namespace ReviewContext

open Syntax (Rows Profile Tree)

namespace Located

/-- Goes up to a parent as long as it is a wrapper. -/
inductive Climbs (profile : Profile) : Located → List Tree → Located → Prop
  | stop {tree : Tree} {above : List Tree}
    (free : ∀ parent ∈ above.head?, profile.isWrapper parent = false) :
      Climbs profile ⟨tree, above⟩ [] ⟨tree, above⟩
  | up {tree parent : Tree} {above path : List Tree} {top : Located}
    (wrapper : profile.isWrapper parent = true)
      (rest : Climbs profile ⟨parent, above⟩ path top) :
      Climbs profile ⟨tree, parent :: above⟩ (parent :: path) top

structure Placed (root : Tree) (located : Located) : Prop where
  nested : located.tree.Nested
  parents : (located.tree :: located.above).IsChain fun inner outer => inner ∈ outer.children
  root : (located.tree :: located.above).getLast? = some root
  holds : ∀ upper ∈ located.above, upper.Holds located.tree

theorem Placed.below {root : Tree} (located : Located) (placed : located.Placed root) :
    ∀ inner ∈ located.below, inner.Placed root := by
  obtain ⟨⟨label, children⟩, above⟩ := located
  intro inner inside
  obtain ⟨child, among, rfl⟩ := List.mem_map.mp inside
  obtain ⟨holds, nested⟩ := Tree.nested_node_iff.mp placed.nested child among
  refine ⟨nested, .cons_cons among placed.parents, placed.root, ?_⟩
  rw [List.forall_mem_cons]
  exact ⟨holds, fun upper higher => (placed.holds upper higher).trans holds⟩

mutual

theorem forall_everywhere {P : Located → Prop}
    (down : ∀ located, P located → ∀ inner ∈ located.below, P inner) {above : List Tree} :
    (tree : Tree) → P ⟨tree, above⟩ → ∀ located ∈ everywhere above tree, P located
  | .node label children, own, located, inside => by
    rw [everywhere, List.mem_cons] at inside
    rcases inside with rfl | inside
    · exact own
    · have each : ∀ child ∈ children, P ⟨child, .node label children :: above⟩ := fun child among =>
        down _ own _ (List.mem_map_of_mem among)
      exact forall_everywhereIn down children each located inside

theorem forall_everywhereIn {P : Located → Prop}
    (down : ∀ located, P located → ∀ inner ∈ located.below, P inner) {above : List Tree} :
    (trees : List Tree) → (∀ tree ∈ trees, P ⟨tree, above⟩) →
      ∀ located ∈ everywhereIn above trees, P located
  | [], _, _, inside => by
    rw [everywhereIn] at inside
    contradiction
  | tree :: rest, own, located, inside => by
    rw [List.forall_mem_cons] at own
    rw [everywhereIn, List.mem_append] at inside
    rcases inside with inside | inside
    · exact forall_everywhere down tree own.1 located inside
    · exact forall_everywhereIn down rest own.2 located inside

end

theorem placed_everywhere {tree : Tree} (nested : tree.Nested) :
    ∀ located ∈ everywhere [] tree, located.Placed tree :=
  forall_everywhere Placed.below tree ⟨nested, .singleton _, rfl, List.forall_mem_nil _⟩

theorem climbs_widened (profile : Profile) (tree : Tree) (above : List Tree) :
    ∃ path top, Climbs profile ⟨tree, above⟩ path top ∧
      widened profile ⟨tree, above⟩ = top.tree := by
  -- Each parent that is climbed is the node that the next step starts from.
  induction above generalizing tree with
  | nil => exact ⟨[], ⟨tree, []⟩, .stop (by simp), rfl⟩
  | cons parent above ih =>
    cases wrapper : profile.isWrapper parent with
    | false =>
      exact ⟨[], ⟨tree, parent :: above⟩, .stop (by simp [wrapper]), by simp [widened, wrapper]⟩
    | true =>
      obtain ⟨path, top, climbs, same⟩ := ih parent
      refine ⟨parent :: path, top, .up wrapper climbs, ?_⟩
      rw [← same, widened, widened, List.takeWhile_cons_of_pos wrapper, List.getLastD_cons]

theorem Climbs.free {profile : Profile} {located top : Located} {path : List Tree}
    (climbs : Climbs profile located path top) :
    ∀ parent ∈ top.above.head?, profile.isWrapper parent = false := by
  induction climbs with
  | stop free => exact free
  | up _ _ ih => exact ih

theorem Placed.holds_shownAs {root : Tree} {located : Located} (placed : located.Placed root)
    (profile : Profile) (kind : ScopeKind) : (located.shownAs profile kind).Holds located.tree := by
  have same : located.tree.Holds located.tree := ⟨Int.le_refl _, Int.le_refl _⟩
  cases kind with
  | definition =>
    rcases located.widened_eq profile with equal | inside
    · rwa [shownAs, equal]
    · exact placed.holds _ inside
  | block => exact same

end Located

/-- Goes down from a wrapper to the definition in it, as long as there is one. -/
inductive Descends (profile : Profile) : Tree → Tree → Prop
  | stop {tree : Tree} (last : profile.isWrapper tree = true → tree.child? "definition" = none) :
      Descends profile tree tree
  | down {tree inner named : Tree} (wrapper : profile.isWrapper tree = true)
      (child : tree.child? "definition" = some inner) (rest : Descends profile inner named) :
      Descends profile tree named

theorem descends_bearer (profile : Profile) (tree : Tree) :
    Descends profile tree (bearer profile tree) := by
  fun_induction bearer profile tree with
  | case1 tree wrapper inner child ih => exact .down wrapper child ih
  | case2 tree wrapper missing => exact .stop fun _ => missing
  | case3 tree plain => exact .stop fun wrapper => absurd wrapper plain

theorem Descends.eq {profile : Profile} {tree named other : Tree}
    (descends : Descends profile tree named) (alike : Descends profile tree other) :
    named = other := by
  induction descends with
  | stop last =>
    cases alike with
    | stop => rfl
    | down wrapper child => simp [last wrapper] at child
  | down wrapper child _ ih =>
    cases alike with
    | stop last => simp [last wrapper] at child
    | down _ child' rest =>
      obtain rfl := Option.some.inj (child.symm.trans child')
      exact ih rest

/-- If each wrapper was put around the node below it, the way down leads through all of them. -/
theorem Located.Climbs.descends {profile : Profile} {located top : Located} {path : List Tree}
    (climbs : located.Climbs profile path top) {named : Tree}
    (around : (located.tree :: path).IsChain fun inner outer => outer.child? "definition" =
      some inner)
    (own : Descends profile located.tree named) : Descends profile top.tree named := by
  induction climbs with
  | stop => exact own
  | up wrapper _ ih =>
    obtain ⟨child, around⟩ := List.isChain_cons_cons.mp around
    exact ih around (.down wrapper child own)

/-- The node that a chosen one is shown as, with the nodes above the chosen one up to it. Only a
definition is widened. -/
def Located.ShownAs (profile : Profile) (located : Located) (path : List Tree)
    (top : Located) : ScopeKind → Prop
  | .definition => located.Climbs profile path top
  | .block => path = [] ∧ top = located

theorem Located.exists_shownAs (profile : Profile) (located : Located) (kind : ScopeKind) :
    ∃ path top, located.ShownAs profile path top kind ∧
      located.shownAs profile kind = top.tree := by
  cases kind with
  | definition => exact climbs_widened profile located.tree located.above
  | block => exact ⟨[], located, ⟨rfl, rfl⟩, rfl⟩

structure Scope.Shows (scope : Scope) (source : String) (kind : ScopeKind)
    (tree : Tree) : Prop where
  kind : scope.kind = kind
  nodeType : scope.nodeType = tree.type
  first : (scope.first : Int) = tree.label.startRow + 1
  last : (scope.last : Int) = tree.label.endRow + 1
  text : scope.text = tree.text source

theorem shows_of_scopeOf {profile : Profile} {source : String} {kind : ScopeKind} {tree : Tree}
    {scope : Scope} (shown : scopeOf profile source kind tree = .ok scope) :
    scope.Shows source kind tree ∧
      scope.name = ((bearer profile tree).child? "name").map (Tree.text · source) := by
  unfold scopeOf Scope.ofLines at shown
  split at shown
  · contradiction
  · split at shown
    · contradiction
    · simp only [Except.ok.injEq] at shown
      subst shown
      refine ⟨⟨rfl, rfl, ?_, ?_, rfl⟩, rfl⟩ <;> dsimp only <;> omega

theorem Scope.Shows.holdsRows_iff {scope : Scope} {source : String} {kind : ScopeKind} {tree : Tree}
    {rows : Rows} (shows : scope.Shows source kind tree) :
    scope.HoldsRows rows ↔ tree.label.startRow ≤ rows.first ∧ rows.last ≤ tree.label.endRow := by
  have first := shows.first
  have last := shows.last
  unfold HoldsRows
  omega

theorem Located.ShownAs.bearer_eq {profile : Profile} {located top : Located} {path : List Tree}
    {kind : ScopeKind} (shown : located.ShownAs profile path top kind)
    (around : (located.tree :: path).IsChain fun inner outer => outer.child? "definition" =
      some inner) :
    bearer profile top.tree = bearer profile located.tree := by
  have down := descends_bearer profile located.tree
  apply (descends_bearer profile top.tree).eq
  cases kind with
  | definition => exact Located.Climbs.descends shown around down
  | block => exact shown.2 ▸ down

theorem Chosen.exists_scopeOf {profile : Profile} {source : String} {rows : Rows} {tree : Tree}
    {kind : ScopeKind} {located : Located}
    (chosen : Chosen profile source rows (Located.everywhere [] tree) kind located)
    (starts : ∀ node ∈ tree.nodes, 0 ≤ node.label.startRow) :
    ∃ own, scopeOf profile source kind located.tree = .ok own := by
  have tall := chosen.qualifies.tall
  have start := starts _ (Located.mem_nodes_of_mem_everywhere chosen.mem)
  have itself : Located.Around ⟨located.tree.label.startRow, located.tree.label.endRow⟩
      located.tree :=
    ⟨start, by simp [Tree.containsRows]⟩
  obtain ⟨own, ok, -⟩ := scopeOf_around profile source kind itself (by dsimp only; omega)
  exact ⟨own, ok⟩

/-- What is found for some rows is the chosen node itself, or for a definition the topmost of the
wrappers that follow one upon the other above it. It can always be shown, holds the rows and the
chosen node, and has the name of the chosen node if each of these wrappers was put around the node
below it. -/
theorem findScope_widens {tree : Tree} (nested : tree.Nested)
    (starts : ∀ node ∈ tree.nodes, 0 ≤ node.label.startRow) (profile : Profile) (source : String)
    (rows : Rows) :
    (∀ error, findScope profile ⟨source, .ok tree⟩ rows ≠ .error (.scope error)) ∧
      ∀ scope, findScope profile ⟨source, .ok tree⟩ rows = .ok (some scope) →
        ∃ kind located path top,
          Chosen profile source rows (Located.everywhere [] tree) kind located ∧
          located.Placed tree ∧ located.ShownAs profile path top kind ∧
          (kind = .definition → ∀ parent ∈ top.above.head?, profile.isWrapper parent = false) ∧
          scope.Shows source kind top.tree ∧ scope.HoldsRows rows ∧
          scope.HoldsRows ⟨located.tree.label.startRow, located.tree.label.endRow⟩ ∧
          ((located.tree :: path).IsChain (fun inner outer => outer.child? "definition" =
            some inner) →
            ∃ named own, Descends profile located.tree named ∧
              scope.name = (named.child? "name").map (Tree.text · source) ∧
              scopeOf profile source kind located.tree = .ok own ∧ own.name = scope.name) := by
  constructor
  · intro error failed
    rcases Int.lt_or_le rows.last rows.first with reversed | order
    · rw [findScope_of_lt profile _ reversed] at failed
      cases failed
    · obtain ⟨found, ok, -⟩ := answers_findScope profile source starts rows order
      rw [ok] at failed
      cases failed
  · intro scope found
    obtain ⟨order, kind, located, chosen, shown⟩ := (findScope_eq_some_iff nested).mp found
    have placed := Located.placed_everywhere nested located chosen.mem
    have holds := placed.holds_shownAs profile kind
    obtain ⟨path, top, way, same⟩ := located.exists_shownAs profile kind
    rw [same] at shown holds
    obtain ⟨shows, name⟩ := shows_of_scopeOf shown
    obtain ⟨low, high⟩ := holds
    obtain ⟨above, below⟩ := chosen.qualifies.contains
    refine ⟨kind, located, path, top, chosen, placed, way, ?_, shows, ?_, ?_, ?_⟩
    · rintro rfl
      exact Located.Climbs.free way
    · exact shows.holdsRows_iff.mpr ⟨by omega, by omega⟩
    · exact shows.holdsRows_iff.mpr ⟨low, high⟩
    -- The way down from the topmost node passes the chosen one, so that both ways end at one node.
    · intro around
      obtain ⟨own, ok⟩ := chosen.exists_scopeOf starts
      rw [way.bearer_eq around] at name
      exact ⟨_, own, descends_bearer profile located.tree, name, ok,
        (shows_of_scopeOf ok).2.trans name.symm⟩

theorem findScope_widens_stacked :
    let shown := "@a\n@b\ndef f():\n  x\n  y"
    let name : Tree := .node ⟨"identifier", 2, 4, 2, 10, 11, some "name", {}⟩ []
    let function : Tree :=
      .node ⟨"function_definition", 2, 0, 4, 6, 22, some "definition", {}⟩ [name]
    let inner : Tree :=
      .node ⟨"decorated_definition", 1, 0, 4, 3, 22, some "definition", {}⟩ [function]
    let outer : Tree := .node ⟨"decorated_definition", 0, 0, 4, 0, 22, none, {}⟩ [inner]
    let tree : Tree := .node ⟨"module", 0, 0, 5, 0, 24, none, {}⟩ [outer]
    let profile := Syntax.Language.python.profile
    let scope : Scope :=
      ⟨.definition, "decorated_definition", 1, 5, shown, some "f", by decide, by decide⟩
    tree.Nested ∧ (∀ node ∈ tree.nodes, 0 ≤ node.label.startRow) ∧
      findScope profile ⟨shown ++ "\nz", .ok tree⟩ ⟨3, 3⟩ = .ok (some scope) ∧
      ∃ kind located path top,
        Chosen profile (shown ++ "\nz") ⟨3, 3⟩ (Located.everywhere [] tree) kind located ∧
          located.Placed tree ∧
          located.ShownAs profile path top kind ∧ scope.Shows (shown ++ "\nz") kind top.tree := by
  -- Two wrappers stand above the chosen function, each around what is below it.
  intro shown name function inner outer tree profile scope
  have nested : tree.Nested := by
    simp [Tree.Nested, Tree.nodes, Tree.nodesOfAll, Tree.children, Tree.Holds, Tree.label, tree,
      outer, inner, function, name]
  have starts : ∀ node ∈ tree.nodes, 0 ≤ node.label.startRow := by
    simp [Tree.nodes, Tree.nodesOfAll, Tree.label, tree, outer, inner, function, name]
  have found : findScope profile ⟨shown ++ "\nz", .ok tree⟩ ⟨3, 3⟩ =
    .ok (some scope) := by decide +kernel
  obtain ⟨kind, located, path, top, chosen, placed, way, -, shows, -⟩ :=
    (findScope_widens nested starts profile (shown ++ "\nz") ⟨3, 3⟩).2 scope found
  exact ⟨nested, starts, found, kind, located, path, top, chosen, placed, way, shows⟩

end ReviewContext
