import ReviewContext.Scope.Window

/-! Lookups: in a tree without negative rows the scope found around some rows holds them all. -/
namespace ReviewContext

open Syntax (Rows Profile Source Tree)

namespace Scope

/-- The rows, counted from zero, are lines of the scope. -/
def HoldsRows (scope : Scope) (rows : Rows) : Prop :=
  (scope.first : Int) ≤ rows.first + 1 ∧ rows.last + 1 ≤ (scope.last : Int)

end Scope

/-- A question in order is answered, and a scope that is the answer holds the rows asked about. -/
def Finder.Answers (find : Finder) : Prop :=
  ∀ rows, rows.first ≤ rows.last → ∃ found, find rows = .ok found ∧
    ∀ scope ∈ found, scope.HoldsRows rows

namespace Located

def Around (rows : Rows) (tree : Tree) : Prop :=
  0 ≤ tree.label.startRow ∧ tree.containsRows rows = true

mutual

theorem around_of_mem {rows : Rows} {above : List Tree} (upper : ∀ tree ∈ above, Around rows tree) :
    (tree : Tree) → (∀ node ∈ tree.nodes, 0 ≤ node.label.startRow) →
      ∀ located ∈ around rows above tree,
        Around rows located.tree ∧ ∀ tree ∈ located.above, Around rows tree
  | .node label children, starts, located, inside => by
    rw [Tree.nodes, List.forall_mem_cons] at starts
    rw [around] at inside
    split at inside
    next holds =>
      have own : Around rows (.node label children) := ⟨starts.1, holds⟩
      rcases List.mem_cons.mp inside with rfl | inside
      · exact ⟨own, upper⟩
      · exact around_of_mem_all (List.forall_mem_cons.mpr ⟨own, upper⟩) children starts.2
          located inside
    next => contradiction

theorem around_of_mem_all {rows : Rows} {above : List Tree}
    (upper : ∀ tree ∈ above, Around rows tree) :
    (trees : List Tree) → (∀ node ∈ Tree.nodesOfAll trees, 0 ≤ node.label.startRow) →
      ∀ located ∈ aroundIn rows above trees,
        Around rows located.tree ∧ ∀ tree ∈ located.above, Around rows tree
  | [], _, _, inside => by
    rw [aroundIn] at inside
    contradiction
  | tree :: rest, starts, located, inside => by
    rw [Tree.nodesOfAll, List.forall_mem_append] at starts
    rw [aroundIn, List.mem_append] at inside
    rcases inside with inside | inside
    · exact around_of_mem upper tree starts.1 located inside
    · exact around_of_mem_all upper rest starts.2 located inside

end

theorem of_foldl_smaller {good : Located → Bool} {nodes : List Located} {pick : Option Located}
    {located : Located} (picked : nodes.foldl (smaller good) pick = some located) :
    pick = some located ∨ located ∈ nodes := by
  induction nodes generalizing pick with
  | nil => exact .inl picked
  | cons node nodes ih =>
    rcases ih picked with step | inside
    · rw [smaller] at step
      split at step
      next => exact .inr (Option.some.inj step ▸ List.mem_cons_self)
      next => exact .inl step
    · exact .inr (List.mem_cons_of_mem _ inside)

theorem mem_of_smallest? {good : Located → Bool} {nodes : List Located} {located : Located}
    (picked : smallest? good nodes = some located) : located ∈ nodes := by
  rcases of_foldl_smaller picked with none | inside
  · contradiction
  · exact inside

theorem widened_eq (profile : Profile) (located : Located) :
    located.widened profile = located.tree ∨ located.widened profile ∈ located.above := by
  rw [widened, List.getLastD_eq_getLast?]
  cases last : (located.above.takeWhile profile.isWrapper).getLast? with
  | none => exact .inl rfl
  | some top => exact .inr (List.takeWhile_subset _ (List.mem_of_getLast? last))

end Located

section

variable (profile : Profile) (source : String) {tree : Tree} {rows : Rows}

theorem mem_of_pick? {kind : ScopeKind} {located : Located}
    (picked : pick? profile source tree rows = some (kind, located)) :
    located ∈ Located.around rows [] tree := by
  unfold pick? at picked
  dsimp only at picked
  split at picked
  next found =>
    simp only [Option.some.injEq, Prod.mk.injEq] at picked
    exact picked.2 ▸ Located.mem_of_smallest? found
  next =>
    obtain ⟨other, found, same⟩ := Option.map_eq_some_iff.mp picked
    simp only [Prod.mk.injEq] at same
    exact same.2 ▸ Located.mem_of_smallest? found

theorem scopeOf_around (kind : ScopeKind) (around : Located.Around rows tree)
    (order : rows.first ≤ rows.last) :
    ∃ scope, scopeOf profile source kind tree = .ok scope ∧ scope.HoldsRows rows := by
  obtain ⟨start, holds⟩ := around
  simp only [Tree.containsRows, Bool.and_eq_true, decide_eq_true_eq] at holds
  rw [scopeOf, Scope.ofLines, dif_neg (by omega), dif_neg (by omega)]
  refine ⟨_, rfl, ?_⟩
  simp only [Scope.HoldsRows]
  omega

theorem scopeIn_around (starts : ∀ node ∈ tree.nodes, 0 ≤ node.label.startRow)
    (order : rows.first ≤ rows.last) :
    ∃ found, scopeIn profile source tree rows = .ok found ∧
      ∀ scope ∈ found, scope.HoldsRows rows := by
  have each := Located.around_of_mem (List.forall_mem_nil (Located.Around rows)) tree starts
  unfold scopeIn
  split
  next => exact ⟨none, rfl, nofun⟩
  next located picked =>
    obtain ⟨own, above⟩ := each located (mem_of_pick? profile source picked)
    have around : Located.Around rows (located.widened profile) := by
      rcases located.widened_eq profile with same | inside
      · exact same ▸ own
      · exact above _ inside
    obtain ⟨scope, ok, holds⟩ := scopeOf_around profile source .definition around order
    exact ⟨some scope, by rw [ok]; rfl, fun _ same => Option.some.inj same ▸ holds⟩
  next located picked =>
    obtain ⟨own, -⟩ := each located (mem_of_pick? profile source picked)
    obtain ⟨scope, ok, holds⟩ := scopeOf_around profile source .block own order
    exact ⟨some scope, by rw [ok]; rfl, fun _ same => Option.some.inj same ▸ holds⟩

theorem answers_findScope (starts : ∀ node ∈ tree.nodes, 0 ≤ node.label.startRow) :
    Finder.Answers (findScope profile ⟨source, .ok tree⟩) := by
  intro rows order
  have forward : reversed? rows = none := if_neg (by omega)
  obtain ⟨found, ok, holds⟩ := scopeIn_around profile source starts order
  refine ⟨found, ?_, holds⟩
  rw [findScope, forward]
  simp only [ok]
  rfl

end

end ReviewContext
