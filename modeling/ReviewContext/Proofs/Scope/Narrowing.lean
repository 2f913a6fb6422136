import ReviewContext.Proofs.Scope.Questions
import ReviewContext.Proofs.Scope.Widening

/-! Narrowing: what can be the scope around some rows can be the scope around fewer, so that asking
about fewer rows finds as much, and nothing larger of the same kind. -/
namespace ReviewContext

open Syntax (Rows Profile Tree)

variable {profile : Profile} {source : String} {inner outer : Rows} {kind other : ScopeKind}

theorem Qualifies.of_inside {tree : Tree} (qualifies : Qualifies profile source outer kind tree)
    (inside : inner.Inside outer) : Qualifies profile source inner kind tree := by
  obtain ⟨⟨start, stop⟩, tall, opens, shown⟩ := qualifies
  exact ⟨⟨Int.le_trans start inside.first, Int.le_trans inside.last stop⟩, tall, opens, shown⟩

theorem exists_chosen {tree node : Tree} (nested : tree.Nested) (among : node ∈ tree.nodes)
    (qualifies : Qualifies profile source inner kind node) :
    ∃ kind located, Chosen profile source inner (Located.everywhere [] tree) kind located := by
  cases picked : pick? profile source tree inner with
  | none => exact absurd qualifies ((pick?_eq_none_iff nested).mp picked node among kind)
  | some found => exact ⟨found.1, found.2, (pick?_eq_some_iff nested).mp picked⟩

theorem findScope_ne_none {tree : Tree} (nested : tree.Nested) {located : Located}
    (chosen : Chosen profile source inner (Located.everywhere [] tree) kind located) :
    findScope profile ⟨source, .ok tree⟩ inner ≠ .ok none := by
  intro missing
  obtain ⟨-, missing⟩ := findScope_eq_ok_iff.mp missing
  rw [scopeIn_eq, (pick?_eq_some_iff nested).mpr chosen, Outcome.map_eq_ok_iff] at missing
  obtain ⟨scope, -, absent⟩ := missing
  contradiction

namespace Chosen

variable {nodes : List Located} {wide narrow : Located}

theorem definition_of_inside (chosen : Chosen profile source outer nodes .definition wide)
    (within : Chosen profile source inner nodes other narrow) (inside : inner.Inside outer) :
    other = .definition := by
  cases other with
  | definition => rfl
  | block => exact absurd (chosen.qualifies.of_inside inside) (within.1 wide chosen.mem)

theorem height_le_of_inside (chosen : Chosen profile source outer nodes kind wide)
    (within : Chosen profile source inner nodes kind narrow) (inside : inner.Inside outer) :
    narrow.tree.height ≤ wide.tree.height := by
  have also := chosen.qualifies.of_inside inside
  cases kind with
  | definition => exact Located.FirstSmallest.least within wide chosen.mem also
  | block => exact within.2.least wide chosen.mem also

end Chosen

theorem Located.shownAs_of_bare (bare : profile.wrappers = []) (located : Located)
    (kind : ScopeKind) :
    located.shownAs profile kind = located.tree := by
  cases kind with
  | definition =>
    have plain : profile.isWrapper = fun _ => false := by
      funext tree
      simp [Profile.isWrapper, bare]
    rw [shownAs, widened, plain]
    cases located.above <;> rfl
  | block => rfl

theorem Scope.Shows.lineCount_eq {scope : Scope} {tree : Tree}
    (shows : scope.Shows source kind tree) :
    (scope.lineCount : Int) = tree.height + 1 := by
  have first := shows.first
  have last := shows.last
  have order := scope.first_le_last
  unfold Scope.lineCount Syntax.Tree.height
  omega

/-- If whatever is found for the wide rows is found for the exact ones too, a search finds as much
as a question about the exact ones alone. -/
theorem Window.exists_search_iff {window : Window} (sound : window.Sound) {find : Finder}
    (answers : find.Answers) (narrows : (∃ scope, find window.wide = .ok (some scope)) →
      ∃ scope, find window.exact = .ok (some scope)) :
    (∃ scope, (window.search find).answer = .ok (some scope)) ↔
      ∃ scope, find window.exact = .ok (some scope) := by
  rcases window.search_cases find with ⟨same, one⟩ | ⟨-, -, two⟩
  · rw [one]
    refine ⟨narrows, fun ⟨scope, found⟩ => ?_⟩
    obtain ⟨wide, asked, -⟩ := answers window.wide sound.order_wide
    cases wide with
    -- Nothing was found and no second question put, since it would have been the same one.
    | none => exact ⟨scope, by rw [← same asked]; exact found⟩
    | some wide => exact ⟨wide, asked⟩
  · rw [two]

section

variable {tree : Tree} {wide narrow : Scope}

theorem findScope_ne_none_of_inside (nested : tree.Nested) (inside : inner.Inside outer)
    (found : findScope profile ⟨source, .ok tree⟩ outer = .ok (some wide)) :
    findScope profile ⟨source, .ok tree⟩ inner ≠ .ok none := by
  obtain ⟨-, kind, located, chosen, -⟩ := (findScope_eq_some_iff nested).mp found
  have among := Located.mem_nodes_of_mem_everywhere chosen.mem
  obtain ⟨other, smaller, within⟩ := exists_chosen nested among (chosen.qualifies.of_inside inside)
  exact findScope_ne_none nested within

theorem exists_findScope_of_inside (nested : tree.Nested)
    (starts : ∀ node ∈ tree.nodes, 0 ≤ node.label.startRow) (order : inner.first ≤ inner.last)
    (inside : inner.Inside outer)
    (found : findScope profile ⟨source, .ok tree⟩ outer = .ok (some wide)) :
    ∃ narrow, findScope profile ⟨source, .ok tree⟩ inner = .ok (some narrow) := by
  obtain ⟨answer, ok, -⟩ := answers_findScope profile source starts inner order
  cases answer with
  | none => exact absurd ok (findScope_ne_none_of_inside nested inside found)
  | some narrow => exact ⟨narrow, ok⟩

theorem findScope_le_of_inside (nested : tree.Nested) (inside : inner.Inside outer)
    (found : findScope profile ⟨source, .ok tree⟩ outer = .ok (some wide))
    (again : findScope profile ⟨source, .ok tree⟩ inner = .ok (some narrow)) :
    (wide.kind = .definition → narrow.kind = .definition) ∧
      (profile.wrappers = [] → narrow.kind = wide.kind → narrow.lineCount ≤ wide.lineCount) := by
  obtain ⟨-, kind, located, chosen, shown⟩ := (findScope_eq_some_iff nested).mp found
  obtain ⟨-, other, smaller, within, shown'⟩ := (findScope_eq_some_iff nested).mp again
  obtain ⟨shows, -⟩ := shows_of_scopeOf shown
  obtain ⟨shows', -⟩ := shows_of_scopeOf shown'
  rw [shows.kind, shows'.kind]
  constructor
  · rintro rfl
    exact chosen.definition_of_inside within inside
  · rintro bare rfl
    rw [Located.shownAs_of_bare bare] at shows shows'
    have lines := shows.lineCount_eq
    have lines' := shows'.lineCount_eq
    have height := chosen.height_le_of_inside within inside
    omega

theorem exists_searchHunk_iff (nested : tree.Nested)
    (starts : ∀ node ∈ tree.nodes, 0 ≤ node.label.startRow) (margin : Nat) {lastLine : Nat}
    {hunk trimmed : Diff.Hunk} (lines : 0 < lastLine) (start : 0 < hunk.new.start)
    (taken : hunk.trim = .ok trimmed) :
    (∃ scope,
      (searchHunk lastLine (.whole margin) (findScope profile ⟨source, .ok tree⟩) hunk).answer =
        .ok (some scope)) ↔
      ∃ scope, findScope profile ⟨source, .ok tree⟩ (Window.around lastLine 0 trimmed.span).exact =
        .ok (some scope) := by
  obtain ⟨lead, tail, trims⟩ := Diff.Hunk.trims_of_trim taken
  obtain ⟨span_pos, order⟩ := trims.span_pos start
  have sound := Window.sound_around margin lines span_pos order
  rw [searchHunk_of_trim taken]
  refine Window.exists_search_iff sound
    (answers_findScope profile source starts) fun ⟨wide, found⟩ => ?_
  exact exists_findScope_of_inside nested starts sound.order sound.inside found

end

/-- Around rows among those that a scope is found for there is one too, a definition if that is one;
without wrappers, and if both are of one kind, it is no longer. So a margin hides nothing: a scope
is found for a hunk with it exactly if one is found without. -/
theorem findScope_narrows {tree : Tree} (nested : tree.Nested) (profile : Profile)
    (source : String) :
    let find : Finder := findScope profile ⟨source, .ok tree⟩
    (∀ inner outer : Rows, inner.first ≤ inner.last → inner.Inside outer →
        ∀ wide, find outer = .ok (some wide) →
          find inner ≠ .ok none ∧
          ((∀ node ∈ tree.nodes, 0 ≤ node.label.startRow) →
            ∃ narrow, find inner = .ok (some narrow)) ∧
          ∀ narrow, find inner = .ok (some narrow) →
            (wide.kind = .definition → narrow.kind = .definition) ∧
            (profile.wrappers = [] → narrow.kind = wide.kind → narrow.lineCount ≤ wide.lineCount)) ∧
      ((∀ node ∈ tree.nodes, 0 ≤ node.label.startRow) →
        ∀ (lastLine margin : Nat) (hunk : Diff.Hunk), 0 < lastLine → 0 < hunk.new.start →
          ((∃ scope, (searchHunk lastLine (.whole margin) find hunk).answer = .ok (some scope)) ↔
            ∃ scope, (searchHunk lastLine (.whole 0) find hunk).answer = .ok (some scope))) := by
  intro find
  constructor
  · intro inner outer order inside wide found
    exact ⟨findScope_ne_none_of_inside nested inside found,
      fun starts => exists_findScope_of_inside nested starts order inside found,
      fun narrow again => findScope_le_of_inside nested inside found again⟩
  · intro starts lastLine margin hunk lines start
    cases taken : hunk.trim with
    | error fault => simp [searchHunk, taken]
    | ok trimmed =>
      exact (exists_searchHunk_iff nested starts margin lines start taken).trans
        (exists_searchHunk_iff nested starts 0 lines start taken).symm

theorem findScope_narrows_nested :
    let text := "function f() \x7b\n  function g() \x7b\n    a\n  \x7d\n  b\n\x7d"
    let inner : Tree := .node ⟨"function_declaration", 1, 2, 3, 17, 44, none, {}⟩ []
    let outer : Tree := .node ⟨"function_declaration", 0, 0, 5, 0, 50, none, {}⟩ [inner]
    let tree : Tree := .node ⟨"program", 0, 0, 5, 0, 50, none, {}⟩ [outer]
    let profile := Syntax.Language.javascript.profile
    let find := findScope profile ⟨text, .ok tree⟩
    tree.Nested ∧ (∀ node ∈ tree.nodes, 0 ≤ node.label.startRow) ∧ Rows.Inside ⟨2, 2⟩ ⟨1, 4⟩ ∧
      profile.wrappers = [] ∧ ∃ wide narrow, find ⟨1, 4⟩ = .ok (some wide) ∧
        find ⟨2, 2⟩ = .ok (some narrow) ∧
        narrow.kind = .definition ∧ narrow.lineCount ≤ wide.lineCount := by
  -- Of a function in a function the outer one is found for more rows.
  intro text inner outer tree profile find
  have nested : tree.Nested := by
    simp [Tree.Nested, Tree.nodes, Tree.nodesOfAll, Tree.children, Tree.Holds, Tree.label, tree,
      outer, inner]
  have starts : ∀ node ∈ tree.nodes, 0 ≤ node.label.startRow := by
    simp [Tree.nodes, Tree.nodesOfAll, Tree.label, tree, outer, inner]
  have inside : Rows.Inside ⟨2, 2⟩ ⟨1, 4⟩ := ⟨by decide, by decide⟩
  let whole : Scope := ⟨.definition, "function_declaration", 1, 6, text, none, by decide, by decide⟩
  have found : find ⟨1, 4⟩ = .ok (some whole) := by decide +kernel
  obtain ⟨-, finds, keeps⟩ :=
    (findScope_narrows nested profile text).1 ⟨2, 2⟩ ⟨1, 4⟩ (by decide) inside _ found
  obtain ⟨narrow, again⟩ := finds starts
  obtain ⟨kind, lines⟩ := keeps narrow again
  have definition := kind rfl
  exact ⟨nested, starts, inside, rfl, _, narrow, found, again, definition, lines rfl definition⟩

end ReviewContext
