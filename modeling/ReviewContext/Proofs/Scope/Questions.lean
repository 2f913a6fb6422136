import ReviewContext.Proofs.Scope.Window

/-! Questions: what a search asks about lies in the text, and it asks again, about fewer rows, only
if nothing was found the first time. -/
namespace ReviewContext

open Syntax (Rows)

/-- Rows in order, of a text that has so many. -/
structure Syntax.Rows.Within (rows : Rows) (count : Nat) : Prop where
  first_nonneg : 0 ≤ rows.first
  order : rows.first ≤ rows.last
  last_lt : rows.last < count

/-- A search puts one question and has its answer, or a second one, about rows among the first,
where the first found nothing. -/
inductive Search.Asks (find : Finder) : Search → Prop
  | once (rows : Rows) : Asks find ⟨[rows], find rows⟩
  | twice {wide exact : Rows} (nothing : find wide = .ok none) (inside : exact.Inside wide)
    (other : exact ≠ wide) :
      Asks find ⟨[wide, exact], find exact⟩

namespace Window

variable {window : Window} {find : Finder} {lastLine margin : Nat} {span : Nat × Nat}

theorem asks_search (sound : window.Sound) (find : Finder) : (window.search find).Asks find := by
  rcases window.search_cases find with ⟨-, one⟩ | ⟨nothing, other, two⟩
  · rw [one]
    exact .once window.wide
  · rw [two]
    exact .twice nothing sound.inside other

theorem questions_subset (window : Window) (find : Finder) :
    (window.search find).questions ⊆ [window.wide, window.exact] := by
  rcases window.search_cases find with ⟨-, one⟩ | ⟨-, -, two⟩
  · simp [one]
  · simp [two]

theorem length_questions_of_eq (same : window.wide = window.exact) (find : Finder) :
    (window.search find).questions.length = 1 := by
  rcases window.search_cases find with ⟨-, one⟩ | ⟨-, other, -⟩
  · rw [one, List.length_singleton]
  · exact absurd same.symm other

theorem holdsRows_of_search (sound : window.Sound) {scope : Scope}
    (holds : ∀ rows ∈ (window.search find).questions, find rows = .ok (some scope) →
      scope.HoldsRows rows)
    (found : (window.search find).answer = .ok (some scope)) : scope.HoldsRows window.exact := by
  rcases window.search_cases find with ⟨-, one⟩ | ⟨-, -, two⟩
  · rw [one] at holds found
    exact (holds window.wide List.mem_cons_self found).of_inside sound.inside
  · rw [two] at holds found
    exact holds window.exact (by simp) found

theorem exact_of_search_none (window : Window) (missing : (window.search find).answer = .ok none) :
    find window.exact = .ok none := by
  rcases window.search_cases find with ⟨same, one⟩ | ⟨-, -, two⟩
  · rw [one] at missing
    rw [same missing]
    exact missing
  · rw [two] at missing
    exact missing

theorem exact_around (lastLine margin : Nat) (span : Nat × Nat) :
    (around lastLine margin span).exact =
      ⟨(min span.1 lastLine : Nat) - 1, (min span.2 lastLine : Nat) - 1⟩ := by
  simp only [around, Rows.mk.injEq]
  omega

theorem within_around (margin : Nat) (lines : 0 < lastLine) (start : 0 < span.1)
    (order : span.1 ≤ span.2) :
    (around lastLine margin span).wide.Within lastLine ∧
      (around lastLine margin span).exact.Within lastLine := by
  refine ⟨⟨?_, ?_, ?_⟩, ?_, ?_, ?_⟩ <;> simp only [around] <;> omega

theorem wide_around_zero (lines : 0 < lastLine) (start : 0 < span.1) :
    (around lastLine 0 span).wide = (around lastLine 0 span).exact := by
  simp only [around, Rows.mk.injEq]
  omega

end Window

theorem searchHunk_of_trim {lastLine margin : Nat} {find : Finder} {hunk trimmed : Diff.Hunk}
    (taken : hunk.trim = .ok trimmed) :
    searchHunk lastLine (.whole margin) find hunk =
      (Window.around lastLine margin trimmed.span).search find := by
  rw [searchHunk, taken]

/-- A search for the scope of a hunk with edits puts one question or two, each about rows of the
text, and one only without a margin. If scopes hold the rows they are found for, then what is found
holds all lines of the edits, as far as they are lines of the text, and nothing is found only if
there is nothing around these. A finder that remembers what it was asked is no exception, since no
question is put twice. -/
theorem searchHunk_asks (text : String) (margin : Nat) (find : Finder) {hunk : Diff.Hunk}
    (edited : hunk.hasEdits = true) (start : 0 < hunk.new.start) :
    let search := searchHunk (lastLine text) (.whole margin) find hunk
    search.Asks find ∧ (∀ rows ∈ search.questions, rows.Within (Text.rows text).length) ∧
      (margin = 0 → search.questions.length = 1) ∧
      ∃ trimmed, hunk.trim = .ok trimmed ∧
        let first := min trimmed.span.1 (lastLine text)
        let last := min trimmed.span.2 (lastLine text)
        (search.answer = .ok none → find ⟨first - 1, last - 1⟩ = .ok none) ∧
          ∀ scope, (∀ rows ∈ search.questions, find rows = .ok (some scope) →
            scope.HoldsRows rows) →
            search.answer = .ok (some scope) →
              ∀ line, first ≤ line → line ≤ last → scope.first ≤ line ∧ line ≤ scope.last := by
  obtain ⟨trimmed, taken⟩ := Diff.Hunk.exists_trim edited
  obtain ⟨lead, tail, trims⟩ := Diff.Hunk.trims_of_trim taken
  have lines := lastLine_pos text
  have rows : (Text.rows text).length = lastLine text := by rw [lastLine_eq, Text.length_fileLines]
  obtain ⟨span_pos, order⟩ := trims.span_pos start
  have sound := Window.sound_around margin lines span_pos order
  have within := Window.within_around margin lines span_pos order
  rw [rows, searchHunk_of_trim taken]
  refine ⟨Window.asks_search sound find, ?_, ?_, trimmed, taken, ?_, ?_⟩
  · intro asked inside
    have known := Window.questions_subset _ find inside
    simp only [List.mem_cons, List.not_mem_nil, or_false] at known
    rcases known with rfl | rfl
    · exact within.1
    · exact within.2
  · rintro rfl
    exact Window.length_questions_of_eq (Window.wide_around_zero lines span_pos) find
  · intro missing
    have nothing := Window.exact_of_search_none _ missing
    rw [Window.exact_around] at nothing
    exact nothing
  · intro scope holds found line above below
    obtain ⟨first, last⟩ := Window.holdsRows_of_search sound holds found
    simp only [Window.around] at first last
    omega

theorem searchHunk_asks_pastEnd :
    let hunk : Diff.Hunk := ⟨⟨9, 1⟩, ⟨9, 0⟩, [⟨.removed, "x"⟩], ["\n"]⟩
    let scope : Scope := ⟨.block, "if_statement", 2, 2, "b", none, by decide, by decide⟩
    let find : Finder := fun rows => .ok (if rows.first = 1 then some scope else none)
    let search := searchHunk (lastLine "a\nb") (.whole 1) find hunk
    hunk.hasEdits = true ∧ 0 < hunk.new.start ∧ search.questions = [⟨0, 1⟩, ⟨1, 1⟩] ∧
      search.answer = .ok (some scope) ∧ search.Asks find ∧
        ∀ rows ∈ search.questions, rows.Within 2 := by
  -- Behind the end of the text a line was removed. The last row alone is asked about second.
  intro hunk scope find search
  have edited : hunk.hasEdits = true := by decide
  have start : 0 < hunk.new.start := by decide
  have lines : (Text.rows "a\nb").length = 2 := by decide
  obtain ⟨asks, within, -⟩ := searchHunk_asks "a\nb" 1 find edited start
  exact ⟨edited, start, by decide, by decide, asks, lines ▸ within⟩

end ReviewContext
