import ReviewContext.Proofs.Diff.Trim
import ReviewContext.Proofs.Scope.HunkGrouping
import ReviewContext.Proofs.Scope.Lookup

/-! Windows: whichever question is answered first, the scope that is found for a hunk holds its
edits. -/
namespace ReviewContext

open Syntax (Rows)

theorem lastLine_eq (text : String) : lastLine text = (Text.fileLines text).length := by
  have rows : Text.rows text ≠ [] := by
    rw [Text.rows, ne_eq, List.map_eq_nil_iff]
    exact List.splitOn_ne_nil '\n' _
  have filled := List.length_pos_iff.mpr rows
  rw [lastLine, Text.length_fileLines]
  omega

theorem lastLine_pos (text : String) : 0 < lastLine text :=
  Nat.lt_of_lt_of_le Nat.one_pos (Nat.le_max_right ..)

structure Syntax.Rows.Inside (inner outer : Rows) : Prop where
  first : outer.first ≤ inner.first
  last : inner.last ≤ outer.last

theorem Scope.HoldsRows.of_inside {scope : Scope} {inner outer : Rows}
    (holds : scope.HoldsRows outer) (inside : inner.Inside outer) : scope.HoldsRows inner := by
  obtain ⟨first, last⟩ := inside
  unfold HoldsRows at *
  omega

namespace Window

structure Sound (window : Window) : Prop where
  order : window.exact.first ≤ window.exact.last
  first : window.wide.first ≤ window.exact.first
  last : window.exact.last ≤ window.wide.last

theorem sound_around (margin : Nat) {lastLine : Nat} {span : Nat × Nat} (lines : 0 < lastLine)
    (start : 0 < span.1) (order : span.1 ≤ span.2) : (around lastLine margin span).Sound := by
  refine ⟨?_, ?_, ?_⟩ <;> simp only [around] <;> omega

theorem Sound.inside {window : Window} (sound : window.Sound) : window.exact.Inside window.wide :=
  ⟨sound.first, sound.last⟩

theorem Sound.order_wide {window : Window} (sound : window.Sound) :
    window.wide.first ≤ window.wide.last :=
  Int.le_trans sound.first (Int.le_trans sound.order sound.last)

theorem search_cases (window : Window) (find : Finder) :
    (find window.wide = .ok none → window.exact = window.wide) ∧
        window.search find = ⟨[window.wide], find window.wide⟩ ∨
      find window.wide = .ok none ∧ window.exact ≠ window.wide ∧
        window.search find = ⟨[window.wide, window.exact], find window.exact⟩ := by
  unfold search
  split
  next nothing =>
    by_cases same : window.wide = window.exact
    · exact .inl ⟨fun _ => same.symm, by rw [if_pos same, nothing]⟩
    · exact .inr ⟨nothing, Ne.symm same, if_neg same⟩
  next other => exact .inl ⟨fun nothing => absurd nothing other, rfl⟩

theorem answer_search {window : Window} (sound : window.Sound) {find : Finder}
    (answers : find.Answers) :
    ∃ found, (window.search find).answer = .ok found ∧
      ∀ scope ∈ found, scope.HoldsRows window.exact := by
  rcases window.search_cases find with ⟨-, one⟩ | ⟨-, -, two⟩
  · obtain ⟨found, asked, holds⟩ := answers window.wide sound.order_wide
    rw [one]
    exact ⟨found, asked, fun scope same => (holds scope same).of_inside sound.inside⟩
  · rw [two]
    exact answers window.exact sound.order

end Window

theorem Diff.Hunk.Trims.span_pos {hunk trimmed : Diff.Hunk} {lead tail : List Diff.Line}
    (trims : hunk.Trims trimmed lead tail) (start : 0 < hunk.new.start) :
    0 < trimmed.span.1 ∧ trimmed.span.1 ≤ trimmed.span.2 := by
  unfold Diff.Hunk.span
  rw [trims.start]
  omega

/-- A scope holds the edits of a hunk, as far as they are lines of the file. -/
def Scope.HoldsEdits (lastLine : Nat) (scope : Scope) (hunk : Diff.Hunk) : Prop :=
  ∃ trimmed, hunk.trim = .ok trimmed ∧ scope.first ≤ min trimmed.span.1 lastLine ∧
    min trimmed.span.2 lastLine ≤ scope.last

theorem Scope.HoldsEdits.of_contains {lastLine : Nat} {outer inner : Scope} {hunk : Diff.Hunk}
    (contains : outer.contains inner = true) (holds : inner.HoldsEdits lastLine hunk) :
    outer.HoldsEdits lastLine hunk := by
  obtain ⟨trimmed, taken, first, last⟩ := holds
  simp only [Scope.contains, Bool.and_eq_true, decide_eq_true_eq] at contains
  exact ⟨trimmed, taken, by omega, by omega⟩

def Unwritable (lastLine : Nat) (margin : SearchMargin) (find : Finder) (hunk : Diff.Hunk) : Prop :=
  hunk.isWritable = false ∨
    ∃ scope, (searchHunk lastLine margin find hunk).scope = .ok (some scope) ∧
    scope.isWritable = false

section

variable {rows : Nat} {find : Finder} {hunk : Diff.Hunk}

theorem scope_searchHunk (margin : Nat) (answers : find.Answers) (lines : 0 < rows)
    (start : 0 < hunk.new.start) :
    (∃ found, (searchHunk rows (.whole margin) find hunk).scope = .ok found ∧
      ∀ scope ∈ found, scope.HoldsEdits rows hunk) ∨
    (searchHunk rows (.whole margin) find hunk).scope = .error .unwritable ∧
      hunk.isWritable = false := by
  unfold searchHunk
  cases taken : hunk.trim with
  | error fault =>
    cases written : hunk.isWritable with
    | true =>
      refine .inl ⟨none, ?_, nofun⟩
      simp only [Search.scope, if_true]
    | false =>
      refine .inr ⟨?_, rfl⟩
      simp only [Search.scope, Bool.false_eq_true, if_false]
  | ok trimmed =>
    obtain ⟨lead, tail, trims⟩ := Diff.Hunk.trims_of_trim taken
    obtain ⟨first, order⟩ := trims.span_pos start
    obtain ⟨found, answer, holds⟩ :=
      Window.answer_search (Window.sound_around margin lines first order) answers
    refine .inl ⟨found, ?_, fun scope inside => ⟨trimmed, taken, ?_⟩⟩
    · simp only [Search.scope, answer]
    · obtain ⟨above, below⟩ := holds scope inside
      simp only [Window.around] at above below
      omega

theorem scopeOfHunk_cases (margin : Nat) (answers : find.Answers) (lines : 0 < rows)
    (start : 0 < hunk.new.start) :
    (∃ found, scopeOfHunk rows (.whole margin) find hunk = .ok found ∧ hunk.isWritable = true ∧
      ∀ scope ∈ found, scope.isWritable = true ∧ scope.HoldsEdits rows hunk) ∨
    scopeOfHunk rows (.whole margin) find hunk = .error .unwritable ∧
      Unwritable rows (.whole margin) find hunk := by
  unfold scopeOfHunk
  rcases scope_searchHunk margin answers lines start with ⟨found, answer, holds⟩ |
    ⟨failed, unwritten⟩
  · simp only [answer, bind, Except.bind]
    cases written : hunk.isWritable && found.all Scope.isWritable with
    | true =>
      rw [Bool.and_eq_true] at written
      refine .inl ⟨found, rfl, written.1, fun scope inside => ⟨?_, holds scope inside⟩⟩
      obtain rfl := Option.mem_def.mp inside
      rw [Option.all_some] at written
      exact written.2
    | false =>
      refine .inr ⟨rfl, ?_⟩
      rw [Bool.and_eq_false_iff] at written
      refine written.imp_right fun unknown => ?_
      cases found with
      | none => contradiction
      | some scope =>
        rw [Option.all_some] at unknown
        exact ⟨scope, answer, unknown⟩
  · simp only [failed, bind, Except.bind]
    exact .inr ⟨trivial, .inl unwritten⟩

theorem ofHunks_cases {text : String} {hunks : List Diff.Hunk} (margin : Nat)
    (answers : find.Answers) (start : ∀ hunk ∈ hunks, 0 < hunk.new.start) :
    (∃ grouping, Grouping.ofHunks text (.whole margin) find hunks = .ok grouping ∧
      ∀ hunk ∈ hunks, hunk.isWritable = true ∧ ∀ scope ∈ foundScope text (.whole margin) find hunk,
        scope.isWritable = true ∧ scope.HoldsEdits (lastLine text) hunk) ∨
    (Grouping.ofHunks text (.whole margin) find hunks = .error .unwritable ∧
      ∃ hunk ∈ hunks, Unwritable (lastLine text) (.whole margin) find hunk) := by
  have each :=
    fun hunk inside => scopeOfHunk_cases margin answers (lastLine_pos text) (start hunk inside)
  cases grouped : Grouping.ofHunks text (.whole margin) find hunks with
  | ok grouping =>
    refine .inl ⟨grouping, rfl, fun hunk inside => ?_⟩
    have own := (Grouping.ofHunks_eq_ok_iff.mp grouped).1 hunk inside
    rcases each hunk inside with ⟨found, same, facts⟩ | failed
    · rw [own, Except.ok.injEq] at same
      rw [same]
      exact facts
    · rw [own] at failed
      exact absurd failed.1 nofun
  | error fault =>
    obtain ⟨hunk, inside, failed⟩ := Grouping.exists_of_ofHunks_eq_error grouped
    rcases each hunk inside with ⟨found, same, -⟩ | ⟨same, unwritable⟩
    · rw [failed] at same
      contradiction
    · rw [failed] at same
      exact .inr ⟨congrArg Except.error (Except.error.inj same), hunk, inside, unwritable⟩

end

end ReviewContext
