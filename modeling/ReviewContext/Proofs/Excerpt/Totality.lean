import ReviewContext.Proofs.Excerpt

/-! Excerpts of any hunks: whether a text bears them out or not, the hunks of a bucket are shown in
its scope. -/
namespace ReviewContext

open Diff (Hunk)

theorem Diff.exists_merge_trim (text : String) {hunks : List Hunk} (nonempty : hunks ≠ [])
    (edited : ∀ hunk ∈ hunks, ∃ own, hunk.trim = .ok own) :
    ∃ merged trimmed, merge text hunks = .ok merged ∧ merged.trim = .ok trimmed ∧
      ∃ first ∈ hunks, ∃ own, first.trim = .ok own ∧ trimmed.new.start = own.new.start := by
  obtain ⟨merged, ok, first, inside, start, lines⟩ := exists_merge_opens text nonempty
  obtain ⟨own, taken⟩ := edited first inside
  obtain ⟨trimmed, cut, begins⟩ := Merge.exists_trim_of_prefix lines start taken
  exact ⟨merged, trimmed, ok, cut, first, inside, own, taken, begins⟩

namespace Excerpt

variable {scope : Scope} {hunk trimmed : Hunk}

theorem isWritable_place (taken : hunk.trim = .ok trimmed) (after : scope.first ≤ trimmed.new.start)
    (short : Text.isWritable (hunk.new.start + hunk.lines.length : Nat) = true) :
    Text.isWritable (trimmed.new.start - scope.first) = true := by
  obtain ⟨lead, tail, trims⟩ := Diff.Hunk.trims_of_trim taken
  have length := congrArg List.length trims.lines
  have start := trims.start
  simp only [List.length_append] at length
  rw [← Int.ofNat_sub after]
  exact Text.isWritable_of_le short (by omega)

end Excerpt

/-- Hunks that start in a text are grouped, unless a number is too long to be written, and the hunks
of each bucket are merged and shown in its scope, wherever and in whatever order they are. -/
theorem Grouping.ofHunks_total (profile : Syntax.Profile) (margin : Nat) {text : String}
    {tree : Syntax.Tree} {hunks : List Hunk} (starts : ∀ node ∈ tree.nodes, 0 ≤ node.label.startRow)
    (positive : ∀ hunk ∈ hunks, 0 < hunk.new.start) :
    (∃ grouping, ofHunks text (.whole margin) (findScope profile ⟨text, .ok tree⟩) hunks =
      .ok grouping ∧
      ∀ bucket ∈ grouping.buckets, ∃ merged shown, Diff.merge text bucket.items = .ok merged ∧
        Excerpt.lines text bucket.scope merged = .ok shown ∧
        (merged.isWritable = true → Diff.mergeNamed text bucket.items = .ok merged ∧
          (Text.isWritable (merged.new.start + merged.lines.length : Nat) = true →
            Excerpt.namedLines text bucket.scope merged = .ok shown))) ∨
    (ofHunks text (.whole margin) (findScope profile ⟨text, .ok tree⟩) hunks = .error .unwritable ∧
      ∃ hunk ∈ hunks,
        Unwritable (lastLine text) (.whole margin) (findScope profile ⟨text, .ok tree⟩) hunk) := by
  have answers : Finder.Answers (findScope profile ⟨text, .ok tree⟩) :=
    answers_findScope profile text starts
  rcases ofHunks_cases margin answers positive with ⟨grouping, grouped, facts⟩ | failed
  · refine .inl ⟨grouping, grouped, fun bucket hb => ?_⟩
    have sound := sound_ofHunks grouped
    obtain ⟨opener, ho, found⟩ := sound.opened bucket hb
    have known := ((facts opener (sound.mem_of_mem_items hb ho)).2 _ found).1
    have holds : ∀ hunk ∈ bucket.items, bucket.scope.HoldsEdits (lastLine text) hunk := by
      intro hunk hm
      obtain ⟨inner, own, contains⟩ := sound.held bucket hb hunk hm
      exact ((facts hunk (sound.mem_of_mem_items hb hm)).2 inner own).2.of_contains contains
    obtain ⟨merged, trimmed, ok, taken, first, inside, own, cut, begins⟩ :=
      Diff.exists_merge_trim text (List.ne_nil_of_mem ho) fun hunk hm =>
        (holds hunk hm).imp fun _ h => h.1
    have after : bucket.scope.first ≤ trimmed.new.start := by
      obtain ⟨same, again, above, -⟩ := holds first inside
      rw [cut, Except.ok.injEq] at again
      rw [begins, again]
      exact above.trans (Nat.min_le_left ..)
    have lines := Excerpt.lines_eq_ok text taken after
    refine ⟨merged, _, ok, lines, fun written => ⟨?_, fun short => ?_⟩⟩
    · rw [Diff.mergeNamed, ok]
      simp only [bind, Except.bind, written, if_true]
      rfl
    · rw [Excerpt.namedLines_eq_lines taken written known
        (Excerpt.isWritable_place taken after short), lines]
  · exact .inr failed

theorem Grouping.ofHunks_total_unfit :
    let text := "def f():\n  a\n  b"
    let body : Syntax.Tree := .node ⟨"function_definition", 0, 0, 2, 0, 16, none, {}⟩ []
    let tree : Syntax.Tree := .node ⟨"module", 0, 0, 2, 0, 16, none, {}⟩ [body]
    let find := findScope Syntax.Language.python.profile ⟨text, .ok tree⟩
    let behind : Hunk := ⟨⟨7, 0⟩, ⟨9, 4⟩, [⟨.added, "z"⟩], []⟩
    let removal : Hunk := ⟨⟨2, 2⟩, ⟨2, 0⟩, [⟨.context, "x"⟩, ⟨.removed, "y"⟩], ["\n", "\n"]⟩
    let addition : Hunk := ⟨⟨2, 0⟩, ⟨2, 1⟩, [⟨.added, "w"⟩], ["\n"]⟩
    let still : Hunk := ⟨⟨1, 1⟩, ⟨1, 1⟩, [⟨.context, "x"⟩], ["\n"]⟩
    (∀ node ∈ tree.nodes, 0 ≤ node.label.startRow) ∧
      (∀ hunk ∈ [behind, removal, addition, still], 0 < hunk.new.start) ∧
      ∃ grouping, ofHunks text (.whole 1) find [behind, removal, addition, still] = .ok grouping ∧
        grouping.keys = ["1 -> 3"] ∧ ∀ bucket ∈ grouping.buckets, ∃ merged shown,
          Diff.merge text bucket.items = .ok merged ∧
            Excerpt.lines text bucket.scope merged = .ok shown := by
  -- Of four changes to a function the first is behind the end of the text, with wrong counts, the
  -- next two start at the same line, and the last changes nothing.
  intro text body tree find behind removal addition still
  have starts : ∀ node ∈ tree.nodes, 0 ≤ node.label.startRow := by decide
  have positive : ∀ hunk ∈ [behind, removal, addition, still], 0 < hunk.new.start := by decide
  have keys : (ofHunks text (.whole 1) find [behind, removal, addition, still]).map keys =
      .ok ["1 -> 3"] := by
    decide +kernel
  refine ⟨starts, positive, ?_⟩
  rcases ofHunks_total Syntax.Language.python.profile 1 starts
    positive with ⟨grouping, grouped, shown⟩ | failed
  · refine ⟨grouping, grouped, ?_, fun bucket hb => ?_⟩
    · rw [show ofHunks text (.whole 1) find _ = .ok grouping from grouped] at keys
      exact Except.ok.inj keys
    · obtain ⟨merged, shown, ok, lines, -⟩ := shown bucket hb
      exact ⟨merged, shown, ok, lines⟩
  · rw [show ofHunks text (.whole 1) find _ = .error .unwritable from failed.1] at keys
    contradiction

end ReviewContext
