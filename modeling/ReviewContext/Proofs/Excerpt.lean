import ReviewContext.Excerpt
import ReviewContext.Proofs.Diff.Merge
import ReviewContext.Proofs.Scope.Outermost
import ReviewContext.Proofs.Scope.Window
import ReviewContext.Syntax.Language

/-! Excerpts: without the lines that are gone, the excerpt of a bucket is the source of its
scope. -/
namespace ReviewContext

open Diff (Hunk)

namespace Scope

/-- A hunk of a file covers lines of a scope, none before its first and none after its last. -/
structure Covers (scope : Scope) (hunk : Hunk) : Prop where
  first : scope.first ≤ hunk.new.start
  last : hunk.new.start - 1 + hunk.new.count ≤ scope.last

theorem linesOf_split {file : List String} {scope : Scope} {hunk : Hunk} (agrees : hunk.Agrees file)
    (covers : scope.Covers hunk) :
    (scope.linesOf file).take (hunk.new.start - scope.first) ++ hunk.newContents ++
      (scope.linesOf file).drop (hunk.new.start - scope.first + hunk.new.count) =
        scope.linesOf file := by
  obtain ⟨first, last⟩ := covers
  have positive := scope.first_pos
  have here : scope.first - 1 + (hunk.new.start - scope.first) = hunk.new.start - 1 := by omega
  have fits : min hunk.new.count (scope.last - (scope.first - 1) - (hunk.new.start - scope.first)) =
      hunk.new.count := by omega
  have covered : ((scope.linesOf file).drop (hunk.new.start - scope.first)).take hunk.new.count =
      hunk.newContents := by
    rw [linesOf, List.drop_take, List.drop_drop, List.take_take, here, fits, agrees.contents]
  rw [← covered, List.append_assoc, ← List.drop_drop, List.take_append_drop, List.take_append_drop]

end Scope

theorem Scope.exists_covered {file : List String} {scope : Scope} {hunks : List Hunk}
    {merge : Diff.Merge} (sound : merge.Sound file hunks) (nonempty : hunks ≠ [])
    (agree : ∀ hunk ∈ hunks, hunk.Agrees file)
    (holds : ∀ hunk ∈ hunks, scope.HoldsEdits file.length hunk) :
    ∃ trimmed, merge.hunk.trim = .ok trimmed ∧ trimmed.Agrees file ∧ scope.Covers trimmed := by
  have edited : ∀ hunk ∈ hunks, hunk.hasEdits = true := by
    intro hunk inside
    obtain ⟨trimmed, taken, -⟩ := holds hunk inside
    obtain ⟨lead, tail, trims⟩ := Hunk.trims_of_trim taken
    exact trims.hasEdits
  obtain ⟨trimmed, first, last, taken, agrees, -, front, back⟩ := sound.trim agree edited nonempty
  obtain ⟨foremost, begins, opened, start⟩ := front
  obtain ⟨hindmost, ends, closed, stop⟩ := back
  refine ⟨trimmed, taken, agrees, ?_, ?_⟩
  · obtain ⟨own, same, above, -⟩ := holds foremost begins
    rw [opened, Except.ok.injEq] at same
    subst same
    rw [start]
    exact above.trans (Nat.min_le_left ..)
  · obtain ⟨own, same, -, below⟩ := holds hindmost ends
    rw [closed, Except.ok.injEq] at same
    subst same
    have start_pos := agrees.start_pos
    have inside := agrees.inside
    simp only [Hunk.span] at below
    -- A hunk that only removes lines behind the end of the file is looked up at the last line, but
    -- covers none.
    omega

namespace Excerpt

/-- Lines that show a hunk in a scope: under its header stand the lines of the scope, and among
them, in the place of those that it has in the new file, the marked lines of the trimmed hunk, with
all of its edits. -/
def Shows (file : List String) (scope : Scope) (hunk : Hunk) (shown : List String) : Prop :=
  ∃ trimmed before after, hunk.trim = .ok trimmed ∧
    shown = hunk.header :: (before ++ trimmed.rawLines ++ after) ∧
    before ++ trimmed.newContents ++ after = scope.linesOf file ∧
    before.length = trimmed.new.start - scope.first ∧ trimmed.edits = hunk.edits

theorem lines_eq_ok (text : String) {scope : Scope} {hunk trimmed : Hunk}
    (taken : hunk.trim = .ok trimmed) (after : scope.first ≤ trimmed.new.start) :
    lines text scope hunk = .ok (hunk.header :: replace (scope.linesOf (Text.fileLines text))
      (trimmed.new.start - scope.first) trimmed.new.count trimmed.rawLines) := by
  rw [lines, taken]
  exact if_neg (Nat.not_lt.mpr after)

theorem exists_lines {text : String} {scope : Scope} {hunk trimmed : Hunk}
    (taken : hunk.trim = .ok trimmed) (agrees : trimmed.Agrees (Text.fileLines text))
    (covers : scope.Covers trimmed) :
    ∃ shown, lines text scope hunk = .ok shown ∧ Shows (Text.fileLines text) scope hunk shown := by
  have split := scope.linesOf_split agrees covers
  have size :
    ((scope.linesOf (Text.fileLines text)).take (trimmed.new.start - scope.first)).length =
      trimmed.new.start - scope.first := by
    apply List.length_take_of_le
    have inside := agrees.inside
    have last := covers.last
    have positive := scope.first_pos
    rw [Scope.linesOf, List.length_take, List.length_drop]
    omega
  obtain ⟨lead, tail, trims⟩ := Diff.Hunk.trims_of_trim taken
  exact ⟨_, lines_eq_ok text taken covers.first, trimmed, _, _, taken, rfl, split, size,
    trims.edits⟩

theorem namedLines_eq_lines {text : String} {scope : Scope} {hunk trimmed : Hunk}
    (taken : hunk.trim = .ok trimmed) (written : hunk.isWritable = true)
    (known : scope.isWritable = true)
    (place : Text.isWritable (trimmed.new.start - scope.first) = true) :
    namedLines text scope hunk = lines text scope hunk := by
  rw [namedLines, taken]
  simp only [written, known, place, Bool.and_self, if_true]

theorem namedLines_eq {text : String} {scope : Scope} {hunk trimmed : Hunk}
    (taken : hunk.trim = .ok trimmed) (covers : scope.Covers trimmed)
    (written : hunk.isWritable = true) (known : scope.isWritable = true) :
    namedLines text scope hunk = lines text scope hunk := by
  have positive := scope.first_pos
  have first := covers.first
  have last := covers.last
  refine namedLines_eq_lines taken written known ?_
  rw [Scope.isWritable, Bool.and_eq_true] at known
  rw [← Int.ofNat_sub first]
  exact Text.isWritable_of_le known.2 (by omega)

end Excerpt

theorem Excerpt.exists_shown {text : String} {scope : Scope} {hunks : List Hunk}
    (nonempty : hunks ≠ []) (agree : ∀ hunk ∈ hunks, hunk.Agrees (Text.fileLines text))
    (ordered : (Diff.byNewStart hunks).Pairwise Hunk.Precedes)
    (holds : ∀ hunk ∈ hunks, scope.HoldsEdits (lastLine text) hunk)
    (written : ∀ hunk ∈ hunks, hunk.isWritable = true) (known : scope.isWritable = true) :
    ∃ merged shown, Diff.merge text hunks = .ok merged ∧ lines text scope merged = .ok shown ∧
      Shows (Text.fileLines text) scope merged shown ∧
      merged.edits = (Diff.byNewStart hunks).flatMap Hunk.edits ∧
      (Text.isWritable merged.lines.length = true →
        Diff.mergeNamed text hunks = .ok merged ∧ namedLines text scope merged = .ok shown) := by
  have member {hunk : Hunk} : hunk ∈ Diff.byNewStart hunks ↔ hunk ∈ hunks := List.mem_mergeSort
  have filled : Diff.byNewStart hunks ≠ [] := by
    obtain ⟨hunk, inside⟩ := List.exists_mem_of_ne_nil hunks nonempty
    exact List.ne_nil_of_mem (member.mpr inside)
  obtain ⟨merge, merged, sound⟩ := Diff.exists_merge nonempty agree ordered
  rw [lastLine_eq] at holds
  obtain ⟨trimmed, taken, agrees, covers⟩ := Scope.exists_covered sound filled
    (fun hunk inside => agree hunk (member.mp inside)) (fun hunk inside =>
      holds hunk (member.mp inside))
  obtain ⟨shown, ok, shows⟩ := exists_lines taken agrees covers
  refine ⟨merge.hunk, shown, merged, ok, shows, sound.edits, fun short => ?_⟩
  have named := sound.isWritable filled (fun hunk inside => written hunk (member.mp inside)) short
  rw [namedLines_eq taken covers named known]
  refine ⟨?_, ok⟩
  rw [Diff.mergeNamed, merged]
  simp only [bind, Except.bind, named, if_true]
  rfl

/-- Hunks that a file bears out are grouped, unless a number is too long to be written, and the
hunks of each bucket are shown in its scope. -/
theorem Grouping.ofHunks_shown (profile : Syntax.Profile) (margin : Nat) {text : String}
    {tree : Syntax.Tree} {hunks : List Hunk} (starts : ∀ node ∈ tree.nodes, 0 ≤ node.label.startRow)
    (agree : ∀ hunk ∈ hunks, hunk.Agrees (Text.fileLines text))
    (ordered : (Diff.byNewStart hunks).IsChain Hunk.Precedes) :
    (∃ grouping, ofHunks text (.whole margin) (findScope profile ⟨text, .ok tree⟩) hunks =
      .ok grouping ∧
      ∀ bucket ∈ grouping.buckets, ∃ merged shown, Diff.merge text bucket.items = .ok merged ∧
        Excerpt.lines text bucket.scope merged = .ok shown ∧
        Excerpt.Shows (Text.fileLines text) bucket.scope merged shown ∧
        merged.edits = (Diff.byNewStart bucket.items).flatMap Hunk.edits ∧
        (Text.isWritable merged.lines.length = true →
          Diff.mergeNamed text bucket.items = .ok merged ∧
          Excerpt.namedLines text bucket.scope merged = .ok shown)) ∨
    (ofHunks text (.whole margin) (findScope profile ⟨text, .ok tree⟩) hunks = .error .unwritable ∧
      ∃ hunk ∈ hunks,
        Unwritable (lastLine text) (.whole margin) (findScope profile ⟨text, .ok tree⟩) hunk) := by
  have answers : Finder.Answers (findScope profile ⟨text, .ok tree⟩) :=
    answers_findScope profile text starts
  rcases ofHunks_cases margin answers fun hunk inside => (agree hunk inside).start_pos with
    ⟨grouping, grouped, facts⟩ | failed
  · refine .inl ⟨grouping, grouped, fun bucket hb => ?_⟩
    have sound := sound_ofHunks grouped
    obtain ⟨opener, ho, found⟩ := sound.opened bucket hb
    have inside : ∀ hunk ∈ bucket.items, hunk ∈ hunks := fun hunk hm => sound.mem_of_mem_items hb hm
    have known := ((facts opener (inside opener ho)).2 _ found).1
    refine Excerpt.exists_shown (List.ne_nil_of_mem ho) (fun hunk hm => agree hunk (inside hunk hm))
      (Diff.pairwise_byNewStart ordered (sound.items_subperm hb)) ?_
      (fun hunk hm => (facts hunk (inside hunk hm)).1) known
    intro hunk hm
    obtain ⟨inner, own, contains⟩ := sound.held bucket hb hunk hm
    exact ((facts hunk (inside hunk hm)).2 inner own).2.of_contains contains
  · exact .inr failed

theorem Grouping.ofHunks_shown_function :
    let text := "def f():\n  a\n  b\n  c\nz"
    let body : Syntax.Tree := .node ⟨"function_definition", 0, 0, 3, 0, 20, none, {}⟩ []
    let tree : Syntax.Tree := .node ⟨"module", 0, 0, 4, 0, 22, none, {}⟩ [body]
    let find := findScope Syntax.Language.python.profile ⟨text, .ok tree⟩
    let second : Hunk := ⟨⟨2, 1⟩, ⟨2, 1⟩, [⟨.removed, "  x"⟩, ⟨.added, "  a"⟩], ["\n", "\n"]⟩
    let fourth : Hunk := ⟨⟨4, 2⟩, ⟨4, 1⟩, [⟨.removed, "  y"⟩, ⟨.context, "  c"⟩], ["\n", "\n"]⟩
    (∀ node ∈ tree.nodes, 0 ≤ node.label.startRow) ∧
      (∀ hunk ∈ [fourth, second], hunk.Agrees (Text.fileLines text)) ∧
      (Diff.byNewStart [fourth, second]).IsChain Hunk.Precedes ∧
      ∃ grouping, ofHunks text (.whole 0) find [fourth, second] = .ok grouping ∧
        grouping.keys = ["1 -> 4"] ∧
        ∀ bucket ∈ grouping.buckets, ∃ merged shown, Excerpt.lines text bucket.scope merged =
          .ok shown ∧
          Excerpt.Shows (Text.fileLines text) bucket.scope merged shown := by
  -- The later of two changes to a function comes first; nothing is left of the line that it takes
  -- away.
  intro text body tree find second fourth
  have starts : ∀ node ∈ tree.nodes, 0 ≤ node.label.startRow := by decide
  have agree : ∀ hunk ∈ [fourth, second], hunk.Agrees (Text.fileLines text) := by
    rw [List.forall_mem_cons, List.forall_mem_singleton]
    exact ⟨⟨by decide, by decide, by decide, by decide⟩,
      ⟨by decide, by decide, by decide, by decide⟩⟩
  have ordered : (Diff.byNewStart [fourth, second]).IsChain Hunk.Precedes := by
    have order : Diff.byNewStart [fourth, second] = [second, fourth] := by
      simp [Diff.byNewStart, List.mergeSort, List.MergeSort.Internal.splitInTwo, fourth, second]
    rw [order]
    exact .cons_cons ⟨by decide, by decide⟩ (.singleton _)
  have keys : (ofHunks text (.whole 0) find [fourth, second]).map keys =
    .ok ["1 -> 4"] := by decide +kernel
  refine ⟨starts, agree, ordered, ?_⟩
  rcases ofHunks_shown Syntax.Language.python.profile 0 starts agree ordered with
    ⟨grouping, grouped, shown⟩ | failed
  · refine ⟨grouping, grouped, ?_, fun bucket hb => ?_⟩
    · rw [show ofHunks text (.whole 0) find [fourth, second] = .ok grouping from grouped] at keys
      exact Except.ok.inj keys
    · obtain ⟨merged, lines, -, ok, shows, -⟩ := shown bucket hb
      exact ⟨merged, lines, ok, shows⟩
  · rw [show ofHunks text (.whole 0) find [fourth, second] =
      .error .unwritable from failed.1] at keys
    contradiction

end ReviewContext
