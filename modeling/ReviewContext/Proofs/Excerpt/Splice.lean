import ReviewContext.Proofs.Excerpt

/-! Splices: whatever a hunk and a scope are, an excerpt is the source of the scope with the trimmed
hunk in one block among it, or it is told why there is none. -/
namespace ReviewContext

open Diff (Hunk)

/-- What a hunk says of the new file stands in a file from the line on where the hunk starts,
whatever its counts say. -/
structure Diff.Hunk.ReadsFrom (hunk : Hunk) (file : List String) : Prop where
  start_pos : 0 < hunk.new.start
  contents : hunk.newContents <+: file.drop (hunk.new.start - 1)

/-- A trimmed hunk lies in a scope: its first edit is not above the scope, and none of the new-file
lines that it covers is below. -/
structure Scope.Spans (scope : Scope) (trimmed : Hunk) : Prop where
  first : scope.first ≤ trimmed.new.start
  last : ∀ line, trimmed.new.start ≤ line → line < trimmed.new.start + trimmed.new.count →
    line ≤ scope.last

namespace Diff.Hunk

theorem exists_trims {hunk : Hunk} {index : Nat} (first : hunk.firstEdit? = some index) :
    ∃ trimmed lead tail, hunk.trim = .ok trimmed ∧ hunk.Trims trimmed lead tail ∧
      trimmed.new.start = hunk.new.start + index := by
  have edited : hunk.hasEdits = true := by rw [hasEdits_eq, first, Option.isSome_some]
  obtain ⟨trimmed, taken⟩ := exists_trim edited
  obtain ⟨lead, tail, trims⟩ := trims_of_trim taken
  have place : index = lead.length := Option.some.inj (first.symm.trans trims.first)
  exact ⟨trimmed, lead, tail, taken, trims, by rw [trims.start, place]⟩

namespace ReadsFrom

variable {hunk trimmed : Hunk} {file : List String} {lead tail : List Diff.Line}

theorem trim (reads : hunk.ReadsFrom file) (trims : hunk.Trims trimmed lead tail) :
    trimmed.ReadsFrom file where
  start_pos := by
    have start_pos := reads.start_pos
    rw [trims.start]
    omega
  contents := by
    obtain ⟨more, whole⟩ := reads.contents
    have start_pos := reads.start_pos
    have place : trimmed.new.start - 1 = hunk.new.start - 1 + (lead.map Line.content).length := by
      rw [trims.start, List.length_map]
      omega
    rw [place, ← List.drop_drop, ← whole, trims.newContents]
    simp only [List.append_assoc, List.drop_left]
    exact List.prefix_append ..

theorem agrees (reads : hunk.ReadsFrom file) (counted : hunk.declared = hunk.counted)
    (some : 0 < hunk.new.count) :
    hunk.Agrees file := by
  have size := newCount_of_counted counted
  have fits := reads.contents.length_le
  rw [List.length_drop] at fits
  refine ⟨reads.start_pos, counted, ?_, by omega⟩
  rw [size]
  exact List.prefix_iff_eq_take.mp reads.contents

end ReadsFrom

end Diff.Hunk

theorem Scope.linesOf_splice {file : List String} {scope : Scope} {trimmed : Hunk}
    (reads : trimmed.ReadsFrom file) (counted : trimmed.declared = trimmed.counted)
    (spans : scope.Spans trimmed) :
    (scope.linesOf file).take (trimmed.new.start - scope.first) ++ trimmed.newContents ++
      (scope.linesOf file).drop (trimmed.new.start - scope.first + trimmed.new.count) =
        scope.linesOf file := by
  rcases Nat.eq_zero_or_pos trimmed.new.count with none | some
  · -- a block that only removes lines covers none, wherever it stands
    have empty : trimmed.newContents = [] :=
      List.eq_nil_of_length_eq_zero ((Diff.Hunk.newCount_of_counted counted).symm.trans none)
    rw [empty, none, List.append_nil, Nat.add_zero, List.take_append_drop]
  · have start_pos := reads.start_pos
    have last := spans.last (trimmed.new.start + trimmed.new.count - 1) (by omega) (by omega)
    exact linesOf_split (reads.agrees counted some) ⟨spans.first, by omega⟩

namespace Excerpt

/-- The numbers that an excerpt is known by can be written. The lines of the scope, and how far into
it the first edit is, are told only of a hunk with edits. -/
def Told (scope : Scope) (hunk : Hunk) : Prop :=
  hunk.isWritable = true ∧ ∀ index, hunk.firstEdit? = some index →
    scope.isWritable = true ∧
      Text.isWritable (((hunk.new.start + index : Nat) : Int) - scope.first) = true

/-- An excerpt that has the trimmed hunk in one block among the lines of its scope, behind as many
of them as stand above the first edit. If the hunk reads as the file does, the lines around the
block are those around the new-file lines that it covers. -/
def Spliced (file : List String) (scope : Scope) (hunk : Hunk) (shown : List String) : Prop :=
  ∃ trimmed before after, hunk.trim = .ok trimmed ∧
    shown = hunk.header :: (before ++ trimmed.rawLines ++ after) ∧
    before = (scope.linesOf file).take (trimmed.new.start - scope.first) ∧
    (hunk.ReadsFrom file → scope.Spans trimmed →
      before ++ trimmed.newContents ++ after = scope.linesOf file)

variable {text : String} {scope : Scope} {hunk : Hunk} {index : Nat}

theorem namedLines_eq_lines_of_told (told : Told scope hunk) :
    namedLines text scope hunk = lines text scope hunk := by
  cases first : hunk.firstEdit? with
  | none =>
    rw [namedLines, lines, Diff.Hunk.trim_eq_error first]
    simp only [told.1, if_true]
  | some index =>
    obtain ⟨trimmed, lead, tail, taken, trims, start⟩ := Diff.Hunk.exists_trims first
    obtain ⟨known, place⟩ := told.2 index first
    exact namedLines_eq_lines taken told.1 known (by rw [start]; exact place)

theorem namedLines_of_not_told (untold : ¬ Told scope hunk) :
    namedLines text scope hunk = .error .unwritable := by
  cases first : hunk.firstEdit? with
  | none =>
    have unwritten : hunk.isWritable = false :=
      Bool.eq_false_iff.mpr fun written =>
        untold ⟨written, fun index some => by simp [first] at some⟩
    rw [namedLines, Diff.Hunk.trim_eq_error first]
    simp [unwritten]
  | some index =>
    obtain ⟨trimmed, lead, tail, taken, trims, start⟩ := Diff.Hunk.exists_trims first
    rw [namedLines, taken]
    refine if_neg fun all => untold ?_
    simp only [Bool.and_eq_true] at all
    refine ⟨all.1.1, fun other same => ?_⟩
    obtain rfl := Option.some.inj (first.symm.trans same)
    exact ⟨all.1.2, by rw [← start]; exact all.2⟩

theorem lines_of_still (still : hunk.firstEdit? = none) :
    lines text scope hunk = .error (.malformed (.noEdits hunk.header)) := by
  rw [lines, Diff.Hunk.trim_eq_error still]

theorem lines_of_above (first : hunk.firstEdit? = some index)
    (above : hunk.new.start + index < scope.first) :
    lines text scope hunk = .error (.startsBefore hunk.header scope.key) := by
  obtain ⟨trimmed, lead, tail, taken, trims, start⟩ := Diff.Hunk.exists_trims first
  rw [lines, taken]
  exact if_pos (by rw [start]; exact above)

theorem exists_spliced (text : String) (first : hunk.firstEdit? = some index)
    (from_first : scope.first ≤ hunk.new.start + index) :
    ∃ shown, lines text scope hunk = .ok shown ∧
      Spliced (Text.fileLines text) scope hunk shown := by
  obtain ⟨trimmed, lead, tail, taken, trims, start⟩ := Diff.Hunk.exists_trims first
  have after : scope.first ≤ trimmed.new.start := by rw [start]; exact from_first
  refine ⟨_, lines_eq_ok text taken after, trimmed, _, _, taken, rfl, rfl, fun reads spans => ?_⟩
  exact scope.linesOf_splice (reads.trim trims) trims.counted spans

/-- A hunk without edits is refused as such, and one whose first edit is above the scope for that;
any other is spliced into its scope. A number that cannot be written, and nothing else, keeps it
from being told. -/
theorem namedLines_splices (text : String) (scope : Scope) (hunk : Hunk) :
    (namedLines text scope hunk = .error .unwritable ↔ ¬ Told scope hunk) ∧
      (Told scope hunk →
        (namedLines text scope hunk = .error (.malformed (.noEdits hunk.header)) ↔
          hunk.firstEdit? = none) ∧
        (namedLines text scope hunk = .error (.startsBefore hunk.header scope.key) ↔
          ∃ index, hunk.firstEdit? = some index ∧ hunk.new.start + index < scope.first) ∧
        ∀ index, hunk.firstEdit? = some index → scope.first ≤ hunk.new.start + index →
          ∃ shown, namedLines text scope hunk = .ok shown ∧
            Spliced (Text.fileLines text) scope hunk shown) := by
  by_cases told : Told scope hunk
  · rw [namedLines_eq_lines_of_told told]
    simp only [told, not_true_eq_false, iff_false, forall_const]
    cases first : hunk.firstEdit? with
    | none => simp [lines_of_still first]
    | some index =>
      rcases Nat.lt_or_ge (hunk.new.start + index) scope.first with above | from_first
      · simp [lines_of_above first above, above]
      · obtain ⟨shown, ok, spliced⟩ := exists_spliced text first from_first
        simp [ok, spliced, from_first]
  · simp [namedLines_of_not_told told, told]

theorem namedLines_splices_lastLine :
    let text := "def f():\n  a\n  b\nz"
    let scope : Scope :=
      ⟨.definition, "function_definition", 1, 3, "", some "f", by decide, by decide⟩
    let lines : List Diff.Line := [⟨.context, "  a"⟩, ⟨.removed, "  x"⟩, ⟨.added, "  b"⟩]
    let hunk : Hunk := ⟨⟨2, 1⟩, ⟨2, 1⟩, lines, ["\n", "\n", "\n"]⟩
    Told scope hunk ∧ hunk.firstEdit? = some 1 ∧ scope.first ≤ hunk.new.start + 1 ∧
      hunk.ReadsFrom (Text.fileLines text) ∧
        (∀ trimmed, hunk.trim = .ok trimmed → scope.Spans trimmed) ∧
      ∃ shown trimmed before after, namedLines text scope hunk = .ok shown ∧
        hunk.trim = .ok trimmed ∧
        shown = hunk.header :: (before ++ trimmed.rawLines ++ after) ∧
        before ++ trimmed.newContents ++ after = ["def f():", "  a", "  b"] := by
  -- A line is replaced at the end of a function, by a hunk whose header counts too few lines.
  intro text scope lines hunk
  have told : Told scope hunk := by
    refine ⟨by decide +kernel, fun index first => ?_⟩
    obtain rfl := Option.some.inj (first.symm.trans (show hunk.firstEdit? = some 1 from rfl))
    exact ⟨by decide +kernel, by decide +kernel⟩
  have reads : hunk.ReadsFrom (Text.fileLines text) := ⟨by decide, by decide⟩
  have spans : ∀ trimmed, hunk.trim = .ok trimmed → scope.Spans trimmed := by
    rintro trimmed ⟨⟩
    exact ⟨by decide, fun line _ below => Nat.le_of_lt_succ below⟩
  obtain ⟨shown, ok, trimmed, before, after, taken, split, -, source⟩ :=
    ((namedLines_splices text scope hunk).2 told).2.2 1 rfl (by decide)
  exact ⟨told, rfl, by decide, reads, spans, shown, trimmed, before, after, ok, taken, split,
    (source reads (spans trimmed taken)).trans (by decide)⟩

theorem namedLines_distant :
    let scope : Scope := ⟨.definition, "function_definition", 1, 2, "", none, by decide, by decide⟩
    let lines : List Diff.Line := [⟨.context, "c"⟩, ⟨.context, "c"⟩, ⟨.added, "b"⟩]
    let hunk : Hunk := ⟨⟨1, 1⟩, ⟨Nat.pow 10 4300 - 1, 2⟩, lines, ["\n", "\n", "\n"]⟩
    hunk.isWritable = true ∧ scope.isWritable = true ∧ hunk.firstEdit? = some 2 ∧
      scope.first ≤ hunk.new.start + 2 ∧ namedLines "a\nb\n" scope hunk = .error .unwritable := by
  -- The place of an edit may have too many digits where all numbers that the hunk and the scope
  -- have can be written: then there is no excerpt, although the edit is not above the scope.
  intro scope lines hunk
  have long : Text.isWritable (((hunk.new.start + 2 : Nat) : Int) - scope.first) =
    false := by decide +kernel
  have first : hunk.firstEdit? = some 2 := by decide +kernel
  have untold : ¬ Told scope hunk :=
    fun told => Bool.false_ne_true (long.symm.trans (told.2 2 first).2)
  exact ⟨by decide +kernel, by decide +kernel, first, by decide +kernel,
    namedLines_of_not_told untold⟩

end Excerpt

end ReviewContext
