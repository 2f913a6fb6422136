import ReviewContext.Proofs.Diff.Trim
import ReviewContext.Scope.Window

/-! Restrictions: trimming takes from a hunk what stands around its edits and nothing else, so that
what is left says the same of both files and has nothing more to trim. -/
namespace ReviewContext.Diff

/-- The lines are the slice of a file that an extent names, cut short where the file ends before
it. -/
structure Extent.Names (extent : Extent) (file lines : List String) : Prop where
  start_pos : 0 < extent.start
  lines : lines = (file.drop (extent.start - 1)).take extent.count

theorem Extent.Names.middle {extent : Extent} {file lead lines tail : List String}
    (names : extent.Names file (lead ++ lines ++ tail)) :
    Names ⟨extent.start + lead.length, lines.length⟩ file lines := by
  have start_pos := names.start_pos
  refine ⟨by dsimp only; omega, ?_⟩
  have place : extent.start + lead.length - 1 = extent.start - 1 + lead.length := by omega
  obtain ⟨more, whole⟩ := List.take_prefix extent.count (file.drop (extent.start - 1))
  rw [← names.lines] at whole
  dsimp only
  rw [place, ← List.drop_drop, ← whole]
  simp only [List.append_assoc, List.drop_left, List.take_left]

theorem Quiet.findIdx?_eq_none {lines : List Line} (quiet : Quiet lines) :
    lines.findIdx? Line.isEdit = none :=
  List.findIdx?_eq_none_iff.mpr quiet

theorem Quiet.reverse {lines : List Line} (quiet : Quiet lines) : Quiet lines.reverse :=
  fun line inside =>
  quiet line (List.mem_reverse.mp inside)

theorem findIdx?_eq_zero {lead lines tail : List Line} (quietLead : Quiet lead)
    (quietTail : Quiet tail)
    (first : (lead ++ lines ++ tail).findIdx? Line.isEdit = some lead.length) :
    lines.findIdx? Line.isEdit = some 0 := by
  rw [List.append_assoc, List.findIdx?_append, quietLead.findIdx?_eq_none, List.findIdx?_append,
    quietTail.findIdx?_eq_none] at first
  cases place : lines.findIdx? Line.isEdit with
  | none => simp [place] at first
  | some n =>
    simp only [place, Option.some_or, Option.none_or, Option.map_some, Option.some.injEq] at first
    simp only [Option.some.injEq]
    omega

theorem any_head?_of_findIdx? {lines : List Line} (first : lines.findIdx? Line.isEdit = some 0) :
    lines.head?.any Line.isEdit = true := by
  cases lines with
  | nil => contradiction
  | cons line lines =>
    cases edit : line.isEdit with
    | true => simpa using edit
    | false => simp [List.findIdx?_cons, edit] at first

namespace Hunk

/-- A hunk is what is left of another between the context before its first edit and after its
last. -/
structure Restricts (hunk trimmed : Hunk) : Prop where
  stretch : ∃ lead tail, Quiet lead ∧ Quiet tail ∧ hunk.lines = lead ++ trimmed.lines ++ tail ∧
    trimmed.delimiters = (hunk.delimiters.drop lead.length).take trimmed.lines.length
  again : trimmed.trim = .ok trimmed
  firstLine : trimmed.lines.head?.any Line.isEdit = true
  lastLine : trimmed.lines.getLast?.any Line.isEdit = true
  edits : trimmed.edits = hunk.edits
  counted : trimmed.declared = trimmed.counted
  delimited : hunk.delimiters.length = hunk.lines.length →
    trimmed.delimiters.length = trimmed.lines.length
  old : ∀ file, hunk.old.Names file hunk.oldContents → trimmed.old.Names file trimmed.oldContents
  new : ∀ file, hunk.new.Names file hunk.newContents → trimmed.new.Names file trimmed.newContents

theorem oldCount_of_counted {hunk : Hunk} (counted : hunk.declared = hunk.counted) :
    hunk.old.count = hunk.oldContents.length := by
  rw [length_oldContents, ← counted]
  rfl

theorem restrict_eq_self {hunk : Hunk} (some : 0 < hunk.lines.length)
    (counted : hunk.declared = hunk.counted) (short : hunk.delimiters.length ≤ hunk.lines.length) :
    hunk.restrict 0 (hunk.lines.length - 1) = hunk := by
  have old : hunk.counted.old = hunk.old.count := congrArg Counts.old counted.symm
  have new : hunk.counted.new = hunk.new.count := congrArg Counts.new counted.symm
  have size : hunk.lines.length - 1 + 1 - 0 = hunk.lines.length := by omega
  simp only [Hunk.counted] at old new
  simp [restrict, recounted, Hunk.counted, size, List.take_of_length_le short, old, new]

namespace Trims

variable {hunk trimmed : Hunk} {lead tail : List Line}

theorem oldContents (trims : hunk.Trims trimmed lead tail) :
    hunk.oldContents = lead.map Line.content ++ trimmed.oldContents ++ tail.map Line.content := by
  rw [Hunk.oldContents, Hunk.oldContents, trims.lines, List.filter_append, List.filter_append,
    trims.quietLead.filter_inOld, trims.quietTail.filter_inOld, List.map_append, List.map_append]

theorem firstEdit?_eq_zero (trims : hunk.Trims trimmed lead tail) :
    trimmed.firstEdit? = some 0 := by
  have first := trims.first
  rw [firstEdit?, trims.lines] at first
  exact findIdx?_eq_zero trims.quietLead trims.quietTail first

theorem tailLength?_eq_zero (trims : hunk.Trims trimmed lead tail) :
    trimmed.tailLength? = some 0 := by
  have last := trims.last
  rw [tailLength?, trims.lines] at last
  simp only [List.reverse_append, ← List.append_assoc] at last
  rw [← List.length_reverse] at last
  exact findIdx?_eq_zero trims.quietTail.reverse trims.quietLead.reverse last

theorem lastEdit?_eq (trims : hunk.Trims trimmed lead tail) :
    trimmed.lastEdit? = some (trimmed.lines.length - 1) := by
  have last := trims.tailLength?_eq_zero
  unfold tailLength? at last
  simp [lastEdit?, last]

theorem length_pos (trims : hunk.Trims trimmed lead tail) : 0 < trimmed.lines.length := by
  have first := trims.firstEdit?_eq_zero
  unfold firstEdit? at first
  exact (List.findIdx?_eq_some_iff_getElem.mp first).1

theorem restrict_eq (trims : hunk.Trims trimmed lead tail) (taken : hunk.trim = .ok trimmed) :
    trimmed.old.start = hunk.old.start + lead.length ∧
      trimmed.delimiters = (hunk.delimiters.drop lead.length).take trimmed.lines.length := by
  have whole := congrArg List.length trims.lines
  rw [List.length_append, List.length_append] at whole
  have some := trims.length_pos
  have last := trims.last
  unfold tailLength? at last
  unfold trim at taken
  rw [trims.first, lastEdit?, last, Option.map_some] at taken
  have size : hunk.lines.length - 1 - tail.length + 1 - lead.length =
    trimmed.lines.length := by omega
  simp only [Except.ok.injEq] at taken
  constructor
  · rw [← taken]
    rfl
  · rw [← size, ← taken]
    rfl

theorem again (trims : hunk.Trims trimmed lead tail) (taken : hunk.trim = .ok trimmed) :
    trimmed.trim = .ok trimmed := by
  have short : trimmed.delimiters.length ≤ trimmed.lines.length := by
    rw [(trims.restrict_eq taken).2, List.length_take]
    omega
  rw [trim, trims.firstEdit?_eq_zero, trims.lastEdit?_eq]
  exact congrArg Except.ok (restrict_eq_self trims.length_pos trims.counted short)

theorem restricts (trims : hunk.Trims trimmed lead tail) (taken : hunk.trim = .ok trimmed) :
    hunk.Restricts trimmed := by
  obtain ⟨oldStart, delimiters⟩ := trims.restrict_eq taken
  have last := any_head?_of_findIdx? trims.tailLength?_eq_zero
  rw [List.head?_reverse] at last
  refine ⟨⟨lead, tail, trims.quietLead, trims.quietTail, trims.lines, delimiters⟩,
    trims.again taken, any_head?_of_findIdx? trims.firstEdit?_eq_zero, last, trims.edits,
    trims.counted, ?_, ?_, ?_⟩
  · intro same
    have whole := congrArg List.length trims.lines
    rw [List.length_append, List.length_append] at whole
    rw [delimiters, List.length_take, List.length_drop]
    omega
  -- The leading lines are in both files, so that both slices begin that much later.
  · intro file names
    rw [trims.oldContents] at names
    have middle := names.middle
    rwa [List.length_map, ← oldStart, ← oldCount_of_counted trims.counted] at middle
  · intro file names
    rw [trims.newContents] at names
    have middle := names.middle
    rwa [List.length_map, ← trims.start, ← newCount_of_counted trims.counted] at middle

end Trims

theorem trimNamed_of_still {hunk : Hunk} (still : hunk.firstEdit? = none) :
    hunk.trimNamed = .error (if hunk.isWritable then .malformed (.noEdits hunk.header)
      else .unwritable) := by
  rw [trimNamed, trim_eq_error still]
  rfl

/-- A hunk with edits is trimmed to what is between the first and the last of them, and trimmed
again it stays so. One without is refused for that, unless its header, under which it is refused,
has a number too long to be written. -/
theorem trimNamed_restricts (hunk : Hunk) :
    (hunk.hasEdits = true →
      ∃ trimmed, hunk.trim = .ok trimmed ∧ hunk.trimNamed = .ok trimmed ∧ hunk.Restricts trimmed) ∧
      (hunk.hasEdits = false → hunk.trim = .error (.noEdits hunk.header) ∧
        hunk.trimNamed = .error (if hunk.isWritable then .malformed (.noEdits hunk.header)
          else .unwritable)) := by
  constructor
  · intro edited
    obtain ⟨trimmed, taken⟩ := exists_trim edited
    obtain ⟨lead, tail, trims⟩ := trims_of_trim taken
    exact ⟨trimmed, taken, by rw [trimNamed, taken]; rfl, trims.restricts taken⟩
  · intro unedited
    have still : hunk.firstEdit? = none := by
      rw [hasEdits_eq] at unedited
      exact Option.not_isSome_iff_eq_none.mp (Bool.eq_false_iff.mp unedited)
    exact ⟨trim_eq_error still, trimNamed_of_still still⟩

theorem trimNamed_restricts_overlong :
    let old := ["a", "b", "c"]
    let new := ["h", "a", "x", "c", "z"]
    let lines : List Line := [⟨.context, "a"⟩, ⟨.removed, "b"⟩, ⟨.added, "x"⟩, ⟨.context, "c"⟩]
    let hunk : Hunk := ⟨⟨1, 9⟩, ⟨2, 3⟩, lines, ["\n", "\r\n", "\n"]⟩
    hunk.hasEdits = true ∧ hunk.old.Names old hunk.oldContents ∧
      hunk.new.Names new hunk.newContents ∧
      ∃ trimmed, hunk.trim = .ok trimmed ∧ trimmed.trim = .ok trimmed ∧
        trimmed.old.Names old trimmed.oldContents ∧ trimmed.new.Names new trimmed.newContents := by
  -- The old file ends before the lines that the header counts do, and a delimiter is missing.
  intro old new lines hunk
  have oldLines : hunk.old.Names old hunk.oldContents := ⟨by decide, by decide⟩
  have newLines : hunk.new.Names new hunk.newContents := ⟨by decide, by decide⟩
  obtain ⟨trimmed, taken, -, restricts⟩ := (trimNamed_restricts hunk).1 (by decide)
  exact ⟨by decide, oldLines, newLines, trimmed, taken, restricts.again, restricts.old old oldLines,
    restricts.new new newLines⟩

end Hunk

end ReviewContext.Diff

namespace ReviewContext

def LookupError.ofTrim : Diff.TrimError → LookupError
  | .malformed fault => .malformed fault
  | .unwritable => .unwritable

theorem searchHunk_of_trimNamed {lastLine : Nat} {margin : SearchMargin} {find : Finder}
    {hunk : Diff.Hunk} {error : Diff.TrimError} (refused : hunk.trimNamed = .error error) :
    searchHunk lastLine margin find hunk = ⟨[], .error (.ofTrim error)⟩ := by
  unfold Diff.Hunk.trimNamed at refused
  unfold searchHunk
  cases taken : hunk.trim with
  | ok trimmed =>
    rw [taken] at refused
    contradiction
  | error fault =>
    rw [taken] at refused
    obtain rfl := Except.error.inj refused
    cases hunk.isWritable <;> rfl

theorem trimNamed_distant :
    let hunk : Diff.Hunk := ⟨⟨Nat.pow 10 4300, 0⟩, ⟨2, 0⟩, [], []⟩
    hunk.hasEdits = false ∧ hunk.trimNamed = .error .unwritable ∧
      (searchHunk 2 (.whole 50) (fun _ => .ok none) hunk).answer = .error .unwritable := by
  -- The hunk of a header whose old side counts no line starts one line behind the written one,
  -- which may have as many digits as can be read. It has no edits, and cannot be refused for it.
  intro hunk
  have long : hunk.isWritable = false := by decide +kernel
  have refused : hunk.trimNamed = .error .unwritable := by
    rw [Diff.Hunk.trimNamed_of_still rfl, long]
    rfl
  exact ⟨rfl, refused, by rw [searchHunk_of_trimNamed refused]; rfl⟩

end ReviewContext
