import ReviewContext.Proofs.Diff.Reading
import ReviewContext.Proofs.Diff.RoundTrip
import ReviewContext.Proofs.Diff.TextRows

/-! Accounting: the hunks of a diff that is read stand one to one for the rows that open a hunk, and
each of them is what its header and the rows behind it say. -/
namespace ReviewContext.Diff

open Header (WrittenExtent)

def openings : List Row → List (Row × List Row)
  | [] => []
  | row :: rest => if row.opensHunk then (row, rest) :: openings rest else openings rest

theorem map_fst_openings (rows : List Row) :
    (openings rows).map Prod.fst = rows.filter Row.opensHunk := by
  induction rows with
  | nil => rfl
  | cons row rows ih =>
    rw [openings, List.filter_cons]
    split
    · rw [List.map_cons, ih]
    · exact ih

theorem openings_append {lead : List Row} (quiet : ∀ row ∈ lead, row.opensHunk = false)
    (rest : List Row) :
    openings (lead ++ rest) = openings rest := by
  induction lead with
  | nil => rfl
  | cons row lead ih =>
    rw [List.forall_mem_cons] at quiet
    rw [List.cons_append, openings, quiet.1, ih quiet.2]
    rfl

theorem isSuffix_of_mem_openings {rows : List Row} {opening : Row × List Row}
    (among : opening ∈ openings rows) : opening.1 :: opening.2 <:+ rows := by
  induction rows with
  | nil => contradiction
  | cons row rows ih =>
    rw [openings] at among
    split at among
    · rcases List.mem_cons.mp among with rfl | later
      · exact List.suffix_rfl
      · exact (ih later).trans (List.suffix_cons ..)
    · exact (ih among).trans (List.suffix_cons ..)

/-- A row as a hunk shows it: an empty one is a blank line of context. -/
def Row.shown (row : Row) : String := if row.text = "" then " " else row.text

def lineRows (rows : List Row) : List Row := rows.filter fun row => !row.isRemark

/-- A hunk is what its header and the rows taken behind it say: the starts and counts are those
declared, but for a side without lines and a body cut short, and the lines are the rows up to the
end of the body. -/
structure Accounted (header : Row) (following : List Row) (hunk : Hunk) (old new : WrittenExtent)
    (taken left : List Row) : Prop where
  written : Header.extents? header.text = some (old, new)
  split : following = taken ++ left
  oldStart : hunk.old.start = old.first + if old.declared = 0 then 1 else 0
  newStart : hunk.new.start = new.first + if new.declared = 0 then 1 else 0
  counted : hunk.declared = hunk.counted
  oldCovered : hunk.counted.old ≤ old.declared
  newCovered : hunk.counted.new ≤ new.declared
  lines : hunk.rawLines = (lineRows taken).map Row.shown
  delimiters : hunk.delimiters = (lineRows taken).map Row.delimiter
  counts : hunk.counted = (⟨0, 0⟩ : Counts).after taken
  ends : Ends (declaredCounts old new) ⟨0, 0⟩ taken left
  first : ∀ before after, taken = before ++ after → after ≠ [] →
    ¬ Ends (declaredCounts old new) ⟨0, 0⟩ before (after ++ left)

theorem raw_of_line? {row : Row} {line : Line} (read : row.line? = some line) :
    line.raw = row.shown := by
  rw [Row.line?, Line.ofRaw?] at read
  unfold Row.shown
  split at read
  next empty =>
    rw [if_pos (String.toList_eq_nil_iff.mp empty), ← Option.some.inj read]
    rfl
  next c cs text =>
    obtain ⟨kind, marked, rfl⟩ := Option.map_eq_some_iff.mp read
    have marker : kind.marker = c := by
      unfold LineKind.ofMarker? at marked
      split at marked <;> first | contradiction | (rw [← Option.some.inj marked]; rfl)
    have filled : row.text ≠ "" := fun empty => by simp [empty] at text
    rw [if_neg filled, ← String.toList_inj, toList_raw, marker, String.toList_ofList, text]

theorem isRemark_of_line? {row : Row} {line : Line} (read : row.line? = some line) :
    row.isRemark = false := by
  rw [Bool.eq_false_iff]
  intro remark
  rw [line?_of_isRemark remark] at read
  contradiction

theorem map_fst_ofRows (rows : List Row) :
    (Body.ofRows rows).map Prod.fst = rows.filterMap Row.line? := by
  simp [Body.ofRows, List.map_filterMap, Option.map_map, Function.comp_def]

theorem map_ofRows {rows : List Row}
    (read : ∀ row ∈ rows, row.isRemark = true ∨ row.line?.isSome = true) :
    (Body.ofRows rows).map (fun entry => (entry.1.raw, entry.2)) =
      (lineRows rows).map fun row => (row.shown, row.delimiter) := by
  induction rows with
  | nil => rfl
  | cons row rows ih =>
    rw [List.forall_mem_cons] at read
    rw [Body.ofRows_cons, List.map_append, ih read.2]
    cases line : row.line? with
    | none =>
      have remark : row.isRemark = true := read.1.resolve_right (by simp [line])
      simp [Body.ofRows, line, remark, lineRows]
    | some line' =>
      have remark := isRemark_of_line? line
      simp [Body.ofRows, line, remark, lineRows, raw_of_line? line]

namespace Taken

variable {declared seen : Counts} {taken left : List Row}

theorem not_ends (body : Taken declared seen taken left) {before after : List Row}
    (split : taken = before ++ after) (more : after ≠ []) :
    ¬ Ends declared seen before (after ++ left) := by
  obtain ⟨row, after, rfl⟩ := List.exists_cons_of_ne_nil more
  intro ends
  have outside : ¬ Inside declared seen (before ++ []) row (after ++ left) := ends.not_inside
  rw [List.append_nil] at outside
  exact outside (body.inside before row after split)

end Taken

theorem accounted_hunkOfRows {header : Row} {old new : WrittenExtent}
    (written : Header.extents? header.text = some (old, new)) {taken left : List Row}
    (body : Taken (declaredCounts old new) ⟨0, 0⟩ taken left) :
    Accounted header (taken ++ left) (hunkOfRows old new taken) old new taken left := by
  have shown := map_ofRows body.kept.read
  have counts : (hunkOfRows old new taken).counted = (⟨0, 0⟩ : Counts).after taken := by
    rw [Counts.after_zero, ← map_fst_ofRows]
    rfl
  have fits := body.kept.fits
  rw [← counts, Counts.exceed, Bool.or_eq_false_iff, decide_eq_false_iff_not,
    decide_eq_false_iff_not] at fits
  have start (written : WrittenExtent) : (Header.settled written.first written.declared).start =
      written.first + if written.declared = 0 then 1 else 0 := by
    rw [Header.settled]
    split <;> rfl
  refine ⟨written, rfl, start old, start new, rfl, Nat.not_lt.mp fits.1, Nat.not_lt.mp fits.2, ?_,
    ?_, counts, body.ends, fun before after => body.not_ends⟩
  · have raws := congrArg (List.map Prod.fst) shown
    simp only [List.map_map, Function.comp_def] at raws
    rw [← raws, Hunk.rawLines, hunkOfRows, Hunk.ofBody, Hunk.recounted, List.map_map]
    rfl
  · have ends := congrArg (List.map Prod.snd) shown
    simp only [List.map_map, Function.comp_def] at ends
    exact ends

def IsAccounted (opening : Row × List Row) (hunk : Hunk) : Prop :=
  ∃ old new taken left, Accounted opening.1 opening.2 hunk old new taken left

theorem Reading.accounted {rows : List Row} {result : Except ReadError (List Item)}
    (reading : Reading rows result) {items : List Item} (read : result = .ok items) :
    List.Forall₂ IsAccounted (openings rows) (items.filterMap Item.hunk?) := by
  -- no row that a step uses up opens a hunk but the header that the step reads
  induction reading generalizing items with
  | done =>
    obtain rfl := Except.ok.inj read
    exact .nil
  | pass lead rest others result quiet none next ih =>
    obtain ⟨more, ok, rfl⟩ := Outcome.map_eq_ok_iff.mp read
    have nothing : others.filterMap Item.hunk? = [] := List.filterMap_eq_nil_iff.mpr none
    rw [openings_append quiet, List.filterMap_append, nothing]
    exact ih ok
  | hunk header old new written taken skipped left remarks body result next ih =>
    obtain ⟨more, ok, rfl⟩ := Outcome.map_eq_ok_iff.mp read
    have quiet : ∀ row ∈ skipped, row.opensHunk = false :=
      fun row among => opensHunk_of_isRemark (remarks row among)
    rw [openings, if_pos (opensHunk_of_extents? written), openings_append body.unbroken.opensHunk,
      openings_append quiet]
    exact .cons ⟨old, new, taken, skipped ++ left, accounted_hunkOfRows written body⟩ (ih ok)
  | failed => contradiction

theorem parse_eq_ok {text : String} {patches : List Patch} (read : parse text = .ok patches) :
    ∃ items, Item.ofRows (Row.ofText text) = .ok items ∧
      allHunks patches = items.filterMap Item.hunk? := by
  rw [parse] at read
  split at read
  · contradiction
  · obtain ⟨items, found, made⟩ := Outcome.bind_eq_ok_iff.mp read
    refine ⟨items, found, ?_⟩
    dsimp only at made
    split at made
    · contradiction
    · rw [← Except.ok.inj made, Patch.allHunks_ofItems]

/-- The hunks of a diff are those its rows open, in order, and each is as its header and the rows up
to the end of its body say. -/
theorem parse_accounts {text : String} {patches : List Patch} (read : parse text = .ok patches) :
    (openings (Row.ofText text)).map Prod.fst = (Row.ofText text).filter Row.opensHunk ∧
      List.Forall₂ (fun opening hunk => IsAccounted opening hunk ∧
          hunk.delimiters.length = hunk.lines.length ∧
            ∀ ending ∈ hunk.delimiters, ending = "\n" ∨ ending = "\r\n")
        (openings (Row.ofText text)) (allHunks patches) := by
  obtain ⟨items, found, same⟩ := parse_eq_ok read
  have accounted := (reading_ofRows (Row.ofText text)).accounted found
  rw [← same] at accounted
  have within : ∀ opening ∈ openings (Row.ofText text), ∀ row ∈ opening.2, row ∈ Row.ofText text :=
    fun opening among row behind =>
      (isSuffix_of_mem_openings among).subset (List.mem_cons_of_mem _ behind)
  refine ⟨map_fst_openings _,
    List.Forall₂.imp ?_ ((List.forall₂_and_left _ _).mpr ⟨within, accounted⟩)⟩
  rintro opening hunk ⟨rows, accounts⟩
  refine ⟨accounts, ?_, ?_⟩
  · obtain ⟨old, new, taken, left, facts⟩ := accounts
    have lines := congrArg List.length facts.lines
    rw [Hunk.rawLines, List.length_map, List.length_map] at lines
    rw [facts.delimiters, List.length_map, lines]
  · obtain ⟨old, new, taken, left, facts⟩ := accounts
    intro ending among
    rw [facts.delimiters] at among
    obtain ⟨row, line, rfl⟩ := List.mem_map.mp among
    have behind : row ∈ opening.2 := by
      rw [facts.split]
      exact List.mem_append_left _ (List.mem_of_mem_filter line)
    exact Row.delimiter_of_mem (rows row behind)

def additionThenCut : String := "@@ -0,0 +4 @@\r\n+a\r\n@@ -9,2 +10,2 @@\n-b\n+c\n\\ No newline\n"

def additionThenCutHunks : List Hunk :=
  [⟨⟨1, 0⟩, ⟨4, 1⟩, [⟨.added, "a"⟩], ["\r\n"]⟩,
    ⟨⟨9, 1⟩, ⟨10, 1⟩, [⟨.removed, "b"⟩, ⟨.added, "c"⟩], ["\n", "\n"]⟩]

theorem parse_accounts_additionThenCut :
    parse additionThenCut = .ok [{ hunks := additionThenCutHunks }] ∧
      List.Forall₂ (fun opening hunk => IsAccounted opening hunk ∧
          hunk.delimiters.length = hunk.lines.length ∧
            ∀ ending ∈ hunk.delimiters, ending = "\n" ∨ ending = "\r\n")
        (openings (Row.ofText additionThenCut)) additionThenCutHunks := by
  have read : parse additionThenCut = .ok [{ hunks := additionThenCutHunks }] := by decide +kernel
  exact ⟨read, (parse_accounts read).2⟩

end ReviewContext.Diff
