import ReviewContext.Proofs.Diff.WrittenLine
import ReviewContext.Proofs.Scope.Window

/-! Columns: the lines of a diff and their endings as two lists that grow together. Put side by side
they are the text, with a line feed at its end if it had none, and the lines of a file are the same
lines, with an empty one behind the last line feed. -/
namespace ReviewContext

namespace Text

variable {text : String}

/-- Nothing is begun behind the last line feed. -/
def Ended (text : String) : Prop := text = "" ∨ text.toList.getLast? = some '\n'

instance (text : String) : Decidable (Ended text) := inferInstanceAs (Decidable (_ ∨ _))

def closed (text : String) : String := if Ended text then text else text ++ "\n"

theorem toList_feed : "\n".toList = ['\n'] := rfl

theorem ended_closed (text : String) : Ended (closed text) := by
  unfold closed
  split
  next ended => exact ended
  next => exact .inr (by rw [String.toList_append, toList_feed, List.getLast?_concat])

theorem rows_append_feed (text : String) : rows (text ++ "\n") = rows text ++ [""] := by
  rw [rows, String.toList_append, toList_feed, List.splitOn_append_cons_self, List.map_append]
  rfl

theorem ended_intercalate (pieces : List (List Char)) :
    ['\n'].intercalate (pieces ++ [[]]) = [] ∨
      (['\n'].intercalate (pieces ++ [[]])).getLast? = some '\n' := by
  induction pieces with
  | nil => exact .inl rfl
  | cons piece pieces ih =>
    -- More pieces follow the first one, so that there is a feed behind it.
    right
    have more : pieces ++ [[]] ≠ [] := by simp
    rw [List.cons_append, List.intercalate_cons_of_ne_nil more]
    rcases ih with none | last
    · rw [none, List.append_nil, List.getLast?_concat]
    · rw [List.getLast?_append, last, Option.some_or]

theorem getLast?_rows : (rows text).getLast? = some "" ↔ Ended text := by
  constructor
  · intro last
    obtain ⟨pieces, split⟩ : ∃ pieces, text.toList.splitOn '\n' = pieces ++ [[]] := by
      rw [rows, List.getLast?_map, Option.map_eq_some_iff] at last
      obtain ⟨piece, last, blank⟩ := last
      obtain rfl : piece = [] := String.ofList_eq_empty_iff.mp blank
      exact List.getLast?_eq_some_iff.mp last
    have joined := ended_intercalate pieces
    rw [← split, List.intercalate_splitOn] at joined
    exact joined.imp_left String.toList_eq_nil_iff.mp
  · rintro (rfl | last)
    · rfl
    · obtain ⟨front, whole⟩ := List.getLast?_eq_some_iff.mp last
      have same : text = String.ofList front ++ "\n" := by
        rw [← String.toList_inj, whole, String.toList_append, String.toList_ofList, toList_feed]
      rw [same, rows_append_feed, List.getLast?_concat]

theorem length_rows (text : String) : (rows text).length = text.toList.count '\n' + 1 := by
  rw [rows, List.length_map]
  induction text.toList with
  | nil => rfl
  | cons c cs ih =>
    rw [List.splitOn_cons_eq_if_modifyHead, List.count_cons]
    split
    · rw [List.length_cons, ih]
    · rw [List.length_modifyHead, ih, Nat.add_zero]

end Text

namespace Diff

variable {text : String}

namespace Row

theorem rows_eq (text : String) :
    Text.rows text = stretches text ++ if Text.Ended text then [""] else [] := by
  rw [stretches]
  simp only [Text.getLast?_rows]
  split
  next ended => exact (List.dropLast_append_getLast? "" (Text.getLast?_rows.mpr ended)).symm
  next => exact (List.append_nil _).symm

theorem stretches_closed (text : String) : stretches (Text.closed text) = stretches text := by
  unfold Text.closed
  split
  next => rfl
  next going =>
    have rows := rows_eq text
    rw [if_neg going, List.append_nil] at rows
    rw [stretches, Text.rows_append_feed, List.getLast?_concat, if_pos rfl,
      List.dropLast_concat, rows]

end Row

namespace WrittenLine

def ofStretch (stretch : String) : WrittenLine := ofRow (Row.ofStretch stretch 0)

theorem linesOf_eq (text : String) : linesOf text = (Row.stretches text).map ofStretch := by
  have entries := List.zipIdx_map_fst 1 (Row.stretches text)
  rw [linesOf, Row.ofText, List.map_map]
  conv_rhs => rw [← entries, List.map_map]
  rfl

theorem map_text_linesOf (text : String) :
    (linesOf text).map WrittenLine.text = (Row.stretches text).map Text.dropReturn := by
  rw [linesOf_eq, List.map_map]
  rfl

theorem linesOf_closed (text : String) : linesOf (Text.closed text) = linesOf text := by
  rw [linesOf_eq, linesOf_eq, Row.stretches_closed]

theorem whole_join_iff {lines : List WrittenLine} :
    (∀ line ∈ lines, line.Whole) ∧ join lines = Text.closed text ↔ lines = linesOf text := by
  constructor
  · rintro ⟨whole, joined⟩
    rw [← linesOf_closed, ← joined, linesOf_join whole]
  -- Only a text that ends in a feed is known to be made of whole lines, so its lines are those of
  -- the closed text.
  · rintro rfl
    rw [← linesOf_closed]
    rcases Text.ended_closed text with empty | ended
    · rw [empty]
      exact ⟨nofun, rfl⟩
    · exact ⟨fun line inside => whole_of_mem_linesOf ended inside, join_linesOf ended⟩

end WrittenLine

/-- Lines and, at the same places, their endings. -/
structure Columns where
  lines : List String := []
  delimiters : List String := []

namespace Columns

def add (columns : Columns) (stretch : String) : Columns :=
  if Text.endsInReturn stretch then
    { lines := columns.lines ++ [String.ofList stretch.toList.dropLast]
      delimiters := columns.delimiters ++ ["\r\n"] }
  else
    { lines := columns.lines ++ [stretch]
      delimiters := columns.delimiters ++ ["\n"] }

def ofText (text : String) : Columns := (Row.stretches text).foldl add {}

def ofLines (lines : List WrittenLine) : Columns :=
  ⟨lines.map WrittenLine.text, lines.map WrittenLine.delimiter⟩

def joined (columns : Columns) : String :=
  String.join (List.zipWith (· ++ ·) columns.lines columns.delimiters)

theorem add_ofLines (lines : List WrittenLine) (stretch : String) :
    (ofLines lines).add stretch = ofLines (lines ++ [.ofStretch stretch]) := by
  simp only [add, ofLines, List.map_append, List.map_singleton, WrittenLine.ofStretch,
    WrittenLine.ofRow, Row.ofStretch, Text.dropReturn_eq]
  cases Text.endsInReturn stretch <;> rfl

theorem foldl_add_ofLines (lines : List WrittenLine) (stretches : List String) :
    stretches.foldl add (ofLines lines) = ofLines (lines ++ stretches.map .ofStretch) := by
  induction stretches generalizing lines with
  | nil => rw [List.foldl_nil, List.map_nil, List.append_nil]
  | cons stretch stretches ih =>
    rw [List.foldl_cons, add_ofLines, ih, List.map_cons, List.append_assoc, List.singleton_append]

theorem ofText_eq (text : String) : ofText text = ofLines (WrittenLine.linesOf text) := by
  rw [WrittenLine.linesOf_eq]
  exact foldl_add_ofLines [] (Row.stretches text)

theorem joined_ofLines (lines : List WrittenLine) :
    (ofLines lines).joined = WrittenLine.join lines := by
  rw [joined, ofLines, List.zipWith_map, List.zipWith_self]
  rfl

/-- The lines and endings of a text, side by side, are the text, with a line feed at its end if
something stood behind the last one. Read as a file it has the same lines, and an empty one if
nothing did: as many as there are rows to look hunks up in. -/
theorem ofText_lossless (text : String) :
    (ofText text).lines = (Row.ofText text).map Row.text ∧
      (ofText text).delimiters = (Row.ofText text).map Row.delimiter ∧
      (ofText text).joined = (if Text.Ended text then text else text ++ "\n") ∧
      (ofText text).lines.length = (ofText text).delimiters.length ∧
      (∀ line ∈ (ofText text).lines, '\n' ∉ line.toList) ∧
      Text.fileLines text = (ofText text).lines ++ (if Text.Ended text then [""] else []) ∧
      (Text.fileLines text).length = (Text.rows text).length ∧
      lastLine text = (Text.rows text).length ∧
        (Text.rows text).length = text.toList.count '\n' + 1 := by
  obtain ⟨whole, same⟩ := WrittenLine.whole_join_iff.mpr (rfl : WrittenLine.linesOf text = _)
  rw [ofText_eq]
  refine ⟨?_, ?_, ?_, ?_, ?_, ?_, Text.length_fileLines text, ?_, Text.length_rows text⟩
  · simp only [ofLines, WrittenLine.linesOf, List.map_map]
    rfl
  · simp only [ofLines, WrittenLine.linesOf, List.map_map]
    rfl
  · rw [joined_ofLines, same, Text.closed]
  · simp only [ofLines, List.length_map]
  · intro line inside
    obtain ⟨entry, among, rfl⟩ := List.mem_map.mp inside
    exact (whole entry among).1
  · rw [ofLines, WrittenLine.map_text_linesOf, Text.fileLines, Row.rows_eq, List.map_append]
    split <;> rfl
  · rw [lastLine_eq, Text.length_fileLines]

theorem ofText_lossless_returns :
    let text := "a\r\r\n\nb\r"
    (ofText text).lines = ["a\r", "", "b"] ∧ (ofText text).delimiters = ["\r\n", "\n", "\r\n"] ∧
      "a\r" ∈ (ofText text).lines ∧ '\n' ∉ "a\r".toList ∧ (ofText text).joined = text ++ "\n" ∧
      Text.fileLines text = ["a\r", "", "b"] ∧ lastLine text = 3 := by
  -- Of two carriage returns before a feed the first is part of the line; one at the end of the text
  -- is not.
  intro text
  have lines : (ofText text).lines = ["a\r", "", "b"] := by decide
  have member : "a\r" ∈ (ofText text).lines := by decide
  have going : ¬ Text.Ended text := by decide
  obtain ⟨-, -, joined, -, single, file, -, rows, count⟩ := ofText_lossless text
  refine ⟨lines, by decide, member, single _ member, joined.trans (if_neg going), ?_, ?_⟩
  · rw [file, lines, if_neg going, List.append_nil]
  · rw [rows, count]
    decide

end Columns

end Diff

end ReviewContext
