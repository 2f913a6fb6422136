import ReviewContext.Diff.Row
import ReviewContext.Text.Blank

/-! Rows of a text: they are numbered from one, end in a line feed with or without a carriage
return, and have no characters but those of the text. -/
namespace ReviewContext.Diff.Row

variable {text : String} {row : Row}

theorem number_of_split {before after : List Row} (split : ofText text = before ++ row :: after) :
    row.number = before.length + 1 := by
  have place : (ofText text)[before.length]? = some row := by rw [split]; simp
  rw [ofText, List.getElem?_map, Option.map_eq_some_iff] at place
  obtain ⟨entry, found, rfl⟩ := place
  rw [List.getElem?_zipIdx, Option.map_eq_some_iff] at found
  obtain ⟨stretch, -, rfl⟩ := found
  exact Nat.add_comm ..

theorem exists_stretch_of_mem (inside : row ∈ ofText text) :
    ∃ stretch ∈ stretches text, row = ofStretch stretch row.number := by
  obtain ⟨entry, among, rfl⟩ := List.mem_map.mp inside
  exact ⟨entry.1, List.fst_mem_of_mem_zipIdx among, rfl⟩

theorem delimiter_of_mem (inside : row ∈ ofText text) :
    row.delimiter = "\n" ∨ row.delimiter = "\r\n" := by
  obtain ⟨stretch, -, same⟩ := exists_stretch_of_mem inside
  rw [same, ofStretch]
  cases Text.endsInReturn stretch with
  | true => exact .inr rfl
  | false => exact .inl rfl

theorem mem_of_mem_dropReturn {line : String} {c : Char}
    (inside : c ∈ (Text.dropReturn line).toList) :
    c ∈ line.toList := by
  unfold Text.dropReturn at inside
  split at inside
  next rest reversed =>
    rw [String.toList_ofList, List.mem_reverse] at inside
    rw [← List.mem_reverse, reversed]
    exact List.mem_cons_of_mem _ inside
  next => exact inside

theorem mem_of_mem_splitOn {cs piece : List Char} (among : piece ∈ cs.splitOn '\n') {c : Char}
    (inside : c ∈ piece) : c ∈ cs := by
  obtain ⟨i, place⟩ := List.mem_iff_getElem?.mp among
  rw [← List.getElem?_intersperse_two_mul] at place
  have joined : ['\n'].intercalate (cs.splitOn '\n') = cs := List.intercalate_splitOn '\n'
  rw [← joined, List.intercalate, List.mem_flatten]
  exact ⟨piece, List.mem_of_getElem? place, inside⟩

theorem mem_of_mem_text (inside : row ∈ ofText text) {c : Char} (shown : c ∈ row.text.toList) :
    c ∈ text.toList := by
  obtain ⟨stretch, among, same⟩ := exists_stretch_of_mem inside
  have whole : stretch ∈ Text.rows text := by
    rw [stretches] at among
    split at among
    · exact (List.dropLast_sublist _).subset among
    · exact among
  obtain ⟨piece, part, rfl⟩ := List.mem_map.mp whole
  rw [same] at shown
  have kept := mem_of_mem_dropReturn shown
  rw [String.toList_ofList] at kept
  exact mem_of_mem_splitOn part kept

theorem opensHunk_of_isBlankText (blank : Text.isBlankText text = true)
    (inside : row ∈ ofText text) :
    row.opensHunk = false := by
  rw [Bool.eq_false_iff]
  intro opens
  rw [opensHunk, Text.startsWith, List.isPrefixOf_iff_prefix] at opens
  have shown : '@' ∈ row.text.toList := opens.subset (by decide)
  have white := List.all_eq_true.mp blank '@' (mem_of_mem_text inside shown)
  exact absurd white (by decide)

end ReviewContext.Diff.Row
