import ReviewContext.Diff.Row

/-! Written lines: the rows of a text that is put together from whole lines are these lines in
order. -/
namespace ReviewContext.Diff

structure WrittenLine where
  text : String
  delimiter : String := "\n"

namespace WrittenLine

/-- Nothing in a line or at its end can be taken for a part of its ending. -/
def Whole (line : WrittenLine) : Prop :=
  '\n' ∉ line.text.toList ∧
    (line.delimiter = "\r\n" ∨ line.delimiter = "\n" ∧ Text.endsInReturn line.text = false)

instance (line : WrittenLine) : Decidable line.Whole :=
  inferInstanceAs (Decidable (_ ∧ _))

def written (line : WrittenLine) : String := line.text ++ line.delimiter

def stretch (line : WrittenLine) : List Char := line.text.toList ++ line.delimiter.toList.dropLast

def join (lines : List WrittenLine) : String := String.join (lines.map written)

def numbered : Nat → List WrittenLine → List Row
  | _, [] => []
  | number, line :: rest => ⟨number, line.text, line.delimiter⟩ :: numbered (number + 1) rest

theorem numbered_append (number : Nat) (first second : List WrittenLine) :
    numbered number (first ++ second) =
      numbered number first ++ numbered (number + first.length) second := by
  induction first generalizing number with
  | nil => simp [numbered]
  | cons line first ih =>
    simp only [List.cons_append, numbered, ih, List.length_cons]
    rw [Nat.add_assoc, Nat.add_comm 1]

theorem toList_written {line : WrittenLine} (whole : line.Whole) :
    line.written.toList = line.stretch ++ ['\n'] := by
  rw [written, stretch, String.toList_append, List.append_assoc]
  rcases whole.2 with ending | ⟨ending, -⟩ <;> rw [ending] <;> rfl

theorem feed_notMem_stretch {line : WrittenLine} (whole : line.Whole) : '\n' ∉ line.stretch := by
  rw [stretch, List.mem_append]
  rintro (inside | inside)
  · exact whole.1 inside
  · rcases whole.2 with ending | ⟨ending, -⟩ <;> rw [ending] at inside <;> revert inside <;> decide

theorem ofStretch_stretch {line : WrittenLine} (whole : line.Whole) (number : Nat) :
    Row.ofStretch (String.ofList line.stretch) number = ⟨number, line.text, line.delimiter⟩ := by
  rcases whole.2 with ending | ⟨ending, bare⟩
  · have tail : line.stretch = line.text.toList ++ ['\r'] := by rw [stretch, ending]; rfl
    rw [Row.ofStretch, tail, Text.dropReturn_ofList_snoc]
    simp [Text.endsInReturn, ending]
  · have tail : line.stretch = line.text.toList := by rw [stretch, ending]; exact List.append_nil _
    have kept : Text.dropReturn line.text = line.text := by
      rw [Text.dropReturn_eq, bare]
      rfl
    rw [Row.ofStretch, tail, String.ofList_toList, kept, bare, ending]
    rfl

theorem splitOn_join {lines : List WrittenLine} (whole : ∀ line ∈ lines, line.Whole) :
    (join lines).toList.splitOn '\n' = lines.map stretch ++ [[]] := by
  rw [join, String.toList_join, List.flatMap_map]
  induction lines with
  | nil => rfl
  | cons line lines ih =>
    rw [List.forall_mem_cons] at whole
    rw [List.flatMap_cons, toList_written whole.1, List.append_assoc, List.singleton_append,
      List.splitOn_append_cons_self_of_not_mem (feed_notMem_stretch whole.1), ih whole.2]
    rfl

theorem stretches_join {lines : List WrittenLine} (whole : ∀ line ∈ lines, line.Whole) :
    Row.stretches (join lines) = lines.map fun line => String.ofList line.stretch := by
  have rows : Text.rows (join lines) =
      (lines.map fun line => String.ofList line.stretch) ++ [""] := by
    rw [Text.rows, splitOn_join whole]
    simp
  rw [Row.stretches, rows]
  simp

theorem ofText_join {lines : List WrittenLine} (whole : ∀ line ∈ lines, line.Whole) :
    Row.ofText (join lines) = numbered 1 lines := by
  rw [Row.ofText, stretches_join whole]
  generalize 1 = number
  induction lines generalizing number with
  | nil => rfl
  | cons line lines ih =>
    rw [List.forall_mem_cons] at whole
    rw [numbered, ← ih whole.2, ← ofStretch_stretch whole.1]
    simp

def ofRow (row : Row) : WrittenLine := ⟨row.text, row.delimiter⟩

def linesOf (text : String) : List WrittenLine := (Row.ofText text).map ofRow

theorem map_ofRow_numbered (number : Nat) (lines : List WrittenLine) :
    (numbered number lines).map ofRow = lines := by
  induction lines generalizing number with
  | nil => rfl
  | cons line lines ih => rw [numbered, List.map_cons, ih]; rfl

theorem linesOf_join {lines : List WrittenLine} (whole : ∀ line ∈ lines, line.Whole) :
    linesOf (join lines) = lines := by
  rw [linesOf, ofText_join whole, map_ofRow_numbered]

theorem exists_whole {piece : List Char} (single : '\n' ∉ piece) :
    ∃ line : WrittenLine, line.Whole ∧ line.written.toList = piece ++ ['\n'] := by
  by_cases returned : piece.getLast? = some '\r'
  · obtain ⟨front, rfl⟩ := List.getLast?_eq_some_iff.mp returned
    refine ⟨⟨String.ofList front, "\r\n"⟩, ⟨?_, .inl rfl⟩, ?_⟩
    · rw [String.toList_ofList]
      exact fun inside => single (List.mem_append_left _ inside)
    · rw [written, String.toList_append, String.toList_ofList, List.append_assoc]
      exact congrArg (front ++ ·) (show ("\r\n" : String).toList = ['\r', '\n'] by decide)
  · refine ⟨⟨String.ofList piece, "\n"⟩, ⟨?_, .inr ⟨rfl, ?_⟩⟩, ?_⟩
    · rwa [String.toList_ofList]
    · rw [Text.endsInReturn, String.toList_ofList]
      simpa using returned
    · rw [written, String.toList_append, String.toList_ofList]
      exact congrArg (piece ++ ·) (show ("\n" : String).toList = ['\n'] by decide)

theorem exists_join_append {front cs : List Char} (single : '\n' ∉ front)
    (closed : front ++ cs = [] ∨ cs.getLast? = some '\n') :
    ∃ lines, (∀ line ∈ lines, Whole line) ∧ (join lines).toList = front ++ cs := by
  induction cs generalizing front with
  | nil =>
    obtain none | ends := closed
    · exact ⟨[], nofun, none.symm⟩
    · contradiction
  | cons c cs ih =>
    have ends : (c :: cs).getLast? = some '\n' := closed.resolve_left (by simp)
    by_cases feed : c = '\n'
    · subst feed
      have rest : [] ++ cs = [] ∨ cs.getLast? = some '\n' := by
        cases cs with
        | nil => exact .inl rfl
        | cons d cs => exact .inr (by rwa [List.getLast?_cons_cons] at ends)
      obtain ⟨line, whole, shown⟩ := exists_whole single
      obtain ⟨lines, others, joined⟩ := ih List.not_mem_nil rest
      refine ⟨line :: lines, List.forall_mem_cons.mpr ⟨whole, others⟩, ?_⟩
      rw [join, List.nil_append] at joined
      rw [join, List.map_cons, String.join_cons, String.toList_append, shown, joined,
        List.append_assoc, List.singleton_append]
    · have longer : '\n' ∉ front ++ [c] := by
        simpa [single] using fun same : '\n' = c => feed same.symm
      have rest : (front ++ [c]) ++ cs = [] ∨ cs.getLast? = some '\n' := by
        cases cs with
        | nil => exact absurd (Option.some.inj ends) feed
        | cons d cs => exact .inr (by rwa [List.getLast?_cons_cons] at ends)
      obtain ⟨lines, others, joined⟩ := ih longer rest
      exact ⟨lines, others, by rw [joined, List.append_assoc, List.singleton_append]⟩

theorem exists_join {text : String} (closed : text.toList.getLast? = some '\n') :
    ∃ lines, (∀ line ∈ lines, Whole line) ∧ join lines = text := by
  obtain ⟨lines, whole, joined⟩ := exists_join_append List.not_mem_nil (.inr closed)
  exact ⟨lines, whole, String.toList_inj.mp joined⟩

theorem join_linesOf {text : String} (closed : text.toList.getLast? = some '\n') :
    join (linesOf text) = text := by
  obtain ⟨lines, whole, rfl⟩ := exists_join closed
  rw [linesOf_join whole]

theorem whole_of_mem_linesOf {text : String} (closed : text.toList.getLast? = some '\n')
    {line : WrittenLine} (inside : line ∈ linesOf text) : line.Whole := by
  obtain ⟨lines, whole, rfl⟩ := exists_join closed
  rw [linesOf_join whole] at inside
  exact whole line inside

end WrittenLine

end ReviewContext.Diff
