/-! Rows of a text: only a line feed ends a row, and a carriage return before it is no part of the
line. -/
namespace ReviewContext.Text

/-- The stretches between line feeds; the empty text has one empty row. -/
def rows (s : String) : List String :=
  (s.toList.splitOn '\n').map String.ofList

def dropReturn (s : String) : String :=
  match s.toList.reverse with
  | '\r' :: rest => String.ofList rest.reverse
  | _ => s

def endsInReturn (s : String) : Bool :=
  s.toList.getLast? == some '\r'

def fileLines (s : String) : List String :=
  (rows s).map dropReturn

def unlines (ls : List String) : String :=
  "\n".intercalate ls

def startsWith (s lead : String) : Bool :=
  lead.toList.isPrefixOf s.toList

def dropFirst (n : Nat) (s : String) : String :=
  String.ofList (s.toList.drop n)

theorem dropReturn_eq (s : String) :
    dropReturn s = if endsInReturn s then String.ofList s.toList.dropLast else s := by
  unfold dropReturn endsInReturn
  split
  next rest reversed =>
    have front : s.toList = rest.reverse ++ ['\r'] := by
      rw [← List.reverse_reverse s.toList, reversed, List.reverse_cons]
    rw [front, List.getLast?_concat, List.dropLast_concat]
    rfl
  next other =>
    rw [if_neg]
    rw [beq_iff_eq]
    intro last
    obtain ⟨front, whole⟩ := List.getLast?_eq_some_iff.mp last
    exact other front.reverse (by rw [whole, List.reverse_concat])

theorem dropReturn_ofList_snoc (cs : List Char) :
    dropReturn (String.ofList (cs ++ ['\r'])) = String.ofList cs := by
  simp [dropReturn]

theorem length_fileLines (s : String) : (fileLines s).length = (rows s).length := by
  simp [fileLines]

end ReviewContext.Text
