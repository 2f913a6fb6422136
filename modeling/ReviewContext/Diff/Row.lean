import ReviewContext.Text.Rows

/-! Rows of a diff text: its lines with their numbers and line endings, and the marks that open
something. -/
namespace ReviewContext.Diff

structure Row where
  number : Nat
  text : String
  delimiter : String
deriving DecidableEq, Repr

namespace Row

def ofStretch (stretch : String) (number : Nat) : Row :=
  ⟨number, Text.dropReturn stretch, if Text.endsInReturn stretch then "\r\n" else "\n"⟩

/-- The line feed that ends a text opens no row. -/
def stretches (text : String) : List String :=
  let all := Text.rows text
  if all.getLast? = some "" then all.dropLast else all

def ofText (text : String) : List Row :=
  (stretches text).zipIdx 1 |>.map fun entry => ofStretch entry.1 entry.2

/-- A remark on the line before it, such as a missing line feed at the end of a file. -/
def isRemark (row : Row) : Bool := Text.startsWith row.text "\\"

def opensHunk (row : Row) : Bool := Text.startsWith row.text "@@"

def opensFile (row : Row) : Bool :=
  Text.startsWith row.text "diff --git " || Text.startsWith row.text "Index: "

/-- The old and new name lines at the head of some rows; one counts only with the other. -/
def namePair? (row : Row) : List Row → Option (String × String)
  | [] => none
  | next :: _ =>
    if Text.startsWith row.text "--- " && Text.startsWith next.text "+++ " then
      some (Text.dropFirst 4 row.text, Text.dropFirst 4 next.text)
    else none

/-- A hunk ends where a hunk, a file section or a pair of name lines opens. -/
def opensSection (row : Row) (rest : List Row) : Bool :=
  row.opensHunk || row.opensFile || (row.namePair? rest).isSome

end Row

end ReviewContext.Diff
