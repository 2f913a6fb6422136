import ReviewContext.Text.Quoted
import ReviewContext.Text.Integer
import ReviewContext.Diff.Hunk

/-! What can be wrong with a diff. A fault found on a line carries the number of that line. -/
namespace ReviewContext.Diff

inductive Malformed
  | emptyText
  | noHunks
  | unknownHeader (text : String) (row : Nat)
  | unknownLine (text : String) (row : Nat)
  | overrun (declared seen : Counts) (row : Nat)
  | noEdits (header : String)
deriving DecidableEq, Repr

namespace Malformed

def row? : Malformed → Option Nat
  | unknownHeader _ row | unknownLine _ row | overrun _ _ row => some row
  | emptyText | noHunks | noEdits _ => none

def cause : Malformed → String
  | emptyText => "Diff text is empty"
  | noHunks => "Diff contains no hunks"
  | unknownHeader text _ => "Unknown hunk header " ++ Text.quoted text
  | unknownLine text _ => "Unknown line " ++ Text.quoted text ++ " inside hunk"
  | overrun declared seen _ =>
    "Hunk body overruns its header counts (expected -" ++ toString declared.old ++ " +"
      ++ toString declared.new ++ ", got -" ++ toString seen.old ++ " +" ++ toString seen.new ++ ")"
  | noEdits header => "Hunk " ++ header ++ " has no added or removed lines"

def message (fault : Malformed) : String :=
  match fault.row? with
  | some row => fault.cause ++ " (line " ++ toString row ++ ")"
  | none => fault.cause

end Malformed

/-- Reading a diff fails on its form, or on a number too long to be read. -/
inductive ReadError
  | malformed (fault : Malformed)
  | tooLong (excess : Text.TooLong)
deriving DecidableEq, Repr

def ReadError.message : ReadError → String
  | .malformed fault => fault.message
  | .tooLong excess => excess.message

end ReviewContext.Diff
