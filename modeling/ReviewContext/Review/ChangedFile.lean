import ReviewContext.Fields
import ReviewContext.Text.Blank

/-! Changed files: what a pull request says of one file. -/
namespace ReviewContext

/-- A file by its name. What else is said of it may be a value of any kind until it is looked at. -/
structure ChangedFile where
  filename : String
  patch : Value
  oldContents : Value := .text ""
  currentContents : Value := .text ""
  status : Value := .null
deriving Repr

inductive FileError
  | blankName
  | badStatus
deriving DecidableEq, Repr

def FileError.message : FileError → String
  | .blankName => "Filename cannot be empty"
  | .badStatus => "Invalid file status"

namespace ChangedFile

def check (file : ChangedFile) : Except FileError ChangedFile :=
  if Text.isBlankText file.filename then .error .blankName else .ok file

def toFields (file : ChangedFile) : Fields :=
  [("filename", .text file.filename), ("patch", file.patch), ("old_contents", file.oldContents),
    ("current_contents", file.currentContents), ("status", file.status)]

end ChangedFile

end ReviewContext
