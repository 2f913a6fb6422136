import ReviewContext.Kind
import ReviewContext.Review.ChangedFile

/-! Requests: changed files as callers describe them. What reads their fields is a library that is
given here by what it answers; the fields that it is told of, and the checks of their texts, are
those of this module. -/
namespace ReviewContext

inductive BuildError
  | fields (error : FieldError)
  | file (error : FileError)
  | kind (error : KindError)
deriving DecidableEq, Repr

def BuildError.message : BuildError → String
  | fields error => error.message
  | file error => error.message
  | kind error => error.message

namespace ChangedFile

def names : List String := ["filename", "patch", "old_contents", "current_contents", "status"]

def ofValues (filename patch oldContents currentContents status : Value) :
    Except BuildError ChangedFile := do
  let filename ←
    if filename.isTruthy then (filename.asText "strip").mapError .kind else pure ""
  (check { filename, patch, oldContents, currentContents, status }).mapError .file

def ofFields (fields : Fields) : Except BuildError ChangedFile := do
  (fields.only "PRFile" names).mapError .fields
  (fields.all "PRFile" ["filename", "patch"]).mapError .fields
  ofValues (fields.getD "filename" .null) (fields.getD "patch" .null)
    (fields.getD "old_contents" (.text "")) (fields.getD "current_contents" (.text ""))
    (fields.getD "status" .null)

end ChangedFile

/-- What the library is told of a field: its value where it is left out, unless it must be there;
whether it may be null; and what is checked of its text. -/
structure FieldRule where
  name : String
  default? : Option Value := none
  nullable : Bool := false
  check : String → Except FileError Unit := fun _ => .ok ()

structure FieldProblem where
  field : String
  kind : String
  message : String
deriving DecidableEq, Repr

structure ReadFault where
  problems : List FieldProblem
  told : String
deriving DecidableEq, Repr

/-- What the library makes of fields by some rules: a value for each rule, or what is wrong. -/
abbrev RequestReader := List FieldRule → Fields → Except ReadFault Fields

inductive RequestError
  | fields (error : FieldError)
  | invalid (fault : ReadFault)
  | file (error : BuildError)
deriving DecidableEq, Repr

def RequestError.message : RequestError → String
  | fields error => error.message
  | invalid fault => fault.told
  | file error => error.message

structure Request where
  filename : Value
  patch : Value
  oldContents : Value := .text ""
  currentContents : Value := .text ""
  status : Value := .null

namespace Request

def statuses : List String :=
  ["added", "removed", "modified", "renamed", "copied", "changed", "unchanged"]

def checkName (written : String) : Except FileError Unit :=
  if Text.isBlankText written then .error .blankName else .ok ()

def checkStatus (written : String) : Except FileError Unit :=
  if statuses.contains written then .ok () else .error .badStatus

def rules : List FieldRule :=
  [{ name := "filename", check := checkName },
    { name := "patch" },
    { name := "old_contents", default? := some (.text "") },
    { name := "current_contents", default? := some (.text "") },
    { name := "status", default? := some .null, nullable := true, check := checkStatus }]

def ofFields (fields : Fields) : Request where
  filename := fields.getD "filename" .null
  patch := fields.getD "patch" .null
  oldContents := fields.getD "old_contents" .null
  currentContents := fields.getD "current_contents" .null
  status := fields.getD "status" .null

def ofValue (reader : RequestReader) (value : Value) : Except RequestError Request := do
  let fields ← (value.fields "ai_pr_context.models.context.PRFileRequest").mapError .fields
  return ofFields (← (reader rules fields).mapError .invalid)

/-- The file of a request. It may fail even then, as a request can be changed once it is made. -/
def toFile (request : Request) : Except RequestError ChangedFile :=
  (ChangedFile.ofValues request.filename request.patch request.oldContents
    request.currentContents request.status).mapError .file

end Request

end ReviewContext
