import ReviewContext.Value

/-! Fields: values under names, as records are made of them. -/
namespace ReviewContext

/-- Named values in the order of their names' first appearance. -/
abbrev Fields := List (String × Value)

namespace Fields

def get? (fields : Fields) (name : String) : Option Value := fields.lookup name

def getD (fields : Fields) (name : String) (default : Value) : Value :=
  (fields.get? name).getD default

def text? (fields : Fields) (name : String) : Option String := (fields.get? name).bind Value.text?

def set (fields : Fields) (name : String) (value : Value) : Fields :=
  if fields.any fun field => field.1 == name then
    fields.map fun field => if field.1 == name then (name, value) else field
  else fields ++ [(name, value)]

end Fields

inductive FieldError
  | notMapping (record type : String)
  | keyNotText
  | unexpected (record field : String)
  /-- The name that stands for the record itself is taken. -/
  | reserved (function : String)
  | missing (record : String) (fields : List String)
deriving DecidableEq, Repr

namespace FieldError

def quotedName (name : String) : String := "'" ++ name ++ "'"

/-- Names in quotes, the last one behind a word; of more than two each is followed by a comma. -/
def enumerate (names : List String) : String :=
  match names.map quotedName with
  | [] => ""
  | [a] => a
  | [a, b] => a ++ " and " ++ b
  | all => ", ".intercalate all.dropLast ++ ", and " ++ all.getLastD ""

def message : FieldError → String
  | notMapping record type => record ++ "() argument after ** must be a mapping, not " ++ type
  | keyNotText => "keywords must be strings"
  | unexpected record field =>
    record ++ ".__init__() got an unexpected keyword argument '" ++ field ++ "'"
  | reserved function => function ++ "() got multiple values for argument 'self'"
  | missing record fields =>
    record ++ ".__init__() missing " ++ toString fields.length ++ " required positional argument"
      ++ (if fields.length = 1 then "" else "s") ++ ": " ++ enumerate fields

end FieldError

def Value.ofFields (fields : Fields) : Value :=
  .map (fields.map fun field => (.text field.1, field.2))

def Value.fields (record : String) : Value → Except FieldError Fields
  | .map entries =>
    match entries.mapM fun entry => entry.1.text?.map (·, entry.2) with
    | some fields => .ok fields
    | none => .error .keyNotText
  | value => .error (.notMapping record value.typeName)

def selfName : String := "self"

def Fields.only (fields : Fields) (record : String) (known : List String) :
    Except FieldError Unit :=
  match fields.find? fun field => !known.contains field.1 with
  | some field =>
    if field.1 = selfName then .error (.reserved (record ++ ".__init__"))
    else .error (.unexpected record field.1)
  | none => .ok ()

def Fields.all (fields : Fields) (record : String) (needed : List String) :
    Except FieldError Unit :=
  match needed.filter fun name => (fields.get? name).isNone with
  | [] => .ok ()
  | absent => .error (.missing record absent)

end ReviewContext
