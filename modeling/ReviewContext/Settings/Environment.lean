import ReviewContext.Settings.Validation
import ReviewContext.Text.LetterCase

/-! Settings from environment variables. Numbers are read in the order of the settings. -/
namespace ReviewContext.Settings

abbrev Environment := List (String × String)

inductive VariableError
  | notText (type : String)
  | nullCharacter
  | equalsSign
  | noName
deriving DecidableEq, Repr

def VariableError.message : VariableError → String
  | notText type => "str expected, not " ++ type
  | nullCharacter => "embedded null byte"
  | equalsSign => "illegal environment variable name"
  | noName => "[Errno 22] Invalid argument"

namespace Environment

/-- A variable has a name without an equals sign, and a text; neither has null characters. -/
def ofField (field : String × Value) : Except VariableError (String × String) := do
  let some text := field.2.text? | throw (.notText field.2.typeName)
  if field.1.toList.contains '\x00' || text.toList.contains '\x00' then throw .nullCharacter
  if field.1.toList.contains '=' then throw .equalsSign
  if field.1 = "" then throw .noName
  return (field.1, text)

def ofFields (fields : Fields) : Except VariableError Environment := fields.mapM Environment.ofField

def number (environment : Environment) (name : String) (default : Int) :
    Except SettingsError Value :=
  match environment.lookup name with
  | none => .ok (.int default)
  | some written =>
    match Text.readInteger written with
    | .ok n => .ok (.int n)
    | .error error => .error (.number written error)

def text (environment : Environment) (name default : String) : Value :=
  .text ((environment.lookup name).getD default)

/-- Names between commas, in small letters and without the blanks around them. -/
def languagesOf (written : String) : List String :=
  ((written.toList.splitOn ',').map Text.trimList).filter (· ≠ []) |>.map fun name =>
    Text.lower (String.ofList name)

def languages (environment : Environment) : Value :=
  .list ((languagesOf ((environment.lookup "ENABLED_LANGUAGES").getD
    (",".intercalate defaultLanguages))).map .text)

def config (environment : Environment) : Except SettingsError Config := do
  let searchMargin ← environment.number "SCOPE_SEARCH_MARGIN" 50
  let linesAbove ← environment.number "CONTEXT_LINES_ABOVE" 5
  let linesBelow ← environment.number "CONTEXT_LINES_BELOW" 5
  let maxWorkers ← environment.number "CONTEXT_MAX_WORKERS" 4
  let charsPerToken ← environment.number "CHARS_PER_TOKEN" 4
  let maxFileSize ← environment.number "LOG_MAX_SIZE" 10485760
  let backupCount ← environment.number "LOG_BACKUP_COUNT" 5
  return {
    context := { searchMargin, linesAbove, linesBelow, maxWorkers, charsPerToken }
    parsers := { languages := environment.languages }
    logging := {
      level := environment.text "LOG_LEVEL" "INFO"
      format := environment.text "LOG_FORMAT" defaultFormat
      filePath := ((environment.lookup "LOG_FILE").map Value.text).getD .null
      maxFileSize, backupCount }
    debug := .bool (Text.lower ((environment.lookup "DEBUG").getD "false") == "true") }

end Environment

end ReviewContext.Settings
