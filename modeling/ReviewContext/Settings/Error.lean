import ReviewContext.Fields
import ReviewContext.Kind
import ReviewContext.Settings.LogPath
import ReviewContext.Text.Integer

/-! What can be wrong with settings. -/
namespace ReviewContext.Settings

/-- A setting of the right kind with a value that it must not have. -/
inductive Problem
  | searchMargin
  | lineMargins
  | maxWorkers
  | charsPerToken
  | unknownLanguages (names : List String)
  | logLevel (name : String)
deriving DecidableEq, Repr

def Problem.message : Problem → String
  | searchMargin => "Scope search margin must be non-negative"
  | lineMargins => "Context line margins must be non-negative"
  | maxWorkers => "Max workers must be positive"
  | charsPerToken => "Characters per token must be positive"
  | unknownLanguages names => "Unknown languages: " ++ ", ".intercalate names
  | logLevel name => "Invalid log level: " ++ name

inductive SettingsError
  | invalid (problems : List Problem)
  | kind (error : KindError)
  | fields (error : FieldError)
  | unknownSection (name : String)
  | number (written : String) (error : Text.NumberError)
  | format (written : String)
  | host (fault : HostFault)
deriving DecidableEq, Repr

def SettingsError.message : SettingsError → String
  | invalid problems =>
    "Configuration validation failed: " ++ "; ".intercalate (problems.map Problem.message)
  | kind error => error.message
  | fields error => error.message
  | unknownSection name => Text.quoted ("Unknown config section: " ++ name)
  | number written .malformed => Text.invalidLiteral written 10
  | number _ (.tooLong excess) => excess.message
  | format written => "Invalid format '" ++ written ++ "' for '%' style"
  | host fault => fault.message

end ReviewContext.Settings
