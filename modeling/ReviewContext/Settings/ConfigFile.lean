import ReviewContext.Settings.Config
import ReviewContext.Settings.Directory
import ReviewContext.Yaml.Document

/-! Settings from a YAML file. -/
namespace ReviewContext.Settings

namespace Config

/-- The settings that a document gives; one that is nothing, zero or empty gives none. -/
def ofDocument (document : Value) : Except SettingsError Config :=
  if !document.isTruthy then .ok {}
  else
    match document with
    | .map entries =>
      let fields := entries.filterMap fun entry => entry.1.text?.map (·, entry.2)
      (ofFields fields).mapError .fields
    | _ => .error (.kind (.noMember document.typeName "get"))

def ofYaml (text : String) : Except LoadError Config := do
  (ofDocument (← (Yaml.load text).mapError .document)).mapError .settings

def ofFile (directory : Directory) (path : Value) : Except LoadError Config := do
  let some path := path.text? | throw (.settings (.kind (.notPath path.typeName)))
  ofYaml (← directory.read path)

end Config

end ReviewContext.Settings
