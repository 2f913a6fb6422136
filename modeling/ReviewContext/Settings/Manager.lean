import ReviewContext.Settings.Environment
import ReviewContext.Settings.Logging

/-! Settings in use: they are changed as a whole, and logging follows them. -/
namespace ReviewContext.Settings

/-- Settings with the state of logging that goes with them, and the debug values that were in use
before, the last one first, as they were when others took their places. -/
structure Manager where
  config : Config
  logging : Logging
  pastDebugs : List Value := []

/-- Names of settings with new values, a section and a field apart by a dot; each name once. -/
abbrev Update := Fields

def Update.ofPairs (pairs : List (Value × Value)) : Except FieldError Update :=
  pairs.foldlM (fun update pair =>
    match pair.1.text? with
    | some name => .ok (update.set name pair.2)
    | none => .error .keyNotText) []

def splitName? (name : String) : Option (String × String) :=
  match name.toList.span (· ≠ '.') with
  | (section_, '.' :: field) => some (String.ofList section_, String.ofList field)
  | _ => none

/-- Gives one setting a value: a field of a section that is there, or a whole section. -/
def applyEntry (fields : Fields) (entry : String × Value) : Except SettingsError Fields :=
  match splitName? entry.1 with
  | none => .ok (fields.set entry.1 entry.2)
  | some (name, field) =>
    match fields.get? name with
    | some (.map entries) =>
      .ok (fields.set name (.map (Value.setEntry entries (.text field) entry.2)))
    | _ => .error (.unknownSection name)

/-- Gives settings their values one after the other. A field of the debug value is a field of the
value in use, unless the update has put another in its place; so that value is handed back, whether
it comes to a failure or not. -/
def applyUpdate (own : Bool) (debug : Value) (fields : Fields) :
    Update → Value × Except SettingsError Fields
  | [] => (debug, .ok fields)
  | entry :: rest =>
    match applyEntry fields entry with
    | .error error => (debug, .error error)
    | .ok fields =>
      match splitName? entry.1 with
      | some ("debug", _) =>
        applyUpdate own (if own then fields.getD "debug" debug else debug) fields rest
      | _ => applyUpdate (own && entry.1 != "debug") debug fields rest

def Config.ofValidFields (fields : Fields) : Except SettingsError Config := do
  let next ← (Config.ofFields fields).mapError .fields
  next.validate
  return next

/-- The settings in use as an update leaves them, and those that result from it. -/
def Config.updated (config : Config) (update : Update) : Config × Except SettingsError Config :=
  if (update.get? selfName).isSome then
    (config, .error (.fields (.reserved "ConfigManager.update_config")))
  else
    match config.toFields with
    | .error error => (config, .error error)
    | .ok fields =>
      let (debug, fields) := applyUpdate true config.debug fields update
      ({ config with debug }, fields >>= Config.ofValidFields)

namespace Manager

def start (host : Host) (logging : Logging) (config : Config) :
    Logging × Except SettingsError Manager :=
  match config.validate with
  | .error error => (logging, .error error)
  | .ok () =>
    let (logging, outcome) := logging.adopt host config
    (logging, outcome.map fun _ => { config, logging })

/-- Changes the settings. If they are refused nothing changes but fields of the debug value; once
accepted they stay, whatever becomes of logging. -/
def update (manager : Manager) (host : Host) (update : Update) :
    Manager × Except SettingsError Unit :=
  match manager.config.updated update with
  | (config, .error error) => ({ manager with config }, .error error)
  | (left, .ok config) =>
    let (logging, outcome) := manager.logging.adopt host config
    let replaced := if (update.get? "debug").isSome then [left.debug] else []
    (⟨config, logging, replaced ++ manager.pastDebugs⟩, outcome)

def debugs (manager : Manager) : List Value := manager.pastDebugs.reverse ++ [manager.config.debug]

/-- The settings of an earlier state as they are seen later: a debug value is one and the same as
long as no other takes its place, so that what becomes of it shows in all states that have it. -/
def seenFrom (later earlier : Manager) : Config :=
  { earlier.config with debug := later.debugs.getD earlier.pastDebugs.length earlier.config.debug }

end Manager

end ReviewContext.Settings
