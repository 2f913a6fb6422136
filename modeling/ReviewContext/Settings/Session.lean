import ReviewContext.Settings.Manager

/-! The settings of a running program: made from the environment when they are first asked for. -/
namespace ReviewContext.Settings

def Manager.ofEnvironment (host : Host) (logging : Logging) (environment : Environment) :
    Logging × Except SettingsError Manager :=
  match environment.config with
  | .error error => (logging, .error error)
  | .ok config => Manager.start host logging config

structure Session where
  environment : Environment := []
  config : Option Config := none
  logging : Logging := {}
  pastDebugs : List Value := []

namespace Session

def setEnvironment (session : Session) (environment : Environment) : Session :=
  { session with environment }

/-- The settings in use. If they cannot be made none are kept, and the next call tries again. -/
def manager (session : Session) (host : Host) : Session × Except SettingsError Manager :=
  match session.config with
  | some config => (session, .ok ⟨config, session.logging, session.pastDebugs⟩)
  | none =>
    match Manager.ofEnvironment host session.logging session.environment with
    | (logging, .error error) => ({ session with logging }, .error error)
    | (_, .ok manager) =>
      ({ session with config := some manager.config, logging := manager.logging }, .ok manager)

def update (session : Session) (host : Host) (update : Update) :
    Session × Except SettingsError Unit :=
  match session.manager host with
  | (session, .error error) => (session, .error error)
  | (session, .ok manager) =>
    let (manager, outcome) := manager.update host update
    ({ session with
        config := some manager.config
        logging := manager.logging
        pastDebugs := manager.pastDebugs }, outcome)

end Session

end ReviewContext.Settings
