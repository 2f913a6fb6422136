import ReviewContext.Settings.Logging
import ReviewContext.Proofs.Outcome

/-! Logging that follows settings: when it can, and what a failure leaves of it. -/
namespace ReviewContext.Settings.Logging

variable {state next : Logging} {host : Host} {settings : LogSettings}

def canOpen (host : Host) (settings : LogSettings) (path : LogPath) : Bool :=
  settings.maxFileSize.aboveZero.isOk && (host.opening path).isOk &&
    (checkFormat settings.format).isOk

/-- Whether settings ask for no log file, for one that is open or for one that can be opened. -/
def takes (state : Logging) (host : Host) (settings : LogSettings) : Bool :=
  !settings.filePath.isTruthy ||
    match pathOf host settings.filePath with
    | .ok path => state.files.contains path || canOpen host settings path
    | .error _ => false

def newFile (state : Logging) (host : Host) (settings : LogSettings) (path : LogPath) :
    Except SettingsError Logging := do
  let _ ← settings.maxFileSize.aboveZero.mapError .kind
  (host.opening path).mapError .host
  checkFormat settings.format
  return { state with files := state.files ++ [path] }

theorem openFile_of_falsy (falsy : settings.filePath.isTruthy = false) :
    state.openFile host settings = .ok state := by
  unfold openFile
  rw [falsy]
  rfl

theorem openFile_of_path (truthy : settings.filePath.isTruthy = true) {path : LogPath}
    (written : pathOf host settings.filePath = .ok path) :
    state.openFile host settings =
      if state.files.contains path then .ok state else newFile state host settings path := by
  unfold openFile newFile
  rw [truthy, written]
  cases files : state.files with
  | nil => rfl
  | cons first rest => rfl

theorem openFile_of_noPath (truthy : settings.filePath.isTruthy = true) {error : SettingsError}
    (unwritten : pathOf host settings.filePath = .error error) :
    ∃ error, state.openFile host settings = .error error := by
  unfold openFile
  rw [truthy, unwritten]
  cases state.files with
  | nil =>
    cases size : settings.maxFileSize.aboveZero with
    | ok above => exact ⟨error, rfl⟩
    | error fault => exact ⟨.kind fault, rfl⟩
  | cons first rest => exact ⟨error, rfl⟩

theorem newFile_cases (state : Logging) (host : Host) (settings : LogSettings) (path : LogPath) :
    canOpen host settings path = true ∧
        newFile state host settings path = .ok { state with files := state.files ++ [path] } ∨
      canOpen host settings path = false ∧
        ∃ error, newFile state host settings path = .error error := by
  unfold newFile canOpen
  cases settings.maxFileSize.aboveZero with
  | error fault => exact .inr ⟨rfl, .kind fault, rfl⟩
  | ok above =>
    cases host.opening path with
    | error fault => exact .inr ⟨rfl, .host fault, rfl⟩
    | ok =>
      cases checkFormat settings.format with
      | error error => exact .inr ⟨rfl, error, rfl⟩
      | ok => exact .inl ⟨rfl, rfl⟩

theorem openFile_cases (state : Logging) (host : Host) (settings : LogSettings) :
    (state.takes host settings = true ∧ ∃ files, state.files <+: files ∧
        state.openFile host settings = .ok { state with files }) ∨
      state.takes host settings = false ∧
        ∃ error, state.openFile host settings = .error error := by
  unfold takes
  cases truthy : settings.filePath.isTruthy with
  | false => exact .inl ⟨rfl, state.files, List.prefix_rfl, openFile_of_falsy truthy⟩
  | true =>
    cases written : pathOf host settings.filePath with
    | error error => exact .inr ⟨rfl, openFile_of_noPath truthy written⟩
    | ok path =>
      rw [openFile_of_path truthy written]
      simp only [Bool.not_true, Bool.false_or]
      cases here : state.files.contains path with
      | true => exact .inl ⟨rfl, state.files, List.prefix_rfl, rfl⟩
      | false =>
        simp only [Bool.false_or, Bool.false_eq_true, if_false]
        rcases newFile_cases state host settings path with ⟨can, opened⟩ | ⟨cannot, failed⟩
        · exact .inl ⟨can, _, List.prefix_append .., opened⟩
        · exact .inr ⟨cannot, failed⟩

/-- Once the console is open, settings are followed exactly if their log file can be; the level is
theirs either way. Before that, logging stays as it was if their format has no field. -/
theorem adopt_cases (state : Logging) (host : Host) (config : Config) :
    (state.takes host config.logging = true ∧ ∃ files, state.files <+: files ∧
        state.adopt host config = (⟨true, config.logLevel, files⟩, .ok ())) ∨
      (state.takes host config.logging = false ∧ ∃ error,
        state.adopt host config = (⟨true, config.logLevel, state.files⟩, .error error)) ∨
      state.console = false ∧ ∃ error, state.adopt host config = (state, .error error) := by
  unfold adopt
  cases opened : if state.console then .ok () else checkFormat config.logging.format with
  | error error =>
    have closed : state.console = false := by
      cases console : state.console <;> simp_all
    exact .inr (.inr ⟨closed, error, rfl⟩)
  | ok =>
    rcases openFile_cases ⟨true, config.logLevel, state.files⟩ host config.logging with
      ⟨can, files, more, next⟩ | ⟨cannot, error, failed⟩
    · exact .inl ⟨can, files, more, by simp only [next]⟩
    · exact .inr (.inl ⟨cannot, error, by simp only [failed]⟩)

theorem files_adopt_of_error {config : Config} {error : SettingsError}
    (failed : (state.adopt host config).2 = .error error) :
    (state.adopt host config).1.files = state.files := by
  rcases adopt_cases state host config with ⟨-, files, -, made⟩ | ⟨-, _, made⟩ | ⟨-, _, made⟩
  · rw [made] at failed
    contradiction
  · rw [made]
  · rw [made]

end ReviewContext.Settings.Logging
