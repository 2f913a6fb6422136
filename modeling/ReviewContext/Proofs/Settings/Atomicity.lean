import ReviewContext.Proofs.Settings.Logging
import ReviewContext.Proofs.Settings.Update

/-! Runs of updates, each on the host as it is at its time: what a call that fails leaves, and which
calls alone would have led to the same settings. -/
namespace ReviewContext.Settings

structure Turn where
  host : Host
  changes : Update

namespace Manager

/-- What a call can come to. It is refused, with nothing but the debug value touched; or its
settings are taken, and then logging follows them or does not. -/
inductive Call (manager : Manager) (host : Host) (changes : Update) :
    Manager × Except SettingsError Unit → Prop
  | refused (debug : Value) (error : SettingsError) :
      (manager.config.updated changes).2 = .error error →
      (manager.config.updated changes).1 = { manager.config with debug } →
      Call manager host changes
        ({ manager with config := { manager.config with debug } }, .error error)
  | followed (next : Config) (files : List LogPath) (pastDebugs : List Value) :
      (manager.config.updated changes).2 = .ok next →
      manager.logging.takes host next.logging = true → manager.logging.files <+: files →
      Call manager host changes (⟨next, ⟨true, next.logLevel, files⟩, pastDebugs⟩, .ok ())
  | unfollowed (next : Config) (pastDebugs : List Value) (error : SettingsError) :
      (manager.config.updated changes).2 = .ok next →
      manager.logging.takes host next.logging = false →
      Call manager host changes
        (⟨next, ⟨true, next.logLevel, manager.logging.files⟩, pastDebugs⟩, .error error)

structure Ready (manager : Manager) : Prop where
  opened : manager.logging.console = true
  valid : manager.config.validate = .ok ()

def accepts (manager : Manager) (changes : Update) : Bool :=
  (manager.config.updated changes).2.isOk

def succeeds (manager : Manager) (host : Host) (changes : Update) : Bool :=
  (manager.update host changes).2.isOk

/-- Whether an update that is refused writes into no debug value. -/
def isQuiet (manager : Manager) (changes : Update) : Bool :=
  manager.accepts changes || !manager.config.writesDebug changes

/-- Whether, besides, logging can follow the settings of an update that is accepted. -/
def isClean (manager : Manager) (host : Host) (changes : Update) : Bool :=
  manager.isQuiet changes &&
    match (manager.config.updated changes).2 with
    | .ok next => manager.logging.takes host next.logging
    | .error _ => true

/-- The updates of some turns one after the other; those that fail are passed over. -/
def run (manager : Manager) (turns : List Turn) : Manager :=
  turns.foldl (fun manager turn => (manager.update turn.host turn.changes).1) manager

def those (p : Manager → Host → Update → Bool) (manager : Manager) : List Turn → List Turn
  | [] => []
  | turn :: rest =>
    let after := (manager.update turn.host turn.changes).1
    if p manager turn.host turn.changes then turn :: those p after rest else those p after rest

def always (p : Manager → Host → Update → Bool) (manager : Manager) : List Turn → Bool
  | [] => true
  | turn :: rest =>
    p manager turn.host turn.changes &&
      always p (manager.update turn.host turn.changes).1 rest

variable {manager : Manager} {host : Host} {changes : Update}

theorem update_of_refused {error : SettingsError}
    (refused : (manager.config.updated changes).2 = .error error) :
    (manager.update host changes).1 =
      { manager with config := (manager.config.updated changes).1 } := by
  unfold update
  cases parts : manager.config.updated changes with
  | mk left outcome =>
    rw [parts] at refused
    dsimp only at refused
    subst refused
    rfl

theorem update_of_accepted {next : Config}
    (accepted : (manager.config.updated changes).2 = .ok next) :
    (manager.update host changes).1.config = next ∧
      (manager.update host changes).1.logging = (manager.logging.adopt host next).1 ∧
      (manager.update host changes).2 = (manager.logging.adopt host next).2 := by
  unfold update
  cases parts : manager.config.updated changes with
  | mk left outcome =>
    rw [parts] at accepted
    dsimp only at accepted
    subst accepted
    exact ⟨rfl, rfl, rfl⟩

namespace Ready

theorem call (ready : manager.Ready) (host : Host) (changes : Update) :
    manager.Call host changes (manager.update host changes) := by
  obtain ⟨debug, left⟩ := updated_fst manager.config changes
  unfold update
  cases parts : manager.config.updated changes with
  | mk config outcome =>
    rw [parts] at left
    cases outcome with
    | error error =>
      subst left
      exact .refused debug error (by rw [parts]) (by rw [parts])
    | ok next =>
      have taken : (manager.config.updated changes).2 = .ok next := by rw [parts]
      rcases manager.logging.adopt_cases host next with
        ⟨can, files, more, adopted⟩ | ⟨cannot, error, failed⟩ | ⟨closed, -⟩
      · simp only [adopted]
        exact .followed next files _ taken can more
      · simp only [failed]
        exact .unfollowed next _ error taken cannot
      · rw [ready.opened] at closed
        contradiction

theorem update (ready : manager.Ready) (host : Host) (changes : Update) :
    (manager.update host changes).1.Ready := by
  cases h : manager.update host changes with
  | mk after outcome =>
    cases h ▸ ready.call host changes with
    | refused debug error => exact ⟨ready.opened, ready.valid⟩
    | followed next files pastDebugs taken => exact ⟨rfl, validate_of_updated taken⟩
    | unfollowed next pastDebugs error taken => exact ⟨rfl, validate_of_updated taken⟩

theorem run (ready : manager.Ready) (turns : List Turn) : (manager.run turns).Ready := by
  induction turns generalizing manager with
  | nil => exact ready
  | cons turn rest ih => exact ih (ready.update turn.host turn.changes)

end Ready

theorem start_eq_ok {before after : Logging} {config : Config}
    (started : start host before config = (after, .ok manager)) :
    config.validate = .ok () ∧ before.adopt host config = (after, .ok ()) ∧
      manager = ⟨config, after, []⟩ := by
  unfold start at started
  split at started
  · exact absurd (congrArg Prod.snd started) nofun
  next valid =>
    cases adopted : before.adopt host config with
    | mk logging outcome =>
      rw [adopted] at started
      cases outcome with
      | error error => exact absurd (congrArg Prod.snd started) nofun
      | ok =>
        obtain ⟨rfl, made⟩ := Prod.mk.inj started
        exact ⟨valid, rfl, (Except.ok.inj made).symm⟩

theorem ready_of_start {before after : Logging} {config : Config}
    (started : start host before config = (after, .ok manager)) : manager.Ready := by
  obtain ⟨valid, adopted, rfl⟩ := start_eq_ok started
  rcases before.adopt_cases host config with
    ⟨-, files, -, made⟩ | ⟨-, error, made⟩ | ⟨-, error, made⟩ <;> rw [adopted] at made <;>
      cases made
  exact ⟨rfl, valid⟩

theorem run_those {p q : Manager → Host → Update → Bool}
    (idle : ∀ manager host changes, Ready manager → q manager host changes = true →
      p manager host changes = false → (manager.update host changes).1 = manager)
    (ready : manager.Ready) {turns : List Turn} (all : always q manager turns = true) :
    manager.run (those p manager turns) = manager.run turns := by
  induction turns generalizing manager with
  | nil => rfl
  | cons turn rest ih =>
    rw [always, Bool.and_eq_true] at all
    have step := ih (ready.update turn.host turn.changes) all.2
    unfold those
    cases kept : p manager turn.host turn.changes with
    | true => exact step
    | false =>
      have same := idle manager turn.host turn.changes ready all.1 kept
      simp only [run, List.foldl_cons, same, Bool.false_eq_true, if_false] at step ⊢
      exact step

theorem withDebug_eq_of_quiet (quiet : manager.isQuiet changes = true) {debug : Value}
    {error : SettingsError} (refused : (manager.config.updated changes).2 = .error error)
    (left : (manager.config.updated changes).1 = { manager.config with debug }) :
    { manager with config := { manager.config with debug } } = manager := by
  rw [isQuiet, accepts, refused, Outcome.isOk_error, Bool.false_or, Bool.not_eq_true'] at quiet
  rw [← left, updated_fst_of_not_writesDebug quiet]

theorem update_of_quiet (ready : manager.Ready) (quiet : manager.isQuiet changes = true)
    (kept : manager.accepts changes = false) : (manager.update host changes).1 = manager := by
  unfold accepts at kept
  cases h : manager.update host changes with
  | mk after outcome =>
    cases h ▸ ready.call host changes with
    | refused debug error refused left => exact withDebug_eq_of_quiet quiet refused left
    | followed next files pastDebugs taken => simp [taken] at kept
    | unfollowed next pastDebugs error taken => simp [taken] at kept

theorem update_of_clean (ready : manager.Ready) (clean : manager.isClean host changes = true)
    (kept : manager.succeeds host changes = false) :
    (manager.update host changes).1 = manager := by
  unfold succeeds at kept
  rw [isClean, Bool.and_eq_true] at clean
  cases h : manager.update host changes with
  | mk after outcome =>
    cases h ▸ ready.call host changes with
    | refused debug error refused left => exact withDebug_eq_of_quiet clean.1 refused left
    | followed => simp [h] at kept
    | unfollowed next pastDebugs error taken cannot => simp [taken, cannot] at clean

/-- Where no refused call writes into a debug value, the accepted ones alone lead to the same. -/
theorem run_accepted (ready : manager.Ready) {turns : List Turn}
    (quiet : always (fun manager _ => isQuiet manager) manager turns = true) :
    manager.run turns = manager.run (those (fun manager _ => accepts manager) manager turns) :=
  (run_those (fun _ _ _ => update_of_quiet) ready quiet).symm

/-- Where logging can follow besides, those that succeed do. -/
theorem run_successful (ready : manager.Ready) {turns : List Turn}
    (clean : always isClean manager turns = true) :
    manager.run turns = manager.run (those succeeds manager turns) :=
  (run_those (fun _ _ _ => update_of_clean) ready clean).symm

theorem update_of_error (ready : manager.Ready) {error : SettingsError}
    (failed : (manager.update host changes).2 = .error error) :
    (manager.update host changes).1.logging.files = manager.logging.files ∧
      (manager.accepts changes = false →
        (manager.update host changes).1.logging = manager.logging) ∧
      (manager.isClean host changes = true → (manager.update host changes).1 = manager) := by
  have clean (h : manager.isClean host changes = true) :
      (manager.update host changes).1 = manager :=
    update_of_clean ready h (by simp [succeeds, failed])
  rw [← and_assoc]
  refine ⟨?_, clean⟩
  unfold accepts
  cases h : manager.update host changes with
  | mk after outcome =>
    rw [h] at failed
    cases h ▸ ready.call host changes with
    | refused => exact ⟨rfl, fun _ => rfl⟩
    | followed => contradiction
    | unfollowed next pastDebugs error taken => exact ⟨rfl, by simp [taken]⟩

/-- The settings of a manager are valid at all times. A call that fails, on whatever host, leaves
the log files as they were, the level too if it is refused, and everything unless it is refused
after writing into the debug value or accepted with logging that cannot follow. Where no refused
call of a run writes into a debug value, the accepted ones alone lead to the same; where logging can
follow besides, those that succeed do. -/
theorem run_atomic {before after : Logging} {config : Config}
    (started : start host before config = (after, .ok manager)) (turns : List Turn) :
    let last := manager.run turns
    last.config.validate = .ok () ∧
      (∀ host changes error, (last.update host changes).2 = .error error →
        (last.update host changes).1.logging.files = last.logging.files ∧
          (last.accepts changes = false →
            (last.update host changes).1.logging = last.logging) ∧
          (last.isClean host changes = true → (last.update host changes).1 = last)) ∧
      (always (fun manager _ => isQuiet manager) manager turns = true →
        last = manager.run (those (fun manager _ => accepts manager) manager turns)) ∧
      (always isClean manager turns = true →
        last = manager.run (those succeeds manager turns)) := by
  have ready := ready_of_start started
  exact ⟨(ready.run turns).valid, fun host changes error => update_of_error (ready.run turns),
    run_accepted ready, run_successful ready⟩

/-- A host with the root for its working folder, where no folder can be opened as a file: neither
the root nor a folder that is named. -/
def rootHost (folders : List String) : Host where
  folder _ := .ok []
  opening path :=
    if path.parts.isEmpty ∨ folders.any fun name => path.parts == [.ofChars name.toList] then
      .error ⟨"IsADirectoryError", "[Errno 21] Is a directory"⟩
    else .ok ()

def plainStart : Manager := ⟨{ logging := { format := .text "" } }, ⟨true, 20, []⟩, []⟩

theorem start_plainStart (host : Host) :
    start host {} plainStart.config = (⟨true, 20, []⟩, .ok plainStart) := by
  have valid : plainStart.config.validate = .ok () := by decide +kernel
  have format : checkFormat plainStart.config.logging.format = .ok () := rfl
  have level : plainStart.config.logLevel = 20 := by decide +kernel
  unfold start Logging.adopt
  rw [valid, format, level]
  rfl

theorem run_atomic_refusal :
    let host := rootHost []
    let turns : List Turn :=
      [⟨host, [("context.lines_above", .int 8)]⟩, ⟨host, [("context.max_workers", .int 0)]⟩,
        ⟨host, [("debug", .bool true)]⟩]
    start host {} plainStart.config = (⟨true, 20, []⟩, .ok plainStart) ∧
      always isClean plainStart turns = true ∧
      (those succeeds plainStart turns).map (fun turn => turn.changes.map Prod.fst) =
        [["context.lines_above"], ["debug"]] ∧
      plainStart.run turns = plainStart.run (those succeeds plainStart turns) := by
  -- The second of three updates is refused.
  intro host turns
  have clean : always isClean plainStart turns = true := by decide +kernel
  have started := start_plainStart host
  exact ⟨started, clean, by decide +kernel, (run_atomic started turns).2.2.2 clean⟩

theorem update_not_atomic :
    let host := rootHost ["logs"]
    let changes : Update := [("debug", .bool true), ("logging.file_path", .text "f.log"),
      ("logging.format", .text "plain")]
    let others : Update := [("debug", .bool true), ("logging.file_path", .text "logs")]
    start host {} plainStart.config = (⟨true, 20, []⟩, .ok plainStart) ∧
      (plainStart.update host changes).2 = .error (.format "plain") ∧
      (plainStart.update host changes).1.config.debug ≠ plainStart.config.debug ∧
      (plainStart.update host changes).1.logging.level ≠ plainStart.logging.level ∧
      (plainStart.update host others).2 =
        .error (.host ⟨"IsADirectoryError", "[Errno 21] Is a directory"⟩) ∧
      (plainStart.update host others).1.config.debug ≠ plainStart.config.debug ∧
      (plainStart.update host others).1.logging.level ≠ plainStart.logging.level := by
  -- That a format has no field, or that the place of a log file is a folder, is found out only when
  -- the settings that have it, and their level, are in use.
  intro host changes others
  have truthy {value : Value} (h : value.isTruthy = true) : value ≠ plainStart.config.debug := by
    rintro rfl
    contradiction
  exact ⟨start_plainStart host, by decide +kernel, truthy (by decide +kernel), by decide +kernel,
    by decide +kernel, truthy (by decide +kernel), by decide +kernel⟩

end Manager

end ReviewContext.Settings
