import ReviewContext.Settings.Session
import ReviewContext.Proofs.Settings.Atomicity

/-! Sessions: settings are made once, from the environment of the first call that can make them;
from then on they are changed by updates alone. -/
namespace ReviewContext.Settings

/-- What happens to a session: its environment is changed, or its settings are asked for or updated
on the host of that time. -/
inductive Event
  | environment (next : Environment)
  | get (host : Host)
  | update (turn : Turn)

def Event.host? : Event → Option Host
  | .environment _ => none
  | .get host => some host
  | .update turn => some turn.host

def turnsOf (events : List Event) : List Turn :=
  events.filterMap fun
    | .update turn => some turn
    | _ => none

def environmentAfter (environment : Environment) (events : List Event) : Environment :=
  events.foldl (fun environment event =>
    match event with
    | .environment next => next
    | _ => environment) environment

/-- The settings made by the first call that can make them from the environment of its time, and
the updates from that call on. What a call that fails has opened of logging stays open. -/
def origin? (logging : Logging) (environment : Environment) :
    List Event → Option (Manager × List Turn)
  | [] => none
  | event :: rest =>
    match event.host? with
    | none => origin? logging (environmentAfter environment [event]) rest
    | some host =>
      match Manager.ofEnvironment host logging environment with
      | (_, .ok first) => some (first, turnsOf (event :: rest))
      | (after, .error _) => origin? after environment rest

section Origins

variable {logging after : Logging} {environment : Environment} {event : Event}
  {rest : List Event} {host : Host}

theorem origin?_environment (next : Environment) :
    origin? logging environment (.environment next :: rest) = origin? logging next rest := rfl

theorem origin?_of_error (needs : event.host? = some host) {error : SettingsError}
    (failed : Manager.ofEnvironment host logging environment = (after, .error error)) :
    origin? logging environment (event :: rest) = origin? after environment rest := by
  rw [origin?, needs]
  simp only [failed]

theorem origin?_of_ok (needs : event.host? = some host) {first : Manager}
    (made : Manager.ofEnvironment host logging environment = (after, .ok first)) :
    origin? logging environment (event :: rest) = some (first, turnsOf (event :: rest)) := by
  rw [origin?, needs]
  simp only [made]

end Origins

theorem Environment.debug_of_config {environment : Environment} {config : Config}
    (made : environment.config = .ok config) : ∃ debug, config.debug = .bool debug := by
  unfold Environment.config at made
  simp only [Outcome.bind_eq_ok_iff] at made
  obtain ⟨_, -, _, -, _, -, _, -, _, -, _, -, _, -, same⟩ := made
  obtain rfl := Except.ok.inj same
  exact ⟨_, rfl⟩

namespace Manager

variable {host : Host} {before after : Logging} {environment : Environment} {first : Manager}

theorem ofEnvironment_eq_ok (made : ofEnvironment host before environment = (after, .ok first)) :
    environment.config = .ok first.config ∧ first.pastDebugs = [] ∧
      start host before first.config = (after, .ok first) ∧ first.logging = after := by
  unfold ofEnvironment at made
  split at made
  · exact absurd (congrArg Prod.snd made) nofun
  next config read =>
    obtain ⟨-, -, rfl⟩ := start_eq_ok made
    exact ⟨read, rfl, made, rfl⟩

theorem files_ofEnvironment_of_error {error : SettingsError}
    (failed : ofEnvironment host before environment = (after, .error error)) :
    after.files = before.files := by
  unfold ofEnvironment at failed
  split at failed
  · exact congrArg Logging.files (Prod.mk.inj failed).1.symm
  next config read =>
    unfold start at failed
    split at failed
    · exact congrArg Logging.files (Prod.mk.inj failed).1.symm
    · cases adopted : before.adopt host config with
      | mk logging outcome =>
        rw [adopted] at failed
        cases outcome with
        | ok => exact absurd (congrArg Prod.snd failed) nofun
        | error error =>
          obtain ⟨rfl, -⟩ := Prod.mk.inj failed
          have kept : (before.adopt host config).1.files = before.files :=
            Logging.files_adopt_of_error (congrArg Prod.snd adopted)
          rwa [adopted] at kept

theorem isQuiet_of_made (made : ofEnvironment host before environment = (after, .ok first))
    (changes : Update) : first.isQuiet changes = true := by
  obtain ⟨debug, same⟩ := Environment.debug_of_config (ofEnvironment_eq_ok made).1
  have unwritten : isMapping first.config.debug = false := by rw [same]; rfl
  rw [isQuiet, Config.writesDebug, unwritten, Bool.false_and, Bool.not_false, Bool.or_true]

end Manager

theorem origin?_eq_some {logging : Logging} {environment : Environment} {events : List Event}
    {first : Manager} {turns : List Turn}
    (made : origin? logging environment events = some (first, turns)) :
    ∃ before call rest host earlier, events = before ++ call :: rest ∧ call.host? = some host ∧
      origin? logging environment before = none ∧
      Manager.ofEnvironment host earlier (environmentAfter environment before) =
        (first.logging, .ok first) ∧ turns = turnsOf (call :: rest) := by
  induction events generalizing logging environment with
  | nil => contradiction
  | cons event rest ih =>
    cases needs : event.host? with
    | none =>
      cases event with
      | environment next =>
        rw [origin?_environment] at made
        obtain ⟨before, call, later, host, earlier, rfl, calls, none_before, outcome⟩ := ih made
        exact ⟨.environment next :: before, call, later, host, earlier, rfl, calls, none_before,
          outcome⟩
      | _ => contradiction
    | some host =>
      have same : environmentAfter environment [event] = environment := by
        cases event <;> first | rfl | contradiction
      cases outcome : Manager.ofEnvironment host logging environment with
      | mk after result =>
        cases result with
        | ok own =>
          rw [origin?_of_ok needs outcome] at made
          obtain ⟨rfl, rfl⟩ := Prod.mk.inj (Option.some.inj made)
          have kept := (Manager.ofEnvironment_eq_ok outcome).2.2.2
          exact ⟨[], event, rest, host, logging, rfl, needs, rfl, kept ▸ outcome, rfl⟩
        | error error =>
          rw [origin?_of_error needs outcome] at made
          obtain ⟨before, call, later, other, earlier, rfl, calls, none_before, made⟩ := ih made
          refine ⟨event :: before, call, later, other, earlier, rfl, calls, ?_, ?_⟩
          · rw [origin?_of_error needs outcome, none_before]
          · change Manager.ofEnvironment other earlier
              (environmentAfter (environmentAfter environment [event]) before) = _ ∧ _
            rw [same]
            exact made

theorem run_turnsOf_cons (manager : Manager) (event : Event) (rest : List Event) :
    manager.run (turnsOf (event :: rest)) =
      (manager.run (turnsOf [event])).run (turnsOf rest) := by
  cases event <;> rfl

namespace Session

def step (session : Session) : Event → Session
  | .environment next => session.setEnvironment next
  | .get host => (session.manager host).1
  | .update turn => (session.update turn.host turn.changes).1

def run (events : List Event) : Session := events.foldl step {}

def inUse? (session : Session) : Option Manager :=
  session.config.map fun config => ⟨config, session.logging, session.pastDebugs⟩

structure Unmade (session : Session) : Prop where
  config : session.config = none
  files : session.logging.files = []
  pastDebugs : session.pastDebugs = []

variable {session : Session} {manager : Manager} {host : Host}

theorem manager_of_inUse (made : session.inUse? = some manager) :
    session.manager host = (session, .ok manager) := by
  obtain ⟨config, kept, rfl⟩ := Option.map_eq_some_iff.mp made
  unfold Session.manager
  rw [kept]

namespace Unmade

theorem manager_of_error (unmade : session.Unmade) {after : Logging} {error : SettingsError}
    (failed : Manager.ofEnvironment host session.logging session.environment =
      (after, .error error)) :
    session.manager host = ({ session with logging := after }, .error error) := by
  unfold Session.manager
  rw [unmade.config, failed]

theorem manager_of_ok (unmade : session.Unmade) {after : Logging} {first : Manager}
    (made : Manager.ofEnvironment host session.logging session.environment =
      (after, .ok first)) :
    (session.manager host).2 = .ok first ∧ (session.manager host).1.inUse? = some first := by
  have past := (Manager.ofEnvironment_eq_ok made).2.1
  unfold Session.manager
  rw [unmade.config, made]
  simp only [inUse?, Option.map_some, unmade.pastDebugs, true_and, ← past]

end Unmade

theorem update_of_error {after : Session} {error : SettingsError}
    (failed : session.manager host = (after, .error error)) (changes : Update) :
    session.update host changes = (after, .error error) := by
  unfold update
  rw [failed]

theorem update_of_ok (ok : (session.manager host).2 = .ok manager) (changes : Update) :
    (session.update host changes).2 = (manager.update host changes).2 ∧
      (session.update host changes).1.inUse? = some (manager.update host changes).1 := by
  unfold update
  cases parts : session.manager host with
  | mk after outcome =>
    rw [parts] at ok
    dsimp only at ok
    subst ok
    exact ⟨rfl, rfl⟩

theorem environment_manager (session : Session) (host : Host) :
    (session.manager host).1.environment = session.environment := by
  unfold Session.manager
  split
  · rfl
  · split <;> rfl

theorem environment_step (session : Session) (event : Event) :
    (session.step event).environment = environmentAfter session.environment [event] := by
  cases event with
  | environment next => rfl
  | get host => exact session.environment_manager host
  | update turn =>
    have same := session.environment_manager turn.host
    change (session.update turn.host turn.changes).1.environment = session.environment
    unfold update
    cases parts : session.manager turn.host with
    | mk after outcome =>
      rw [parts] at same
      cases outcome <;> exact same

theorem environment_foldl (session : Session) (events : List Event) :
    (events.foldl step session).environment = environmentAfter session.environment events := by
  induction events generalizing session with
  | nil => rfl
  | cons event rest ih =>
    rw [List.foldl_cons, ih, environment_step]
    rfl

theorem step_of_error {event : Event} (needs : event.host? = some host) {after : Session}
    {error : SettingsError} (failed : session.manager host = (after, .error error)) :
    session.step event = after := by
  cases event with
  | environment next => contradiction
  | get own =>
    obtain rfl := Option.some.inj needs
    exact congrArg Prod.fst failed
  | update turn =>
    obtain rfl := Option.some.inj needs
    exact congrArg Prod.fst (update_of_error failed turn.changes)

theorem step_of_ok {event : Event} (needs : event.host? = some host)
    (ok : (session.manager host).2 = .ok manager)
    (kept : (session.manager host).1.inUse? = some manager) :
    (session.step event).inUse? = some (manager.run (turnsOf [event])) := by
  cases event with
  | environment next => contradiction
  | get own =>
    obtain rfl := Option.some.inj needs
    exact kept
  | update turn =>
    obtain rfl := Option.some.inj needs
    exact (update_of_ok ok turn.changes).2

theorem inUse?_step (made : session.inUse? = some manager) (event : Event) :
    (session.step event).inUse? = some (manager.run (turnsOf [event])) := by
  cases needs : event.host? with
  | some host =>
    have taken : session.manager host = (session, .ok manager) := manager_of_inUse made
    exact step_of_ok needs (congrArg Prod.snd taken) (by rw [taken, made])
  | none =>
    cases event with
    | environment next => exact made
    | _ => contradiction

theorem inUse?_foldl (made : session.inUse? = some manager) (events : List Event) :
    (events.foldl step session).inUse? = some (manager.run (turnsOf events)) := by
  induction events generalizing session manager with
  | nil => exact made
  | cons event rest ih => rw [run_turnsOf_cons, List.foldl_cons, ih (inUse?_step made event)]

namespace Unmade

theorem foldl (unmade : session.Unmade) (events : List Event) :
    (events.foldl Session.step session).inUse? =
        (origin? session.logging session.environment events).map
          (fun made => made.1.run made.2) ∧
      (origin? session.logging session.environment events = none →
        (events.foldl Session.step session).Unmade) := by
  induction events generalizing session with
  | nil => exact ⟨by rw [List.foldl_nil, inUse?, unmade.config]; rfl, fun _ => unmade⟩
  | cons event rest ih =>
    rw [List.foldl_cons]
    cases needs : event.host? with
    | none =>
      cases event with
      | environment next =>
        have still : (session.step (.environment next)).Unmade :=
          ⟨unmade.config, unmade.files, unmade.pastDebugs⟩
        exact ih still
      | _ => contradiction
    | some host =>
      cases outcome : Manager.ofEnvironment host session.logging session.environment with
      | mk after result =>
        cases result with
        | ok first =>
          obtain ⟨ok, kept⟩ := unmade.manager_of_ok outcome
          rw [origin?_of_ok needs outcome]
          refine ⟨?_, nofun⟩
          rw [inUse?_foldl (step_of_ok needs ok kept), ← run_turnsOf_cons]
          rfl
        | error error =>
          have files := Manager.files_ofEnvironment_of_error outcome
          have still : ({ session with logging := after } : Session).Unmade :=
            ⟨unmade.config, files.trans unmade.files, unmade.pastDebugs⟩
          rw [origin?_of_error needs outcome, step_of_error needs (unmade.manager_of_error outcome)]
          exact ih still

end Unmade

/-- Settings are made at most once, by the first call that can make them from the environment of its
time. Until then each call fails with what the environment of its own time fails with, and keeps no
settings and no log file; from then on each gives what the updates since then lead to from the
settings made first. These are the settings of that environment; an update that is refused leaves
them; and an update that fails could have been left out, unless it is refused after writing into a
debug value or accepted with logging that cannot follow. -/
theorem run_created_once (events : List Event) :
    let session := run events
    session.environment = environmentAfter [] events ∧
      session.inUse? = (origin? {} [] events).map (fun made => made.1.run made.2) ∧
      (origin? {} [] events = none →
        session.logging.files = [] ∧ ∀ host,
        match Manager.ofEnvironment host session.logging session.environment with
        | (after, .error error) =>
          session.manager host = ({ session with logging := after }, .error error) ∧
            ∀ changes, session.update host changes =
              ({ session with logging := after }, .error error)
        | (_, .ok first) =>
          (session.manager host).2 = .ok first ∧
            ∀ changes, (session.update host changes).2 = (first.update host changes).2) ∧
      ∀ first turns, origin? {} [] events = some (first, turns) →
        (∃ before call rest, events = before ++ call :: rest ∧ call.host?.isSome = true ∧
          origin? {} [] before = none ∧
          (environmentAfter [] before).config = .ok first.config ∧
          turns = turnsOf (call :: rest)) ∧
        (∀ host, session.manager host = (session, .ok (first.run turns)) ∧
          ∀ changes, (session.update host changes).2 =
            ((first.run turns).update host changes).2) ∧
        (∀ host changes,
          first.accepts changes = false → (first.update host changes).1 = first) ∧
        (Manager.always (fun manager _ => manager.isQuiet) first turns = true →
          first.run turns =
            first.run (Manager.those (fun manager _ => manager.accepts) first turns)) ∧
        (Manager.always Manager.isClean first turns = true →
          first.run turns = first.run (Manager.those Manager.succeeds first turns)) := by
  intro session
  have start : Unmade {} := ⟨rfl, rfl, rfl⟩
  obtain ⟨settings, nothing⟩ := start.foldl events
  refine ⟨environment_foldl {} events, settings, ?_, ?_⟩
  · intro none_made
    have unmade : session.Unmade := nothing none_made
    refine ⟨unmade.files, fun host => ?_⟩
    split
    next after error outcome =>
      have failed := unmade.manager_of_error outcome
      exact ⟨failed, update_of_error failed⟩
    next after first outcome =>
      have ok := (unmade.manager_of_ok outcome).1
      exact ⟨ok, fun changes => (update_of_ok ok changes).1⟩
  · intro first turns made
    obtain ⟨before, call, rest, host, earlier, split, needs, none_before, outcome, same⟩ :=
      origin?_eq_some made
    obtain ⟨config, -, started, -⟩ := Manager.ofEnvironment_eq_ok outcome
    have ready := Manager.ready_of_start started
    rw [made] at settings
    have taken (host : Host) : session.manager host = (session, .ok (first.run turns)) :=
      manager_of_inUse settings
    refine ⟨⟨before, call, rest, split, by rw [needs]; rfl, none_before, config, same⟩,
      fun host => ⟨taken host,
        fun changes => (update_of_ok (congrArg Prod.snd (taken host)) changes).1⟩,
      fun host changes refused =>
        Manager.update_of_quiet ready (Manager.isQuiet_of_made outcome changes) refused,
      Manager.run_accepted ready, Manager.run_successful ready⟩

def plainEnvironment : Environment :=
  [("LOG_FORMAT", ""), ("LOG_LEVEL", "error"), ("ENABLED_LANGUAGES", "tsx")]

def plainFirst : Manager where
  config := {
    parsers := { languages := .list [.text "tsx"] }
    logging := { level := .text "error", format := .text "" } }
  logging := ⟨true, 40, []⟩

theorem ofEnvironment_plain (host : Host) (console : Bool) (level : Nat) :
    Manager.ofEnvironment host ⟨console, level, []⟩ plainEnvironment =
      (plainFirst.logging, .ok plainFirst) := by
  have names : Environment.languagesOf "tsx" = ["tsx"] := by decide +kernel
  have off : (Text.lower "false" == "true") = false := by decide +kernel
  have read : plainEnvironment.config = .ok plainFirst.config := by
    unfold Environment.config Environment.languages Environment.number Environment.text
    simp [plainEnvironment, List.lookup_cons, names, off, plainFirst, pure, Except.pure]
  have valid : plainFirst.config.validate = .ok () := by decide +kernel
  have format : checkFormat plainFirst.config.logging.format = .ok () := rfl
  have named : plainFirst.config.logLevel = 40 := by decide +kernel
  simp only [Manager.ofEnvironment, Manager.start, Logging.adopt, read, valid, format, named,
    ite_self]
  rfl

theorem exists_error_of_isOk (host : Host) (before after : Logging) (environment : Environment)
    (none_made : (Manager.ofEnvironment host before environment).map id Except.isOk =
      (after, false)) :
    ∃ error, Manager.ofEnvironment host before environment = (after, .error error) := by
  cases outcome : Manager.ofEnvironment host before environment with
  | mk own result =>
    rw [outcome] at none_made
    obtain ⟨rfl, failed⟩ := Prod.mk.inj none_made
    cases result with
    | error error => exact ⟨error, rfl⟩
    | ok first => contradiction

theorem run_created_once_retry :
    let host := Manager.rootHost []
    let refused : Update :=
      [("logging.level", .text "info"), ("context.max_workers", .int 0)]
    let taken : Update := [("context.lines_above", .int 8)]
    let turns : List Turn := [⟨host, refused⟩, ⟨host, taken⟩]
    let events : List Event :=
      [.environment [("CONTEXT_MAX_WORKERS", "0")], .get host,
        .environment [("LOG_MAX_SIZE", "x")], .update ⟨host, taken⟩,
        .environment [("LOG_FILE", "/"), ("LOG_FORMAT", "")], .get host,
        .environment plainEnvironment, .update ⟨host, refused⟩,
        .environment [("DEBUG", "true")], .update ⟨host, taken⟩, .get host]
    origin? {} [] events = some (plainFirst, turns) ∧ plainFirst.accepts refused = false ∧
      (plainFirst.update host refused).1 = plainFirst ∧
      ((run events).manager host).2 = .ok (plainFirst.run turns) ∧
      Manager.always Manager.isClean plainFirst turns = true ∧
      plainFirst.run turns = plainFirst.run (Manager.those Manager.succeeds plainFirst turns) ∧
      (plainFirst.run turns).config.context.linesAbove.whole? = some 8 ∧
      (plainFirst.run turns).logging.level = 40 := by
  -- Three environments make no settings, the last of them for want of a log file; the update that
  -- makes them is refused, and the next environment comes too late.
  intro host refused taken turns events
  obtain ⟨noWorkers, workers⟩ := exists_error_of_isOk host {} {}
    [("CONTEXT_MAX_WORKERS", "0")] (by decide +kernel)
  obtain ⟨noSize, size⟩ := exists_error_of_isOk host {} {}
    [("LOG_MAX_SIZE", "x")] (by decide +kernel)
  obtain ⟨noFile, file⟩ := exists_error_of_isOk host {} ⟨true, 20, []⟩
    [("LOG_FILE", "/"), ("LOG_FORMAT", "")] (by decide +kernel)
  have unaccepted : plainFirst.accepts refused = false := by decide +kernel
  have clean : Manager.always Manager.isClean plainFirst turns = true := by decide +kernel
  have origin : origin? {} [] events = some (plainFirst, turns) := by
    rw [origin?_environment, origin?_of_error rfl workers, origin?_environment,
      origin?_of_error rfl size, origin?_environment, origin?_of_error rfl file,
      origin?_environment, origin?_of_ok rfl (ofEnvironment_plain host true 20)]
    rfl
  obtain ⟨-, now, stays, -, successful⟩ := (run_created_once events).2.2.2 plainFirst _ origin
  exact ⟨origin, unaccepted, stays host refused unaccepted, congrArg Prod.snd (now host).1,
    clean, successful clean, by decide +kernel, by decide +kernel⟩

theorem run_keeps_failed_update :
    let host := Manager.rootHost []
    let changes : Update :=
      [("logging.format", .text "plain"), ("logging.file_path", .text "f.log")]
    let turns : List Turn := [⟨host, changes⟩]
    let events : List Event := [.environment plainEnvironment, .update ⟨host, changes⟩]
    origin? {} [] events = some (plainFirst, turns) ∧
      (plainFirst.update host changes).2 = .error (.format "plain") ∧
      ∃ now, ((run events).manager host).2 = .ok now ∧
        now.config ≠
          (plainFirst.run (Manager.those Manager.succeeds plainFirst turns)).config := by
  -- An update fails because its format has no field, and yet settings asked for later are those
  -- that it put in use.
  intro host changes turns events
  have origin : origin? {} [] events = some (plainFirst, turns) := by
    rw [origin?_environment, origin?_of_ok rfl (ofEnvironment_plain host false 0)]
    rfl
  have changed : (plainFirst.run turns).config.logging.filePath.isTruthy = true := by
    decide +kernel
  have unchanged : (plainFirst.run (Manager.those Manager.succeeds plainFirst
      turns)).config.logging.filePath.isTruthy = false := by decide +kernel
  have start : Unmade {} := ⟨rfl, rfl, rfl⟩
  have settings : (run events).inUse? = some (plainFirst.run turns) := by
    have known := (start.foldl events).1
    change (run events).inUse? = (origin? {} [] events).map _ at known
    rw [known, origin, Option.map_some]
  have asked : ((run events).manager host).2 = .ok (plainFirst.run turns) := by
    rw [manager_of_inUse settings]
  have differs : (plainFirst.run turns).config ≠
      (plainFirst.run (Manager.those Manager.succeeds plainFirst turns)).config :=
    ne_of_apply_ne (fun config => config.logging.filePath.isTruthy) (by simp [changed, unchanged])
  exact ⟨origin, by decide +kernel, plainFirst.run turns, asked, differs⟩

end Session

end ReviewContext.Settings
