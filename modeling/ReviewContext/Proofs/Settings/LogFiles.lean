import Mathlib.Data.List.Nodup
import ReviewContext.Proofs.Settings.Atomicity
import ReviewContext.Proofs.Settings.Validation

/-! Logging along a run of updates: the level is that of the settings adopted last, and the open log
files are those of all settings adopted so far, each once. -/
namespace ReviewContext

theorem Value.setEntry_ne_nil (entries : List (Value × Value)) (key value : Value) :
    Value.setEntry entries key value ≠ [] := by
  unfold Value.setEntry
  split_ifs with known
  · rw [ne_eq, List.map_eq_nil_iff]
    rintro rfl
    contradiction
  · simp

namespace Settings

/-- What writing into a debug value makes of it: nothing new, or of a mapping one that is not
empty. -/
def Grown (before after : Value) : Prop :=
  after = before ∨ ∃ entries more, before = .map entries ∧ after = .map more ∧ more ≠ []

theorem Grown.trans {a b c : Value} (first : Grown a b) (second : Grown b c) : Grown a c := by
  rcases first with rfl | ⟨entries, middle, rfl, rfl, some_first⟩
  · exact second
  · rcases second with rfl | ⟨_, more, -, rfl, some_second⟩
    · exact .inr ⟨entries, middle, rfl, rfl, some_first⟩
    · exact .inr ⟨entries, more, rfl, rfl, some_second⟩

theorem Grown.isTruthy_eq {before after : Value} (grown : Grown before after)
    (filled : before ≠ .map []) :
    after.isTruthy = before.isTruthy := by
  rcases grown with rfl | ⟨entries, more, rfl, rfl, some_more⟩
  · rfl
  · have some_entries : entries ≠ [] := by
      rintro rfl
      exact filled rfl
    rw [Value.isTruthy, Value.isTruthy, List.isEmpty_eq_false_iff.mpr some_more,
      List.isEmpty_eq_false_iff.mpr some_entries]

theorem applyUpdate_grown {own : Bool} {debug : Value} {fields : Fields} {update : Update}
    (here : own = true → fields.get? "debug" = some debug) :
    Grown debug (applyUpdate own debug fields update).1 := by
  induction update generalizing own debug fields with
  | nil => exact .inl rfl
  | cons entry rest ih =>
    cases own with
    | false => exact .inl (applyUpdate_of_notOwn ..)
    | true =>
      unfold applyUpdate
      split
      · exact .inl rfl
      next after applied =>
        rcases applyEntry_eq_ok applied with ⟨whole, rfl⟩ |
          ⟨name, field, entries, parts, there, rfl⟩
        · rw [whole]
          by_cases replaced : entry.1 = "debug"
          · simp only [replaced, bne_self_eq_false, Bool.and_false]
            exact .inl (applyUpdate_of_notOwn ..)
          · exact ih fun _ => (Fields.get?_set_of_ne (Ne.symm replaced) ..).trans (here rfl)
        · rw [parts]
          by_cases debug_field : name = "debug"
          · subst debug_field
            have mapping : debug = .map entries := Option.some.inj ((here rfl).symm.trans there)
            have written : Fields.getD
              (fields.set "debug" (.map (Value.setEntry entries (.text field) entry.2)))
                "debug" debug = .map (Value.setEntry entries (.text field) entry.2) := by
              rw [Fields.getD, Fields.get?_set_self, Option.getD_some]
            simp only [if_true, written]
            -- The value just written is the one in use for the rest, and `fields` has it too.
            exact Grown.trans
              (.inr ⟨entries, _, mapping, rfl, Value.setEntry_ne_nil entries (.text field) entry.2⟩)
              (ih fun _ => Fields.get?_set_self ..)
          · split
            next same => exact absurd (congrArg Prod.fst (Option.some.inj same)) debug_field
            next =>
              exact ih fun _ => (Fields.get?_set_of_ne (Ne.symm debug_field) ..).trans (here rfl)

theorem updated_grown (config : Config) (update : Update) :
    Grown config.debug (config.updated update).1.debug := by
  unfold Config.updated
  split
  · exact .inl rfl
  · split
    · exact .inl rfl
    next fields given => exact applyUpdate_grown fun _ => get?_debug_of_toFields given

/-- The level that settings ask for: the one for debugging if they say so, else the one that they
name. -/
def Config.Asks (config : Config) (level : Nat) : Prop :=
  if config.debug.isTruthy then level = LogLevel.debug.number
  else ∃ name named, config.logging.level.text? = some name ∧ LogLevel.ofName? name = some named ∧
    level = named.number

theorem Config.asks_logLevel {config : Config} (valid : config.validate = .ok ()) :
    config.Asks config.logLevel := by
  obtain ⟨name, level, written, known⟩ := exists_level_of_validate valid
  unfold Config.Asks Config.logLevel
  split_ifs
  · rfl
  · exact ⟨name, level, written, known, by rw [written, Option.bind_some, known, Option.getD_some]⟩

structure Adoption where
  host : Host
  config : Config

/-- Where the log file is that settings ask for: their path, unless it is empty or null, as it reads
on the host that they are adopted on. -/
def Adoption.Opens (adoption : Adoption) (path : LogPath) : Prop :=
  adoption.config.logging.filePath.isTruthy = true ∧
    pathOf adoption.host adoption.config.logging.filePath = .ok path

namespace Logging

variable {state next : Logging} {host : Host} {config : Config}

theorem opens_iff_of_path (truthy : config.logging.filePath.isTruthy = true) {path : LogPath}
    (written : pathOf host config.logging.filePath = .ok path) (other : LogPath) :
    Adoption.Opens ⟨host, config⟩ other ↔ other = path := by
  unfold Adoption.Opens
  simp [truthy, written, eq_comm]

theorem not_opens_of_falsy (falsy : config.logging.filePath.isTruthy = false) (path : LogPath) :
    ¬Adoption.Opens ⟨host, config⟩ path := by
  rintro ⟨truthy, -⟩
  rw [falsy] at truthy
  contradiction

theorem files_of_openFile (opened : state.openFile host config.logging = .ok next) :
    (state.files.Nodup → next.files.Nodup) ∧
      ∀ path, path ∈ next.files ↔ path ∈ state.files ∨ Adoption.Opens ⟨host, config⟩ path := by
  cases truthy : config.logging.filePath.isTruthy with
  | false =>
    rw [openFile_of_falsy truthy] at opened
    obtain rfl := Except.ok.inj opened
    exact ⟨id, fun path => by simp [not_opens_of_falsy truthy]⟩
  | true =>
    cases written : pathOf host config.logging.filePath with
    | error fault =>
      obtain ⟨error, failed⟩ : ∃ error, state.openFile host config.logging = .error error :=
        openFile_of_noPath truthy written
      rw [failed] at opened
      contradiction
    | ok path =>
      have opens := opens_iff_of_path truthy written
      rw [openFile_of_path truthy written] at opened
      split_ifs at opened with here
      · obtain rfl := Except.ok.inj opened
        rw [List.contains_iff_mem] at here
        exact ⟨id, fun other => by
          rw [opens]
          exact ⟨.inl, fun either => either.elim id fun same => same ▸ here⟩⟩
      · rcases newFile_cases state host config.logging path with ⟨-, made⟩ | ⟨-, error, failed⟩
        · rw [made] at opened
          obtain rfl := Except.ok.inj opened
          rw [List.contains_iff_mem] at here
          refine ⟨fun distinct => ?_, fun other => by simp [opens]⟩
          rw [← List.concat_eq_append]
          exact List.Nodup.concat here distinct
        · rw [failed] at opened
          contradiction

theorem adopt_of_ok (followed : (state.adopt host config).2 = .ok ()) :
    (state.adopt host config).1.level = config.logLevel ∧
      (state.files.Nodup → (state.adopt host config).1.files.Nodup) ∧
      ∀ path, path ∈ (state.adopt host config).1.files ↔
        path ∈ state.files ∨ Adoption.Opens ⟨host, config⟩ path := by
  unfold adopt at followed ⊢
  split at followed
  next => contradiction
  next =>
    rcases openFile_cases ⟨true, config.logLevel, state.files⟩ host config.logging with
      ⟨-, files, -, made⟩ | ⟨-, error, failed⟩
    · have open_now := files_of_openFile made
      dsimp only
      rw [made]
      exact ⟨rfl, open_now⟩
    · simp [failed] at followed

end Logging

namespace Manager

/-- Whether an update succeeds or is refused before logging is touched. -/
def isFollowed (manager : Manager) (host : Host) (changes : Update) : Bool :=
  manager.succeeds host changes || !manager.accepts changes

/-- The settings that a run adopts, as they are when this comes about. -/
def adoptions (manager : Manager) : List Turn → List Adoption
  | [] => []
  | turn :: rest =>
    let after := (manager.update turn.host turn.changes).1
    match (manager.config.updated turn.changes).2 with
    | .ok next => ⟨turn.host, next⟩ :: adoptions after rest
    | .error _ => adoptions after rest

/-- Logging goes with the newest of the settings adopted so far. Those in use are these, apart from
what has been written into their debug value. -/
structure Tracks (manager : Manager) (adopted : List Adoption) (newest : Config) : Prop where
  valid : newest.validate = .ok ()
  level : manager.logging.level = newest.logLevel
  settings : manager.config = { newest with debug := manager.config.debug }
  grown : Grown newest.debug manager.config.debug
  distinct : manager.logging.files.Nodup
  mem_files : ∀ path, path ∈ manager.logging.files ↔ ∃ adoption ∈ adopted, adoption.Opens path

def newestOf (adopted : List Adoption) (config : Config) : Config :=
  (adopted.map Adoption.config).getLastD config

theorem newestOf_cons (first : Adoption) (rest : List Adoption) (config : Config) :
    newestOf (first :: rest) config = newestOf rest first.config := by
  unfold newestOf
  rw [List.map_cons, List.getLastD_cons]

variable {manager : Manager} {host : Host} {changes : Update} {adopted : List Adoption}
  {newest : Config}

namespace Tracks

theorem accepted (tracks : manager.Tracks adopted newest) {next : Config}
    (taken : (manager.config.updated changes).2 = .ok next)
    (follows : manager.isFollowed host changes = true) :
    (manager.update host changes).1.Tracks (adopted ++ [⟨host, next⟩]) next := by
  obtain ⟨config, logging, outcome⟩ : (manager.update host changes).1.config = next ∧
      (manager.update host changes).1.logging = (manager.logging.adopt host next).1 ∧
      (manager.update host changes).2 = (manager.logging.adopt host next).2 :=
    update_of_accepted taken
  have followed : (manager.logging.adopt host next).2 = .ok () := by
    rw [isFollowed, accepts, taken, Outcome.isOk_ok, Bool.not_true, Bool.or_false, succeeds,
      outcome] at follows
    cases h : (manager.logging.adopt host next).2 with
    | ok => rfl
    | error error => simp [h] at follows
  obtain ⟨level, distinct, files⟩ := Logging.adopt_of_ok followed
  refine ⟨validate_of_updated taken, ?_, ?_, ?_, ?_, fun path => ?_⟩
  · rw [logging, level]
  · rw [config]
  · rw [config]
    exact .inl rfl
  · rw [logging]
    exact distinct tracks.distinct
  · rw [logging, files, tracks.mem_files]
    simp [or_and_right, exists_or]

theorem refused (tracks : manager.Tracks adopted newest) {error : SettingsError}
    (not_taken : (manager.config.updated changes).2 = .error error) :
    (manager.update host changes).1.Tracks adopted newest := by
  obtain ⟨debug, left⟩ := updated_fst manager.config changes
  have grown := updated_grown manager.config changes
  rw [update_of_refused not_taken]
  refine ⟨tracks.valid, tracks.level, ?_, tracks.grown.trans grown, tracks.distinct,
    tracks.mem_files⟩
  dsimp only
  rw [left, tracks.settings]

theorem run (tracks : manager.Tracks adopted newest) {turns : List Turn}
    (follows : always isFollowed manager turns = true) :
    (manager.run turns).Tracks (adopted ++ adoptions manager turns)
      (newestOf (adoptions manager turns) newest) := by
  induction turns generalizing manager adopted newest with
  | nil => simpa [adoptions, newestOf, Manager.run] using tracks
  | cons turn rest ih =>
    rw [always, Bool.and_eq_true] at follows
    unfold adoptions
    cases taken : (manager.config.updated turn.changes).2 with
    | ok next =>
      rw [List.append_cons, newestOf_cons]
      exact ih (tracks.accepted taken follows.1) follows.2
    | error error => exact ih (tracks.refused taken) follows.2

/-- Settings ask for the level that logging has, unless their debug value is a mapping that was
empty when they were adopted. -/
theorem asks (tracks : manager.Tracks adopted newest) :
    newest.Asks manager.logging.level ∧
      (manager.config.Asks manager.logging.level ∨
        newest.debug = .map [] ∧ manager.config.debug ≠ .map []) := by
  have asked : newest.Asks manager.logging.level :=
    tracks.level ▸ Config.asks_logLevel tracks.valid
  refine ⟨asked, ?_⟩
  by_cases blank : newest.debug = .map [] ∧ manager.config.debug ≠ .map []
  · exact .inr blank
  · have same : manager.config.debug.isTruthy = newest.debug.isTruthy := by
      by_cases empty : newest.debug = .map []
      · rw [empty, not_not.mp fun other => blank ⟨empty, other⟩]
      · exact tracks.grown.isTruthy_eq empty
    refine .inl ?_
    unfold Config.Asks at asked ⊢
    rw [same, tracks.settings]
    exact asked

end Tracks

theorem tracks_of_start {after : Logging} {config : Config}
    (started : start host {} config = (after, .ok manager)) :
    manager.Tracks [⟨host, config⟩] config := by
  obtain ⟨valid, adopted, rfl⟩ := start_eq_ok started
  have followed : (({} : Logging).adopt host config).2 = .ok () := by rw [adopted]
  obtain ⟨level, distinct, files⟩ := Logging.adopt_of_ok followed
  rw [adopted] at level distinct files
  exact ⟨valid, level, rfl, .inl rfl, distinct List.nodup_nil, fun path => by simp [files]⟩

theorem config_run_of_quiet {turns : List Turn}
    (quiet : always (fun manager _ => isQuiet manager) manager turns = true) :
    (manager.run turns).config = newestOf (adoptions manager turns) manager.config := by
  induction turns generalizing manager with
  | nil => rfl
  | cons turn rest ih =>
    rw [always, Bool.and_eq_true] at quiet
    have step := ih quiet.2
    unfold adoptions
    cases taken : (manager.config.updated turn.changes).2 with
    | ok next =>
      rw [(update_of_accepted taken).1] at step
      rw [newestOf_cons]
      exact step
    | error error =>
      have unwritten : manager.config.writesDebug turn.changes = false := by
        simpa [isQuiet, accepts, taken] using quiet.1
      have same : (manager.update turn.host turn.changes).1 = manager := by
        rw [update_of_refused taken, updated_fst_of_not_writesDebug unwritten]
      rw [same] at step
      change ((manager.update turn.host turn.changes).1.run rest).config =
        newestOf (adoptions (manager.update turn.host turn.changes).1 rest) manager.config
      rw [same]
      exact step

/-- Along updates that succeed or are refused, the level is what the settings adopted last asked
for. Those in use ask for it too, unless a debug value that was adopted as an empty mapping has been
written into; they are those adopted last where no refused update writes into a debug value. No log
file is open twice, and the open ones are at the places that the settings adopted so far ask for, as
their paths read in the working folder of that time. -/
theorem run_logs {after : Logging} {config : Config}
    (started : start host {} config = (after, .ok manager)) {turns : List Turn}
    (follows : always isFollowed manager turns = true) :
    let last := manager.run turns
    let newest := newestOf (adoptions manager turns) config
    newest.Asks last.logging.level ∧
      (last.config.Asks last.logging.level ∨
        newest.debug = .map [] ∧ last.config.debug ≠ .map []) ∧
      last.config = { newest with debug := last.config.debug } ∧
      (always (fun manager _ => isQuiet manager) manager turns = true → last.config = newest) ∧
      last.logging.files.Nodup ∧
      ∀ path, path ∈ last.logging.files ↔
        ∃ adoption ∈ ⟨host, config⟩ :: adoptions manager turns, adoption.Opens path := by
  intro last newest
  have tracks := (tracks_of_start started).run follows
  refine ⟨tracks.asks.1, tracks.asks.2, tracks.settings, fun quiet => ?_, tracks.distinct,
    tracks.mem_files⟩
  obtain ⟨-, -, rfl⟩ := start_eq_ok started
  exact config_run_of_quiet quiet

def hostIn (folder : List String) : Host where
  folder _ := .ok (folder.map fun part => .ofChars part.toList)
  opening _ := .ok ()

def logPath (parts : List String) : LogPath :=
  ⟨.text, 1, parts.map fun part => .ofChars part.toList⟩

def loggedStart : Manager :=
  ⟨{ logging := { format := .text "", filePath := .text "a.log" } },
    ⟨true, 20, [logPath ["srv", "a.log"]]⟩, []⟩

theorem start_loggedStart :
    start (hostIn ["srv"]) {} loggedStart.config = (loggedStart.logging, .ok loggedStart) := by
  have valid : loggedStart.config.validate = .ok () := by decide +kernel
  have adopted : ({} : Logging).adopt (hostIn ["srv"]) loggedStart.config =
      (loggedStart.logging, .ok ()) := by decide +kernel
  unfold start
  rw [valid, adopted]
  rfl

theorem run_logs_return :
    let host := hostIn ["srv"]
    let turns : List Turn :=
      [⟨host, [("logging.file_path", .text "b.log"), ("debug", .bool true)]⟩,
        ⟨host, [("logging.file_path", .text "/srv/old/..//./a.log")]⟩,
        ⟨host, [("context.max_workers", .int 0), ("logging.file_path", .text "c.log")]⟩,
        ⟨hostIn ["home"], [("logging.file_path", .text "b.log")]⟩]
    start host {} loggedStart.config = (loggedStart.logging, .ok loggedStart) ∧
      always isFollowed loggedStart turns = true ∧
      ∃ last, loggedStart.run turns = last ∧ last.config.Asks 10 ∧ last.logging.level = 10 ∧
        last.logging.files =
          [logPath ["srv", "a.log"], logPath ["srv", "b.log"], logPath ["home", "b.log"]] ∧
        last.logging.files.Nodup := by
  -- The second update goes back to the first file in other words, the third is refused, and the
  -- last one names a file as the first did, but in another folder.
  intro host turns
  have follows : always isFollowed loggedStart turns = true := by decide +kernel
  have level : (loggedStart.run turns).logging.level = 10 := by decide +kernel
  have files : (loggedStart.run turns).logging.files =
      [logPath ["srv", "a.log"], logPath ["srv", "b.log"], logPath ["home", "b.log"]] := by
    decide +kernel
  obtain ⟨asked, -, -, quiet, distinct, -⟩ := run_logs start_loggedStart follows
  have newest := quiet (by decide +kernel)
  rw [← newest, level] at asked
  refine ⟨start_loggedStart, follows, _, rfl, ?_⟩
  -- what the settings ask for is not to be found out by running the updates once more
  generalize loggedStart.run turns = last at level files asked distinct
  exact ⟨asked, level, files, distinct⟩

theorem run_level_behind :
    let host := hostIn []
    let manager : Manager :=
      { plainStart with config := { plainStart.config with debug := .map [] } }
    let changes : Update := [("debug.a", .int 1), ("context.max_workers", .int 0)]
    start host {} manager.config = (manager.logging, .ok manager) ∧
      manager.accepts changes = false ∧
      (manager.update host changes).1.config.debug.isTruthy = true ∧
      ¬(manager.update host changes).1.config.Asks
        (manager.update host changes).1.logging.level := by
  -- An update that is refused writes into an empty debug value, and the level stays as it was.
  intro host manager changes
  have valid : manager.config.validate = .ok () := by decide +kernel
  have adopted : ({} : Logging).adopt host manager.config = (manager.logging, .ok ()) := by
    decide +kernel
  have started : start host {} manager.config = (manager.logging, .ok manager) := by
    unfold start
    rw [valid, adopted]
    rfl
  have truthy : (manager.update host changes).1.config.debug.isTruthy = true := by
    decide +kernel
  refine ⟨started, by decide +kernel, truthy, ?_⟩
  rw [Config.Asks, if_pos truthy]
  decide +kernel

end Manager

end Settings

end ReviewContext
