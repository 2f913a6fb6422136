import ReviewContext.Proofs.Settings.Atomicity
import ReviewContext.Proofs.Settings.Validation

/-! Updates of single settings: they change what they name and nothing else, in whatever order, and
two that are accepted one after the other are one. -/
namespace ReviewContext

namespace Fields

theorem get?_cons (field : String × Value) (fields : Fields) (name : String) :
    get? (field :: fields) name = if name = field.1 then some field.2 else fields.get? name := by
  obtain ⟨own, value⟩ := field
  unfold get?
  by_cases same : name = own
  · rw [List.lookup_cons, beq_iff_eq.mpr same, if_pos same]
  · have apart : (name == own) = false := by simpa using same
    rw [List.lookup_cons, apart, if_neg same]

theorem get?_of_notMem {fields : Fields} {name : String} (absent : name ∉ fields.map Prod.fst) :
    fields.get? name = none := by
  unfold get?
  rw [List.lookup_eq_none_iff]
  intro field here
  rw [bne_iff_ne]
  rintro rfl
  exact absent (List.mem_map_of_mem here)

theorem exists_of_get?_eq_some {fields : Fields} {name : String} {value : Value}
    (h : fields.get? name = some value) :
    ∃ field ∈ fields, field.1 = name := by
  by_contra absent
  rw [get?_of_notMem fun here => absent (by simpa using here)] at h
  contradiction

theorem exists_get?_of_mem {fields : Fields} {field : String × Value} (here : field ∈ fields) :
    ∃ value, fields.get? field.1 = some value := by
  cases given : fields.get? field.1 with
  | some value => exact ⟨value, rfl⟩
  | none =>
    unfold get? at given
    exact absurd (List.lookup_eq_none_iff.mp given field here) (by simp)

theorem get?_of_perm {fields others : Fields} (distinct : (fields.map Prod.fst).Nodup)
    (perm : others.Perm fields) (name : String) : others.get? name = fields.get? name := by
  induction perm with
  | nil => rfl
  | cons field _ ih => rw [get?_cons, get?_cons, ih (List.nodup_cons.mp distinct).2]
  | swap first second rest =>
    have apart : second.1 ≠ first.1 := fun same => (List.nodup_cons.mp distinct).1 (by simp [same])
    simp only [get?_cons]
    by_cases here : name = first.1
    · simp [here, apart.symm]
    · simp [here]
  | trans _ last ihfirst ihlast =>
    exact (ihfirst ((last.map Prod.fst).nodup_iff.mpr distinct)).trans (ihlast distinct)

end Fields

namespace Settings

/-- A single setting: a field of a section, or the debug switch. -/
inductive Setting
  | searchMargin
  | linesAbove
  | linesBelow
  | maxWorkers
  | charsPerToken
  | languages
  | level
  | format
  | filePath
  | maxFileSize
  | backupCount
  | debug
deriving DecidableEq, Repr

namespace Setting

def all : List Setting :=
  [searchMargin, linesAbove, linesBelow, maxWorkers, charsPerToken, languages, level, format,
    filePath, maxFileSize, backupCount, debug]

def name : Setting → String
  | searchMargin => "context.scope_search_margin"
  | linesAbove => "context.lines_above"
  | linesBelow => "context.lines_below"
  | maxWorkers => "context.max_workers"
  | charsPerToken => "context.chars_per_token"
  | languages => "parsers.enabled_languages"
  | level => "logging.level"
  | format => "logging.format"
  | filePath => "logging.file_path"
  | maxFileSize => "logging.max_file_size"
  | backupCount => "logging.backup_count"
  | debug => "debug"

theorem name_injective {a b : Setting} (same : a.name = b.name) : a = b := by
  cases a <;> cases b <;> first | rfl | exact absurd same (by decide)

theorem name_ne_selfName (setting : Setting) : setting.name ≠ selfName := by
  cases setting <;> decide

def place? : Setting → Option (String × String)
  | searchMargin => some ("context", "scope_search_margin")
  | linesAbove => some ("context", "lines_above")
  | linesBelow => some ("context", "lines_below")
  | maxWorkers => some ("context", "max_workers")
  | charsPerToken => some ("context", "chars_per_token")
  | languages => some ("parsers", "enabled_languages")
  | level => some ("logging", "level")
  | format => some ("logging", "format")
  | filePath => some ("logging", "file_path")
  | maxFileSize => some ("logging", "max_file_size")
  | backupCount => some ("logging", "backup_count")
  | debug => none

theorem splitName?_name (setting : Setting) : splitName? setting.name = setting.place? := by
  cases setting <;> rfl

theorem isDebugField_name (setting : Setting) : isDebugField setting.name = false := by
  rw [isDebugField, splitName?_name]
  cases setting <;> rfl

end Setting

def fieldsOf (values : Setting → Value) : Fields :=
  [("context",
    .ofFields [("scope_search_margin", values .searchMargin), ("lines_above", values .linesAbove),
      ("lines_below", values .linesBelow), ("max_workers", values .maxWorkers),
      ("chars_per_token", values .charsPerToken)]),
    ("parsers", .ofFields [("enabled_languages", values .languages)]),
    ("logging",
    .ofFields [("level", values .level), ("format", values .format),
      ("file_path", values .filePath), ("max_file_size", values .maxFileSize),
      ("backup_count", values .backupCount)]),
    ("debug", values .debug)]

namespace Config

def ofValues (values : Setting → Value) : Config where
  context :=
    ⟨values .searchMargin, values .linesAbove, values .linesBelow, values .maxWorkers,
      values .charsPerToken⟩
  parsers := ⟨values .languages⟩
  logging :=
    ⟨values .level, values .format, values .filePath, values .maxFileSize, values .backupCount⟩
  debug := values .debug

/-- The values of settings as they are shown: of the languages a list. -/
def shown (config : Config) : Setting → Value
  | .searchMargin => config.context.searchMargin
  | .linesAbove => config.context.linesAbove
  | .linesBelow => config.context.linesBelow
  | .maxWorkers => config.context.maxWorkers
  | .charsPerToken => config.context.charsPerToken
  | .languages => .list (config.parsers.languages.items?.getD [])
  | .level => config.logging.level
  | .format => config.logging.format
  | .filePath => config.logging.filePath
  | .maxFileSize => config.logging.maxFileSize
  | .backupCount => config.logging.backupCount
  | .debug => config.debug

theorem ofFields_fieldsOf (values : Setting → Value) :
    ofFields (fieldsOf values) = .ok (ofValues values) := rfl

variable {config : Config}

theorem items?_of_listed {value : Value} {items : List Value} (listed : value.listed = .ok items) :
    value.items? = some items := by
  unfold Value.listed at listed
  split at listed
  next found => rw [found, Except.ok.inj listed]
  next => contradiction

theorem toFields_of_valid (valid : config.validate = .ok ()) :
    config.toFields = .ok (fieldsOf config.shown) := by
  obtain ⟨items, sound⟩ := sound_of_validate valid
  unfold toFields fieldsOf shown
  rw [sound.listed, items?_of_listed sound.listed]
  rfl

theorem validate_shown (valid : config.validate = .ok ()) :
    (ofValues config.shown).validate = .ok () := by
  obtain ⟨items, sound⟩ := sound_of_validate valid
  have listed : (ofValues config.shown).parsers.languages.listed = .ok items := by
    change (Value.list (config.parsers.languages.items?.getD [])).listed = .ok items
    rw [items?_of_listed sound.listed]
    rfl
  have same : (ofValues config.shown).problems = config.problems := by
    unfold problems languageProblems
    rw [listed, sound.listed]
    rfl
  unfold validate at valid ⊢
  rw [same, valid]

end Config

theorem applyEntry_fieldsOf (values : Setting → Value) (setting : Setting) (value : Value) :
    applyEntry (fieldsOf values) (setting.name, value) =
      .ok (fieldsOf (Function.update values setting value)) := by
  unfold applyEntry
  rw [setting.splitName?_name]
  cases setting <;> rfl

def assigned (values : Setting → Value) (update : Update) (setting : Setting) : Value :=
  (update.get? setting.name).getD (values setting)

/-- An update of single settings, each at most once and the languages by a list. -/
structure Update.Plain (update : Update) : Prop where
  distinct : (update.map Prod.fst).Nodup
  single : ∀ entry ∈ update, ∃ setting : Setting, entry.1 = setting.name
  listed : ∀ value, update.get? Setting.languages.name = some value → ∃ items, value = .list items

variable {update other : Update} {values : Setting → Value}

namespace Update.Plain

theorem of_perm (plain : update.Plain) (perm : other.Perm update) : other.Plain where
  distinct := (perm.map Prod.fst).nodup_iff.mpr plain.distinct
  single entry here := plain.single entry (perm.mem_iff.mp here)
  listed value given := plain.listed value (by rwa [← Fields.get?_of_perm plain.distinct perm])

theorem of_joined {first second both : Update} (plain : first.Plain) (later : second.Plain)
    (distinct : (both.map Prod.fst).Nodup)
    (joined : ∀ name, both.get? name = (second.get? name).or (first.get? name)) : both.Plain where
  distinct := distinct
  single entry here := by
    obtain ⟨value, given⟩ := Fields.exists_get?_of_mem here
    rw [joined, Option.or_eq_some_iff] at given
    rcases given with given | ⟨-, given⟩
    · obtain ⟨own, inside, same⟩ := Fields.exists_of_get?_eq_some given
      exact same ▸ later.single own inside
    · obtain ⟨own, inside, same⟩ := Fields.exists_of_get?_eq_some given
      exact same ▸ plain.single own inside
  listed value given := by
    rw [joined, Option.or_eq_some_iff] at given
    rcases given with given | ⟨-, given⟩
    · exact later.listed value given
    · exact plain.listed value given

theorem get?_selfName (plain : update.Plain) : update.get? selfName = none := by
  refine Fields.get?_of_notMem fun here => ?_
  obtain ⟨entry, inside, same⟩ := List.mem_map.mp here
  obtain ⟨setting, named⟩ := plain.single entry inside
  exact setting.name_ne_selfName (named.symm.trans same)

theorem writesDebug (plain : update.Plain) (config : Config) :
    config.writesDebug update = false := by
  have quiet : update.namesDebugField = false := by
    unfold Update.namesDebugField
    rw [List.any_eq_false]
    intro entry here
    obtain ⟨setting, named⟩ := plain.single entry ((List.takeWhile_sublist _).subset here)
    rw [named, setting.isDebugField_name]
    nofun
  rw [Config.writesDebug, quiet, Bool.and_false]

end Update.Plain

theorem applyUpdate_fieldsOf (distinct : (update.map Prod.fst).Nodup)
    (single : ∀ entry ∈ update, ∃ setting : Setting, entry.1 = setting.name) (own : Bool)
    (debug : Value) :
    (applyUpdate own debug (fieldsOf values) update).2 =
      .ok (fieldsOf (assigned values update)) := by
  induction update generalizing values own debug with
  | nil => rfl
  | cons entry rest ih =>
    obtain ⟨setting, named⟩ := single entry List.mem_cons_self
    obtain ⟨first, distinct⟩ := List.nodup_cons.mp distinct
    have once : Fields.get? rest setting.name = none := Fields.get?_of_notMem (named ▸ first)
    have applied : applyEntry (fieldsOf values) entry =
        .ok (fieldsOf (Function.update values setting entry.2)) := by
      rw [← applyEntry_fieldsOf, ← named]
    have same : assigned (Function.update values setting entry.2) rest =
        assigned values (entry :: rest) := by
      funext one
      unfold assigned
      rw [Fields.get?_cons, named]
      by_cases here : one = setting
      · subst here
        simp [once]
      · rw [if_neg (mt Setting.name_injective here), Function.update_of_ne here]
    rw [← same]
    unfold applyUpdate
    -- Whether the debug value in use is written into makes no difference to the fields.
    simp only [applied]
    split <;> exact ih distinct (fun other here => single other (List.mem_cons_of_mem _ here)) _ _

/-- What an update of single settings comes to: the settings with the values that it gives, if they
are valid. -/
theorem updated_of_plain {config : Config} (valid : config.validate = .ok ())
    (plain : update.Plain) :
    config.updated update = (config, do
      (Config.ofValues (assigned config.shown update)).validate
      return Config.ofValues (assigned config.shown update)) := by
  have left : (config.updated update).1 = config :=
    updated_fst_of_not_writesDebug (plain.writesDebug config)
  have right : (config.updated update).2 = do
      (Config.ofValues (assigned config.shown update)).validate
      return Config.ofValues (assigned config.shown update) := by
    unfold Config.updated
    rw [plain.get?_selfName, Config.toFields_of_valid valid]
    simp only [Option.isSome_none, Bool.false_eq_true, if_false]
    rw [applyUpdate_fieldsOf plain.distinct plain.single]
    change Config.ofValidFields (fieldsOf (assigned config.shown update)) = _
    rw [Config.ofValidFields, Config.ofFields_fieldsOf]
    rfl
  exact Prod.ext left right

theorem updated_eq_ok_iff {config next : Config} (valid : config.validate = .ok ())
    (plain : update.Plain) :
    (config.updated update).2 = .ok next ↔
      next = Config.ofValues (assigned config.shown update) ∧ next.validate = .ok () := by
  rw [updated_of_plain valid plain]
  simp only [Outcome.bind_eq_ok_iff, pure, Except.pure, Except.ok.injEq]
  constructor
  · rintro ⟨⟨⟩, holds, rfl⟩
    exact ⟨rfl, holds⟩
  · rintro ⟨rfl, holds⟩
    exact ⟨⟨⟩, holds, rfl⟩

theorem shown_ofValues (listed : ∃ items, values .languages = .list items) :
    (Config.ofValues values).shown = values := by
  obtain ⟨items, same⟩ := listed
  funext setting
  cases setting with
  | languages =>
    change Value.list ((values .languages).items?.getD []) = values .languages
    rw [same]
    rfl
  | _ => rfl

theorem Update.Plain.listed_assigned (plain : update.Plain) (config : Config) :
    ∃ items, assigned config.shown update .languages = .list items := by
  unfold assigned
  cases given : update.get? Setting.languages.name with
  | none => exact ⟨_, rfl⟩
  | some value => exact plain.listed value given

theorem assigned_of_perm (distinct : (update.map Prod.fst).Nodup) (perm : other.Perm update) :
    assigned values other = assigned values update :=
  funext fun setting =>
    congrArg (Option.getD · (values setting)) (Fields.get?_of_perm distinct perm setting.name)

theorem assigned_assigned {first second both : Update}
    (joined : ∀ name, both.get? name = (second.get? name).or (first.get? name)) :
    assigned (assigned values first) second = assigned values both := by
  funext setting
  unfold assigned
  rw [joined]
  cases second.get? setting.name <;> rfl

theorem assigned_eq_self (current : ∀ setting value, update.get? setting.name = some value →
    value = values setting) :
    assigned values update = values := by
  funext setting
  unfold assigned
  cases given : update.get? setting.name with
  | none => rfl
  | some value => exact current setting value given

section Single

variable {config next : Config}

theorem shown_of_updated (valid : config.validate = .ok ()) (plain : update.Plain)
    (accepted : (config.updated update).2 = .ok next) :
    next.validate = .ok () ∧ next.shown = assigned config.shown update := by
  obtain ⟨rfl, holds⟩ := (updated_eq_ok_iff valid plain).mp accepted
  exact ⟨holds, shown_ofValues (plain.listed_assigned config)⟩

theorem updated_of_perm (valid : config.validate = .ok ()) (plain : update.Plain)
    (perm : other.Perm update) :
    config.updated other = config.updated update := by
  rw [updated_of_plain valid plain, updated_of_plain valid (plain.of_perm perm),
    assigned_of_perm plain.distinct perm]

theorem updated_of_joined {first second both : Update} {last : Config}
    (valid : config.validate = .ok ()) (plain : first.Plain) (later : second.Plain)
    (distinct : (both.map Prod.fst).Nodup)
    (joined : ∀ name, both.get? name = (second.get? name).or (first.get? name))
    (accepted : (config.updated first).2 = .ok next)
    (acceptedLater : (next.updated second).2 = .ok last) :
    (config.updated both).2 = .ok last := by
  obtain ⟨holds, shown⟩ := shown_of_updated valid plain accepted
  obtain ⟨same, holdsLast⟩ := (updated_eq_ok_iff holds later).mp acceptedLater
  rw [shown, assigned_assigned joined] at same
  exact (updated_eq_ok_iff valid (plain.of_joined later distinct joined)).mpr ⟨same, holdsLast⟩

theorem updated_of_current (valid : config.validate = .ok ()) (plain : update.Plain)
    (current : ∀ setting value, update.get? setting.name = some value →
      value = config.shown setting) :
    (config.updated update).2 = .ok (Config.ofValues config.shown) := by
  have unchanged : assigned config.shown update = config.shown := assigned_eq_self current
  exact (updated_eq_ok_iff valid plain).mpr ⟨by rw [unchanged], Config.validate_shown valid⟩

end Single

namespace Manager

variable {manager : Manager} {changes : Update}

theorem accepts_iff : manager.accepts changes = true ↔
    ∃ next, (manager.config.updated changes).2 = .ok next := by
  unfold accepts
  cases (manager.config.updated changes).2 <;> simp

/-- Of an update of single settings: if it is accepted, the settings are as before but for those
that it names; its order makes no difference to anything; with one that is accepted behind it, it
makes one that is accepted and leads to the same settings; and if it names values that are there
already, it is accepted and changes nothing. -/
theorem update_composes (valid : manager.config.validate = .ok ()) (plain : changes.Plain)
    (host : Host) :
    let after := (manager.update host changes).1
    manager.config.toFields = .ok (fieldsOf manager.config.shown) ∧
      (manager.accepts changes = true →
        after.config.toFields = .ok (fieldsOf (assigned manager.config.shown changes))) ∧
      (∀ other, other.Perm changes → manager.update host other = manager.update host changes ∧
        manager.accepts other = manager.accepts changes) ∧
      (∀ later both, later.Plain → (both.map Prod.fst).Nodup →
        (∀ name, both.get? name = (later.get? name).or (changes.get? name)) →
        manager.accepts changes = true → after.accepts later = true →
        manager.accepts both = true ∧ ∀ second third : Host,
          (manager.update third both).1.config = (after.update second later).1.config) ∧
      ((∀ setting value,
          changes.get? setting.name = some value → value = manager.config.shown setting) →
        manager.accepts changes = true ∧ after.config.toFields = manager.config.toFields) := by
  intro after
  refine ⟨Config.toFields_of_valid valid, ?_, ?_, ?_, ?_⟩
  · intro accepted
    obtain ⟨next, accepted⟩ := accepts_iff.mp accepted
    obtain ⟨holds, shown⟩ := shown_of_updated valid plain accepted
    rw [(update_of_accepted accepted).1, Config.toFields_of_valid holds, shown]
  · intro other perm
    unfold update accepts
    rw [updated_of_perm valid plain perm, Fields.get?_of_perm plain.distinct perm]
    exact ⟨rfl, rfl⟩
  · intro later both plainLater distinct joined accepted acceptedLater
    obtain ⟨next, accepted⟩ := accepts_iff.mp accepted
    obtain ⟨last, acceptedLater⟩ := accepts_iff.mp acceptedLater
    have inUse : after.config = next := (update_of_accepted accepted).1
    have once :=
      updated_of_joined valid plain plainLater distinct joined accepted (inUse ▸ acceptedLater)
    exact ⟨accepts_iff.mpr ⟨last, once⟩, fun _ _ =>
      (update_of_accepted once).1.trans (update_of_accepted acceptedLater).1.symm⟩
  · intro current
    have accepted := updated_of_current valid plain current
    obtain ⟨holds, shown⟩ := shown_of_updated valid plain accepted
    refine ⟨accepts_iff.mpr ⟨_, accepted⟩, ?_⟩
    rw [(update_of_accepted accepted).1, Config.toFields_of_valid holds, shown,
      assigned_eq_self current, Config.toFields_of_valid valid]

theorem update_composes_shared :
    let host := rootHost []
    let changes : Update := [("context.lines_above", .int 8), ("debug", .bool true)]
    let later : Update := [("debug", .bool false), ("logging.level", .text "error")]
    let both : Update := [("logging.level", .text "error"), ("debug", .bool false),
      ("context.lines_above", .int 8)]
    let every : Update :=
      Setting.all.map fun setting => (setting.name, plainStart.config.shown setting)
    plainStart.config.validate = .ok () ∧ changes.Plain ∧ every.Plain ∧
      plainStart.accepts changes = true ∧
      (plainStart.update host changes).1.accepts later = true ∧ plainStart.accepts both = true ∧
      (plainStart.update host both).1.config =
        ((plainStart.update host changes).1.update host later).1.config ∧
      plainStart.accepts every = true ∧
      (plainStart.update host every).1.config.toFields = plainStart.config.toFields := by
  -- Two updates that share a setting, and one that names every setting with its value.
  intro host changes later both every
  have valid : plainStart.config.validate = .ok () := by decide +kernel
  have plain : changes.Plain :=
    ⟨by decide, by simp [changes,
        show ∃ s : Setting, "context.lines_above" = s.name from ⟨.linesAbove, rfl⟩,
        show ∃ s : Setting, "debug" = s.name from ⟨.debug, rfl⟩], nofun⟩
  have plainLater : later.Plain :=
    ⟨by decide, by simp [later,
        show ∃ s : Setting, "logging.level" = s.name from ⟨.level, rfl⟩,
        show ∃ s : Setting, "debug" = s.name from ⟨.debug, rfl⟩], nofun⟩
  have plainEvery : every.Plain := by
    refine ⟨by decide, fun entry here => ?_, fun value given =>
      ⟨_, (Option.some.inj given).symm⟩⟩
    obtain ⟨setting, -, rfl⟩ := List.mem_map.mp here
    exact ⟨setting, rfl⟩
  have joined (name : String) : both.get? name = (later.get? name).or (changes.get? name) := by
    simp only [both, later, changes, Fields.get?_cons]
    by_cases level : name = "logging.level"
    · simp [level]
    · by_cases debug : name = "debug" <;> simp [level, debug, Fields.get?]
  have accepted : plainStart.accepts changes = true := by decide +kernel
  have acceptedLater : (plainStart.update host changes).1.accepts later = true := by
    decide +kernel
  obtain ⟨once, same⟩ := (update_composes valid plain host).2.2.2.1 later both plainLater
    (by decide) joined accepted acceptedLater
  obtain ⟨stays, unchanged⟩ :=
    (update_composes valid plainEvery host).2.2.2.2 fun setting value given => by
      cases setting <;> exact (Option.some.inj given).symm
  exact ⟨valid, plain, plainEvery, accepted, acceptedLater, once, same host host, stays, unchanged⟩

end Manager

end Settings

end ReviewContext
