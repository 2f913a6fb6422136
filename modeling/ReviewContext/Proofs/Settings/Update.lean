import ReviewContext.Settings.Manager
import ReviewContext.Proofs.Outcome

/-! Updates of settings: what comes of one is valid, and of the settings in use it can change the
debug value only. -/
namespace ReviewContext

theorem Fields.get?_set_of_ne {name other : String} (different : other ≠ name) (fields : Fields)
    (value : Value) :
    (fields.set name value).get? other = fields.get? other := by
  have absent : (other == name) = false := by simpa using different
  have kept : (fields.map fun field =>
      if field.1 == name then (name, value) else field).lookup other = fields.lookup other := by
    induction fields with
    | nil => rfl
    | cons field rest ih =>
      obtain ⟨key, own⟩ := field
      by_cases same : key = name
      · rw [List.map_cons, if_pos (beq_iff_eq.mpr same), List.lookup_cons, List.lookup_cons, absent,
          same, absent, ih]
      · rw [List.map_cons, if_neg (mt beq_iff_eq.mp same), List.lookup_cons, List.lookup_cons, ih]
  unfold set get?
  split_ifs
  · exact kept
  · simp [List.lookup_append, List.lookup_cons, absent]

theorem Fields.get?_set_self (fields : Fields) (name : String) (value : Value) :
    (fields.set name value).get? name = some value := by
  unfold set get?
  split_ifs with known
  · induction fields with
    | nil => contradiction
    | cons field rest ih =>
      obtain ⟨own, old⟩ := field
      by_cases same : own = name
      · simp [same]
      · have apart : (name == own) = false := by simpa using Ne.symm same
        have later : (rest.any fun field => field.1 == name) = true := by simpa [same] using known
        rw [List.map_cons, if_neg (by simpa using same), List.lookup_cons, apart]
        exact ih later
  · have absent : fields.lookup name = none := by
      rw [List.lookup_eq_none_iff]
      intro field here
      rw [bne_iff_ne]
      rintro rfl
      exact known (List.any_eq_true.mpr ⟨field, here, beq_self_eq_true _⟩)
    simp [List.lookup_append, absent]

namespace Settings

def isDebugField (name : String) : Bool := (splitName? name).any fun parts => parts.1 == "debug"

def isMapping : Value → Bool
  | .map _ => true
  | _ => false

/-- Whether an update has values for fields of a debug value, before it may put another in the place
of that. -/
def Update.namesDebugField (update : Update) : Bool :=
  (update.takeWhile fun entry => entry.1 != "debug").any fun entry => isDebugField entry.1

def Config.writesDebug (config : Config) (update : Update) : Bool :=
  isMapping config.debug && update.namesDebugField

variable {config next : Config} {update : Update} {debug : Value} {fields : Fields}

theorem applyUpdate_of_notOwn (debug : Value) (fields : Fields) (update : Update) :
    (applyUpdate false debug fields update).1 = debug := by
  induction update generalizing fields with
  | nil => rfl
  | cons entry rest ih =>
    unfold applyUpdate
    split
    · rfl
    · split
      · exact ih _
      · exact ih _

theorem applyEntry_eq_ok {entry : String × Value} {after : Fields}
    (h : applyEntry fields entry = .ok after) :
    (splitName? entry.1 = none ∧ after = fields.set entry.1 entry.2) ∨
      ∃ name field entries, splitName? entry.1 = some (name, field) ∧
        fields.get? name = some (.map entries) ∧
        after = fields.set name (.map (Value.setEntry entries (.text field) entry.2)) := by
  unfold applyEntry at h
  split at h
  next whole => exact .inl ⟨whole, (Except.ok.inj h).symm⟩
  next name field parts =>
    split at h
    next entries here => exact .inr ⟨name, field, entries, parts, here, (Except.ok.inj h).symm⟩
    next => contradiction

theorem namesDebugField_cons {entry : String × Value} (other : entry.1 ≠ "debug") (rest : Update) :
    Update.namesDebugField (entry :: rest) =
      (isDebugField entry.1 || Update.namesDebugField rest) := by
  unfold Update.namesDebugField
  rw [List.takeWhile_cons_of_pos (by simpa using other), List.any_cons]

theorem applyUpdate_of_quiet (own : Bool) (here : own = true → fields.get? "debug" = some debug)
    (quiet : (isMapping debug && update.namesDebugField) = false) :
    (applyUpdate own debug fields update).1 = debug := by
  induction update generalizing own fields with
  | nil => rfl
  | cons entry rest ih =>
    cases own with
    | false => exact applyUpdate_of_notOwn ..
    | true =>
      unfold applyUpdate
      split
      · rfl
      next after applied =>
        rcases applyEntry_eq_ok applied with ⟨whole, rfl⟩ |
          ⟨name, field, entries, parts, there, rfl⟩
        · rw [whole]
          by_cases replaced : entry.1 = "debug"
          · simp only [replaced, bne_self_eq_false, Bool.and_false]
            exact applyUpdate_of_notOwn ..
          · rw [namesDebugField_cons replaced, isDebugField, whole, Option.any_none,
              Bool.false_or] at quiet
            exact ih _ (fun _ => (Fields.get?_set_of_ne (Ne.symm replaced) ..).trans (here rfl))
              quiet
        · have dotted : entry.1 ≠ "debug" := by
            intro same
            rw [same] at parts
            contradiction
          rw [namesDebugField_cons dotted, isDebugField, parts, Option.any_some] at quiet
          -- A field of the debug value in use is only set if that is a mapping, which `quiet` rules
          -- out.
          have other : name ≠ "debug" := by
            rintro rfl
            rw [here rfl, Option.some.injEq] at there
            simp [there, isMapping] at quiet
          have apart : (name == "debug") = false := by simpa using other
          rw [apart, Bool.false_or] at quiet
          rw [parts]
          split
          next same => exact absurd (congrArg Prod.fst (Option.some.inj same)) other
          next =>
            exact ih _ (fun _ => (Fields.get?_set_of_ne (Ne.symm other) ..).trans (here rfl)) quiet

theorem updated_fst (config : Config) (update : Update) :
    ∃ debug, (config.updated update).1 = { config with debug } := by
  unfold Config.updated
  split
  · exact ⟨config.debug, rfl⟩
  · split
    · exact ⟨config.debug, rfl⟩
    · exact ⟨_, rfl⟩

theorem get?_debug_of_toFields (h : config.toFields = .ok fields) :
    fields.get? "debug" = some config.debug := by
  unfold Config.toFields at h
  obtain ⟨languages, -, rest⟩ := Outcome.bind_eq_ok_iff.mp h
  cases rest
  rfl

theorem updated_fst_of_not_writesDebug (quiet : config.writesDebug update = false) :
    (config.updated update).1 = config := by
  unfold Config.updated
  split
  · rfl
  · split
    · rfl
    next fields given =>
      have same : (applyUpdate true config.debug fields update).1 = config.debug :=
        applyUpdate_of_quiet true (fun _ => get?_debug_of_toFields given) quiet
      change { config with debug := (applyUpdate true config.debug fields update).1 } = config
      rw [same]

example :
    (({ debug := .map [(.text "a", .int 1)] } : Config).updated
        [("debug.a", .int 2), ("x.y", .null)]).1.debug =
      .map [(.text "a", .int 2)] := rfl

theorem validate_of_updated (h : (config.updated update).2 = .ok next) :
    next.validate = .ok () := by
  unfold Config.updated at h
  split at h
  · contradiction
  · split at h
    · contradiction
    · obtain ⟨fields, -, valid⟩ := Outcome.bind_eq_ok_iff.mp h
      unfold Config.ofValidFields at valid
      simp only [Outcome.bind_eq_ok_iff] at valid
      obtain ⟨config, -, ⟨⟩, holds, same⟩ := valid
      cases same
      exact holds

end Settings

end ReviewContext
