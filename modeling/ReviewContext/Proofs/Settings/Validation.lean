import ReviewContext.Settings.Validation
import ReviewContext.Proofs.Outcome

/-! Settings that are valid: what has been looked at before they are. -/
namespace ReviewContext

theorem Value.eitherBelowZero_eq_false {a b : Value} (h : a.eitherBelowZero b = .ok false) :
    a.belowZero = .ok false ∧ b.belowZero = .ok false := by
  obtain ⟨first, ha, rest⟩ := Outcome.bind_eq_ok_iff.mp h
  cases first with
  | true => simp [pure, Except.pure] at rest
  | false => exact ⟨ha, rest⟩

namespace Settings

@[simp] theorem note_eq_nil_iff {holds : Bool} {problem : Problem} :
    note holds problem = [] ↔ holds = false := by
  cases holds <;> simp [note]

namespace Config

/-- Settings that pass each of the checks that the choice of what is shown depends on. -/
structure Sound (config : Config) (languages : List Value) : Prop where
  above : config.context.linesAbove.belowZero = .ok false
  below : config.context.linesBelow.belowZero = .ok false
  workers : config.context.maxWorkers.notAboveZero = .ok false
  charsPerToken : config.context.charsPerToken.notAboveZero = .ok false
  listed : config.parsers.languages.listed = .ok languages
  keys : Value.allKeys languages = .ok ()

variable {config : Config}

theorem problems_of_validate (valid : config.validate = .ok ()) : config.problems = .ok [] := by
  obtain ⟨problems, listed, none⟩ := Outcome.bind_eq_ok_iff.mp valid
  have empty : problems = [] := by
    cases problems with
    | nil => rfl
    | cons problem rest => contradiction
  rwa [Outcome.mapError_eq_ok_iff, empty] at listed

theorem sound_of_validate (valid : config.validate = .ok ()) :
    ∃ languages, config.Sound languages := by
  have listed := problems_of_validate valid
  obtain ⟨search, -, listed⟩ := Outcome.bind_eq_ok_iff.mp listed
  obtain ⟨margins, outer, listed⟩ := Outcome.bind_eq_ok_iff.mp listed
  obtain ⟨workers, some_workers, listed⟩ := Outcome.bind_eq_ok_iff.mp listed
  obtain ⟨chars, counted, listed⟩ := Outcome.bind_eq_ok_iff.mp listed
  obtain ⟨named, known, listed⟩ := Outcome.bind_eq_ok_iff.mp listed
  obtain ⟨level, -, listed⟩ := Outcome.bind_eq_ok_iff.mp listed
  have all := Except.ok.inj listed
  simp only [List.append_eq_nil_iff, note_eq_nil_iff] at all
  obtain ⟨⟨⟨⟨⟨-, hm⟩, hw⟩, hc⟩, -⟩, -⟩ := all
  obtain ⟨languages, walk, known⟩ := Outcome.bind_eq_ok_iff.mp known
  obtain ⟨unknown, looked, -⟩ := Outcome.bind_eq_ok_iff.mp known
  obtain ⟨_, keys, -⟩ := Outcome.bind_eq_ok_iff.mp looked
  rw [hm] at outer
  rw [hw] at some_workers
  rw [hc] at counted
  obtain ⟨above, below⟩ := Value.eitherBelowZero_eq_false outer
  exact ⟨languages, above, below, some_workers, counted, walk, keys⟩

theorem exists_level_of_validate (valid : config.validate = .ok ()) :
    ∃ name level, config.logging.level.text? = some name ∧ LogLevel.ofName? name = some level := by
  have listed := problems_of_validate valid
  obtain ⟨search, -, listed⟩ := Outcome.bind_eq_ok_iff.mp listed
  obtain ⟨margins, -, listed⟩ := Outcome.bind_eq_ok_iff.mp listed
  obtain ⟨workers, -, listed⟩ := Outcome.bind_eq_ok_iff.mp listed
  obtain ⟨chars, -, listed⟩ := Outcome.bind_eq_ok_iff.mp listed
  obtain ⟨named, -, listed⟩ := Outcome.bind_eq_ok_iff.mp listed
  obtain ⟨wrong, looked, listed⟩ := Outcome.bind_eq_ok_iff.mp listed
  have none_wrong : wrong = [] := (List.append_eq_nil_iff.mp (Except.ok.inj listed)).2
  subst none_wrong
  unfold levelProblems at looked
  split at looked
  next => simp at looked
  next =>
    obtain ⟨name, written, known⟩ := Outcome.map_eq_ok_iff.mp looked
    rw [note_eq_nil_iff, Option.isNone_eq_false_iff, Option.isSome_iff_exists] at known
    obtain ⟨level, known⟩ := known
    unfold Value.asText at written
    split at written
    next found => exact ⟨name, level, Except.ok.inj written ▸ found, known⟩
    next => contradiction

end Config

end Settings

end ReviewContext
