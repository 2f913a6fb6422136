import ReviewContext.Proofs.Review.Selector
import ReviewContext.Proofs.Settings.Validation
import ReviewContext.Review.Service

/-! Services: settings that are valid make a service that shows something of every file. -/
namespace ReviewContext

open Syntax (Language Toolchain GrammarCache)
open Settings (Config)

namespace Settings

namespace Config

def Enables (config : Config) (filename : String) (language : Language) : Prop :=
  Language.ofFilename? filename = some language ∧
    ∃ values, config.parsers.languages.listed = .ok values ∧
    ∃ value ∈ values, value.text? = some language.name

end Config

end Settings

theorem exists_extent {value : Value} (h : value.belowZero = .ok false) :
    ∃ extent, Extent.ofValue value = .ok (some extent) := by
  unfold Extent.ofValue
  rw [h]
  cases value <;> exact ⟨_, rfl⟩

theorem exists_margin {above below : Value} (ha : above.belowZero = .ok false)
    (hb : below.belowZero = .ok false) : ∃ margin, Margin.ofValues above below = .ok margin := by
  obtain ⟨first, hf⟩ := exists_extent ha
  obtain ⟨second, hs⟩ := exists_extent hb
  exact ⟨⟨first, second⟩, by rw [Margin.ofValues, hf, hs]; rfl⟩

theorem exists_estimateTokens (selector : Selector)
    (h : selector.charsPerToken.notAboveZero = .ok false) (text : String) :
    ∃ tokens, selector.estimateTokens text = .ok tokens := by
  unfold Selector.estimateTokens
  cases size : selector.charsPerToken <;> rw [size] at h <;> first | contradiction | exact ⟨_, rfl⟩

theorem exists_detect (filename : String) {values : List Value}
    (keys : Value.allKeys values = .ok ()) :
    ∃ found, Language.detect filename (some (.list values)) = .ok found ∧
      ∀ language, found = some language ↔ Language.ofFilename? filename = some language ∧
        ∃ value ∈ values, value.text? = some language.name := by
  unfold Language.detect
  cases known : Language.ofFilename? filename with
  | none => exact ⟨none, rfl, fun language => by simp⟩
  | some own =>
    have named : (values.any fun value => value.text? == some own.name) = true ↔
        ∃ value ∈ values, value.text? = some own.name := by
      simp only [List.any_eq_true, beq_iff_eq]
    refine ⟨if values.any fun value => value.text? == some own.name then some own else none, ?_, ?_⟩
    · change (Value.allKeys values >>= _) = _
      rw [keys]
      rfl
    · intro language
      rw [Option.some.injEq]
      split
      next listed =>
        rw [Option.some.injEq]
        exact ⟨fun same => ⟨same, same ▸ named.mp listed⟩, And.left⟩
      next absent =>
        refine ⟨nofun, ?_⟩
        rintro ⟨rfl, listed⟩
        exact absurd (named.mpr listed) absent

theorem exists_start {config : Config} (valid : config.validate = .ok ()) {languages : List Value}
    (sound : config.Sound languages) :
    ∃ selector, Service.start config = .ok ⟨config, selector⟩ ∧ selector.enabled = some languages ∧
      selector.charsPerToken = config.context.charsPerToken := by
  obtain ⟨margin, sides⟩ := exists_margin sound.above sound.below
  have made : Selector.ofConfig config = .ok
      ⟨config.context.searchMargin, margin, some languages, config.context.charsPerToken,
        .memo⟩ := by
    have listed := sound.listed
    unfold Selector.ofConfig Selector.ofValues
    split
    next null =>
      rw [null] at listed
      contradiction
    next =>
      rw [listed, sides]
      rfl
  refine ⟨⟨config.context.searchMargin, margin, some languages, config.context.charsPerToken,
    .memo⟩, ?_, rfl, rfl⟩
  rw [Service.start, valid, made]
  rfl

/-- Under valid settings something is shown of every file, whatever grammars and parsers do. What is
shown goes with the strategy that is told: the patch alone, all of its hunks, or scopes and the
hunks without one. A file in a language of the settings is shown by scopes unless it is told why
not, and any other file by its hunks. -/
theorem Service.exists_fileContext {config : Config} (valid : config.validate = .ok ()) :
    ∃ service, Service.start config = .ok service ∧
      ∀ {G : Type} (tools : Toolchain G) (cache : GrammarCache G) (file : ChangedFile),
        ∃ context, (service.selector.fileContext tools file cache).1 = .ok context ∧
          Text.startsWith context.content (FileContext.heading file.filename) = true ∧
          (context.strategy = .raw → ShowsPatch file context) ∧
          (context.strategy = .expanded →
            ∃ hunks blocks, ShowsHunks service.selector file context hunks blocks) ∧
          (context.strategy = .scope → ∃ language, config.Enables file.filename language ∧
            service.selector.ShownByScopes tools cache language file context) ∧
          ((∃ language, config.Enables file.filename language) →
            (context.strategy = .scope ↔ context.error = none)) ∧
          ((¬ ∃ language, config.Enables file.filename language) →
            context.strategy ≠ .scope ∧ (context.strategy = .expanded ↔ context.error = none)) := by
  obtain ⟨languages, sound⟩ := Settings.Config.sound_of_validate valid
  obtain ⟨selector, started, enabled, chars⟩ := exists_start valid sound
  have counts := exists_estimateTokens selector (by rw [chars]; exact sound.charsPerToken)
  refine ⟨⟨config, selector⟩, started, fun tools cache file => ?_⟩
  obtain ⟨found, detected, known⟩ := exists_detect file.filename sound.keys
  have enables (language : Language) : config.Enables file.filename language ↔
      found = some language := by
    rw [known, Settings.Config.Enables, sound.listed]
    simp
  obtain ⟨context, made, shown⟩ := Selector.exists_shown counts tools file cache
    (by rw [enabled]; exact detected)
  simp only [enables]
  refine ⟨context, made, shown.startsWith_heading, shown.of_raw, shown.of_expanded,
    shown.of_scope, ?_, ?_⟩
  · rintro ⟨language, rfl⟩
    exact shown.scope_iff
  · intro unknown
    cases found with
    | none => exact shown.expanded_iff
    | some language => exact absurd ⟨language, rfl⟩ unknown

theorem Service.exists_fileContext_default :
    let tools : Toolchain Unit := ⟨fun _ => .error "no grammar", fun _ _ => .ok none⟩
    let file : ChangedFile := { filename := "a.py", patch := .text "@@ -1 +1 @@\n-a\n+b" }
    ({} : Config).validate = .ok () ∧ ∃ service context, Service.start {} = .ok service ∧
      (service.selector.fileContext tools file .empty).1 = .ok context ∧
      (context.strategy = .scope ↔ context.error = none) := by
  -- Under the default settings, where no grammar can be loaded.
  intro tools file
  have valid : ({} : Config).validate = .ok () := by decide
  have python : ({} : Config).Enables file.filename .python := by
    refine ⟨?_, Settings.defaultLanguages.map .text, ?_, .text "python", ?_, ?_⟩
    · decide +kernel
    · rfl
    · exact List.mem_cons_self
    · rfl
  obtain ⟨service, started, shown⟩ := Service.exists_fileContext valid
  obtain ⟨context, made, -, -, -, -, known, -⟩ := shown tools .empty file
  exact ⟨valid, service, context, started, made, known ⟨.python, python⟩⟩

end ReviewContext
