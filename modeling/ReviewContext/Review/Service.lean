import ReviewContext.Review.Batch
import ReviewContext.Review.Options
import ReviewContext.Settings.Session
import ReviewContext.Syntax.Validity

/-! The service: what can be asked for under some settings. -/
namespace ReviewContext

open Settings (Config SettingsError)
open Syntax (Language Toolchain GrammarCache Validity Source)

inductive ServiceError
  | settings (error : SettingsError)
  | option (error : OptionError)
deriving DecidableEq, Repr

def ServiceError.message : ServiceError → String
  | .settings error => error.message
  | .option error => error.message

def Selector.ofConfig (config : Config) : Except OptionError Selector :=
  ofValues config.context.searchMargin config.context.linesAbove config.context.linesBelow
    config.parsers.languages config.context.charsPerToken .memo

inductive CheckError
  | kind (error : KindError)
  | unwritable
deriving DecidableEq, Repr

def CheckError.message : CheckError → String
  | .kind error => error.message
  | .unwritable => Text.unwritableMessage

structure Service where
  config : Config
  selector : Selector

namespace Service

def start (config : Config) : Except ServiceError Service := do
  config.validate.mapError .settings
  return ⟨config, ← (Selector.ofConfig config).mapError .option⟩

def runBatch {G : Type} (service : Service) (reader : RequestReader) (tools : Toolchain G)
    (items : List Submission) (cache : GrammarCache G) : Option BatchResult × GrammarCache G :=
  ReviewContext.runBatch service.selector service.config.context.maxWorkers reader tools items cache

/-- Whether the text of a file is valid code; a file in no known language cannot be told to be
wrong. -/
def checkValidity {G : Type} (service : Service) (tools : Toolchain G) (filename text : String)
    (cache : GrammarCache G) : Except CheckError Validity × GrammarCache G :=
  match Language.detect filename (some service.config.parsers.languages) with
  | .error error => (.error (.kind error), cache)
  | .ok none => (.ok ⟨true, "No parser available for " ++ filename⟩, cache)
  | .ok (some language) =>
    let (source, cache) := Source.parse tools language.profile text cache
    match Validity.ofSource language.profile source with
    | .ok validity => (.ok validity, cache)
    | .error (.unparsed failure) => (.ok ⟨false, failure.message⟩, cache)
    | .error .unwritable => (.error .unwritable, cache)

end Service

end ReviewContext
