import ReviewContext.Settings.Config
import ReviewContext.Settings.Error
import ReviewContext.Text.LetterCase

/-! Validation: the settings are looked at in their order, and a value of a wrong kind ends it. -/
namespace ReviewContext.Settings

inductive LogLevel
  | debug
  | info
  | warning
  | error
  | critical
deriving DecidableEq, Repr

def LogLevel.number : LogLevel → Nat
  | debug => 10
  | info => 20
  | warning => 30
  | error => 40
  | critical => 50

def LogLevel.ofName? (name : String) : Option LogLevel :=
  match Text.upper name with
  | "DEBUG" => some debug
  | "INFO" => some info
  | "WARNING" => some warning
  | "ERROR" => some error
  | "CRITICAL" => some critical
  | _ => none

def isKnownLanguage : Value → Bool
  | .text name => (Syntax.Language.ofName? name).isSome
  | _ => false

/-- The listed values that name no language; only what can be a key can be looked up. -/
def unknownLanguages (items : List Value) : Except KindError (List Value) := do
  Value.allKeys items
  return items.filter fun item => !isKnownLanguage item

def textsFrom (position : Nat) : List Value → Except KindError (List String)
  | [] => .ok []
  | value :: rest =>
    match value.text? with
    | some name => (textsFrom (position + 1) rest).map (name :: ·)
    | none => .error (.notJoinable position value.typeName)

def note (holds : Bool) (problem : Problem) : List Problem := if holds then [problem] else []

namespace Config

def languageProblems (config : Config) : Except KindError (List Problem) := do
  let unknown ← unknownLanguages (← config.parsers.languages.listed)
  if unknown.isEmpty then return []
  else return [.unknownLanguages (← textsFrom 0 unknown)]

/-- Bytes have capital letters as texts have, but none of them are the name of a level. -/
def levelProblems (config : Config) : Except KindError (List Problem) :=
  match config.logging.level with
  | .bytes value => .ok [.logLevel (Value.bytes value).toText]
  | level =>
    (level.asText "upper").map fun name => note (LogLevel.ofName? name).isNone (.logLevel name)

def problems (config : Config) : Except KindError (List Problem) := do
  let search ← config.context.searchMargin.belowZero
  let margins ← config.context.linesAbove.eitherBelowZero config.context.linesBelow
  let workers ← config.context.maxWorkers.notAboveZero
  let chars ← config.context.charsPerToken.notAboveZero
  let languages ← languageProblems config
  let level ← levelProblems config
  return note search .searchMargin ++ note margins .lineMargins ++ note workers .maxWorkers
    ++ note chars .charsPerToken ++ languages ++ level

def validate (config : Config) : Except SettingsError Unit := do
  let problems ← config.problems.mapError .kind
  if problems.isEmpty then return () else throw (.invalid problems)

def toFields (config : Config) : Except SettingsError Fields := do
  let languages ← config.parsers.languages.listed.mapError .kind
  return [("context", .ofFields config.context.toFields),
    ("parsers", .ofFields [("enabled_languages", .list languages)]),
    ("logging", .ofFields config.logging.toFields), ("debug", config.debug)]

end Config

end ReviewContext.Settings
