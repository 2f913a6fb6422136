import ReviewContext.Fields
import ReviewContext.Syntax.Language

/-! Settings. Each has a value of any kind until the settings are validated. -/
namespace ReviewContext.Settings

structure ContextSettings where
  searchMargin : Value := .int 50
  linesAbove : Value := .int 5
  linesBelow : Value := .int 5
  maxWorkers : Value := .int 4
  charsPerToken : Value := .int 4

def defaultLanguages : List String := Syntax.Language.all.map Syntax.Language.name

structure ParserSettings where
  languages : Value := .list (defaultLanguages.map .text)

def defaultFormat : String := "%(asctime)s - %(name)s - %(levelname)s - %(message)s"

structure LogSettings where
  level : Value := .text "INFO"
  format : Value := .text defaultFormat
  filePath : Value := .null
  maxFileSize : Value := .int 10485760
  backupCount : Value := .int 5

structure Config where
  context : ContextSettings := {}
  parsers : ParserSettings := {}
  logging : LogSettings := {}
  debug : Value := .bool false

namespace ContextSettings

def names : List String :=
  ["scope_search_margin", "lines_above", "lines_below", "max_workers", "chars_per_token"]

def ofFields (fields : Fields) : Except FieldError ContextSettings := do
  fields.only "ContextConfig" names
  let d : ContextSettings := {}
  return {
    searchMargin := fields.getD "scope_search_margin" d.searchMargin
    linesAbove := fields.getD "lines_above" d.linesAbove
    linesBelow := fields.getD "lines_below" d.linesBelow
    maxWorkers := fields.getD "max_workers" d.maxWorkers
    charsPerToken := fields.getD "chars_per_token" d.charsPerToken }

def ofValue (value : Value) : Except FieldError ContextSettings :=
  value.fields "ai_pr_context.config.ContextConfig" >>= ofFields

def toFields (settings : ContextSettings) : Fields :=
  [("scope_search_margin", settings.searchMargin), ("lines_above", settings.linesAbove),
    ("lines_below", settings.linesBelow), ("max_workers", settings.maxWorkers),
    ("chars_per_token", settings.charsPerToken)]

theorem ofFields_toFields (settings : ContextSettings) :
    ofFields settings.toFields = .ok settings := rfl

end ContextSettings

namespace ParserSettings

def ofFields (fields : Fields) : Except FieldError ParserSettings := do
  fields.only "ParserConfig" ["enabled_languages"]
  return { languages := fields.getD "enabled_languages" ({} : ParserSettings).languages }

def ofValue (value : Value) : Except FieldError ParserSettings :=
  value.fields "ai_pr_context.config.ParserConfig" >>= ofFields

end ParserSettings

namespace LogSettings

def names : List String := ["level", "format", "file_path", "max_file_size", "backup_count"]

def ofFields (fields : Fields) : Except FieldError LogSettings := do
  fields.only "LoggingConfig" names
  let d : LogSettings := {}
  return {
    level := fields.getD "level" d.level
    format := fields.getD "format" d.format
    filePath := fields.getD "file_path" d.filePath
    maxFileSize := fields.getD "max_file_size" d.maxFileSize
    backupCount := fields.getD "backup_count" d.backupCount }

def ofValue (value : Value) : Except FieldError LogSettings :=
  value.fields "ai_pr_context.config.LoggingConfig" >>= ofFields

def toFields (settings : LogSettings) : Fields :=
  [("level", settings.level), ("format", settings.format), ("file_path", settings.filePath),
    ("max_file_size", settings.maxFileSize), ("backup_count", settings.backupCount)]

theorem ofFields_toFields (settings : LogSettings) :
    ofFields settings.toFields = .ok settings := rfl

end LogSettings

namespace Config

/-- The settings that some sections and the debug switch give; a section left out has its
defaults. -/
def ofSections (context parsers logging : Value) (debug : Value) : Except FieldError Config := do
  let context ← ContextSettings.ofValue context
  let parsers ← ParserSettings.ofValue parsers
  let logging ← LogSettings.ofValue logging
  return { context, parsers, logging, debug }

def ofFields (fields : Fields) : Except FieldError Config :=
  ofSections (fields.getD "context" (.map [])) (fields.getD "parsers" (.map []))
    (fields.getD "logging" (.map [])) (fields.getD "debug" (.bool false))

end Config

end ReviewContext.Settings
