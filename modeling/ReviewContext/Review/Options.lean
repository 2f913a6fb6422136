import ReviewContext.Review.Selector

/-! Selectors and margins from values of any kind. -/
namespace ReviewContext

inductive OptionError
  | margin (error : MarginError)
  | kind (error : KindError)
  | fields (error : FieldError)
deriving DecidableEq, Repr

def OptionError.message : OptionError → String
  | .margin error => error.message
  | .kind error => error.message
  | .fields error => error.message

def Margin.ofFields (fields : Fields) : Except OptionError Margin := do
  (fields.only "FallbackExpander" ["lines_above", "lines_below"]).mapError .fields
  (ofValues (fields.getD "lines_above" (.int 5)) (fields.getD "lines_below" (.int 5))).mapError
    .margin

def Margin.ofValue (value : Value) : Except OptionError Margin := do
  ofFields (← (value.fields "ai_pr_context.context.expander.FallbackExpander").mapError .fields)

namespace Selector

def ofValues (searchMargin linesAbove linesBelow enabled charsPerToken : Value)
    (grammars : Syntax.GrammarStore) : Except OptionError Selector := do
  let enabled ← match enabled with
    | .null => pure none
    | value => (value.listed.map some).mapError .kind
  let margin ← (Margin.ofValues linesAbove linesBelow).mapError .margin
  return { searchMargin, margin, enabled, charsPerToken, grammars }

def names : List String :=
  ["search_margin", "lines_above", "lines_below", "enabled_languages", "chars_per_token",
    "grammar_cache"]

def ofFields (fields : Fields) : Except OptionError Selector := do
  (fields.only "StrategySelector" names).mapError .fields
  ofValues (fields.getD "search_margin" (.int 50)) (fields.getD "lines_above" (.int 5))
    (fields.getD "lines_below" (.int 5)) (fields.getD "enabled_languages" .null)
    (fields.getD "chars_per_token" (.int 4)) (.ofValue (fields.getD "grammar_cache" .null))

def ofValue (value : Value) : Except OptionError Selector := do
  ofFields (← (value.fields "ai_pr_context.context.strategy.StrategySelector").mapError .fields)

end Selector

end ReviewContext
