import ReviewContext.Fields
import ReviewContext.Kind

/-! File contexts: what a reviewer is shown of one file, and how it came about. -/
namespace ReviewContext

inductive Strategy
  | scope
  | expanded
  | raw
deriving DecidableEq, Repr

inductive ContextError
  | noStrategy
  | unknownStrategy (written : String)
  | negativeBlocks
  | fields (error : FieldError)
  | kind (error : KindError)
deriving DecidableEq, Repr

def ContextError.message : ContextError → String
  | .noStrategy => FieldError.quotedName "strategy"
  | .unknownStrategy written => written ++ " is not a valid ContextStrategy"
  | .negativeBlocks => "Block counts must be non-negative"
  | .fields error => error.message
  | .kind error => error.message

namespace Strategy

def all : List Strategy := [scope, expanded, raw]

def name : Strategy → String
  | scope => "scope"
  | expanded => "expanded"
  | raw => "raw"

def ofValue (value : Value) : Except ContextError Strategy :=
  match all.find? fun strategy => value.text? == some strategy.name with
  | some strategy => .ok strategy
  | none => .error (.unknownStrategy value.quoted)

end Strategy

/-- A number of tokens; there is none to be told if a token has an undefined length. -/
inductive TokenCount
  | known (tokens : Int)
  | undefined
deriving DecidableEq, Repr

namespace TokenCount

def add : TokenCount → TokenCount → TokenCount
  | known m, known n => known (m + n)
  | _, _ => undefined

instance : Add TokenCount := ⟨add⟩

instance : Zero TokenCount := ⟨known 0⟩

end TokenCount

structure FileContext where
  filename : String
  strategy : Strategy
  content : String
  scopeBlocks : Nat := 0
  fallbackBlocks : Nat := 0
  estimatedTokens : TokenCount := 0
  error : Option String := none
deriving DecidableEq, Repr

namespace FileContext

def names : List String :=
  ["filename", "strategy", "content", "scope_blocks", "fallback_blocks", "estimated_tokens",
    "error"]

def defaults : Fields :=
  [("scope_blocks", .int 0), ("fallback_blocks", .int 0), ("estimated_tokens", .int 0),
    ("error", .null)]

/-- All fields of the context that some fields describe. Most may be values of any kind. -/
def completed (fields : Fields) : Except ContextError Fields := do
  let strategy ← match fields.get? "strategy" with
    | some value => Strategy.ofValue value
    | none => throw .noStrategy
  (fields.only "FileContext" names).mapError .fields
  (fields.all "FileContext" ["filename", "content"]).mapError .fields
  let fields := (fields.foldl (fun all field => all.set field.1 field.2) defaults).set "strategy"
    (.text strategy.name)
  let blocks := fun name => fields.getD name .null
  if ← ((blocks "scope_blocks").eitherBelowZero (blocks "fallback_blocks")).mapError .kind then
    throw .negativeBlocks
  return fields

def heading (filename : String) : String := "## " ++ filename ++ "\n\n"

end FileContext

end ReviewContext
