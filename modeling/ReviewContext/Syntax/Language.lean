import ReviewContext.Kind
import ReviewContext.Syntax.Profile
import ReviewContext.Text.LetterCase

/-! The languages with scope support and the file extensions that stand for them. -/
namespace ReviewContext.Syntax

inductive Language
  | python
  | javascript
  | typescript
  | tsx
deriving DecidableEq, Repr

namespace Language

def all : List Language := [python, javascript, typescript, tsx]

def name : Language → String
  | python => "python"
  | javascript => "javascript"
  | typescript => "typescript"
  | tsx => "tsx"

def ofName? (name : String) : Option Language := all.find? fun language => language.name == name

def pythonDefinitions : List String :=
  ["function_definition", "class_definition", "decorated_definition"]

def pythonBlocks : List String :=
  ["if_statement", "for_statement", "while_statement", "try_statement", "except_clause",
    "with_statement", "match_statement"]

def scriptDefinitions : List String :=
  ["function_declaration", "generator_function_declaration", "function_expression",
    "arrow_function", "method_definition", "class_declaration", "class"]

def typedDefinitions : List String :=
  scriptDefinitions ++ ["interface_declaration", "abstract_class_declaration", "enum_declaration"]

def scriptBlocks : List String :=
  ["if_statement", "for_statement", "for_in_statement", "while_statement", "do_statement",
    "try_statement", "catch_clause", "switch_statement"]

def profile : Language → Profile
  | python => ⟨"python", "Python", pythonDefinitions, pythonBlocks, ["decorated_definition"]⟩
  | javascript => ⟨"javascript", "JavaScript", scriptDefinitions, scriptBlocks, []⟩
  | typescript => ⟨"typescript", "TypeScript", typedDefinitions, scriptBlocks, []⟩
  | tsx => ⟨"tsx", "TSX", typedDefinitions, scriptBlocks, []⟩

def extensions : Language → List String
  | python => [".py", ".pyi"]
  | javascript => [".js", ".jsx", ".mjs", ".cjs"]
  | typescript => [".ts", ".mts", ".cts"]
  | tsx => [".tsx"]

def ofExtension? (extension : String) : Option Language :=
  all.find? fun language => language.extensions.contains extension

def extension? (filename : String) : Option String :=
  let base := (filename.toList.splitOn '/').getLastD []
  if base.contains '.' then
    some ("." ++ Text.lower (String.ofList ((base.splitOn '.').getLastD [])))
  else none

def ofFilename? (filename : String) : Option Language := do
  ofExtension? (← extension? filename)

/-- The language of a file, if a walk over those enabled meets it; with none given every language is
enabled. Nothing is looked at for a file in no known language. -/
def detect (filename : String) (enabled : Option Value) : Except KindError (Option Language) :=
  match ofFilename? filename, enabled with
  | some language, some enabled => do
    let values ← enabled.listed
    Value.allKeys values
    return if values.any fun value => value.text? == some language.name then some language else none
  | found, _ => .ok found

theorem ofName?_name (language : Language) : ofName? language.name = some language := by
  cases language <;> decide

end Language

end ReviewContext.Syntax
