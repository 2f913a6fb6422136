import ReviewContext.Yaml.Fault

/-! Tokens of a YAML text. The layout of a block shows in tokens of its own. -/
namespace ReviewContext.Yaml

structure Tag where
  handle : Option String
  suffix : String
deriving DecidableEq, Repr

inductive Directive
  | version (major : Nat)
  | tag (handle lead : String)
  | other
deriving DecidableEq, Repr

inductive Token
  | directive (directive : Directive)
  | documentStart
  | documentEnd
  | blockSequence
  | blockMapping
  | blockEnd
  | sequenceOpen
  | sequenceClose
  | mappingOpen
  | mappingClose
  | entry
  | comma
  | key
  | value
  | alias (name : String)
  | anchor (name : String)
  | tag (tag : Tag)
  | scalar (plain : Bool) (text : Text.Pieces)
deriving DecidableEq, Repr

/-- The tokens of a text as far as it can be read, with the fault that cuts them short. -/
structure Tokens where
  read : List Token
  cut : Option Fault := none
deriving DecidableEq, Repr

end ReviewContext.Yaml
