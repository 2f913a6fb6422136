import ReviewContext.Kind
import ReviewContext.Scope.Basic
import ReviewContext.Scope.Window

/-! Scopes and rows as callers describe them, with values of any kind. What is not looked at is
shown as it was given. -/
namespace ReviewContext

inductive ScopeDescriptionError
  | scope (error : ScopeError)
  | kind (error : KindError)
deriving DecidableEq, Repr

def ScopeDescriptionError.message : ScopeDescriptionError → String
  | .scope error => error.message
  | .kind error => error.message

def ScopeKind.ofValue : Value → Except ScopeError ScopeKind
  | .text name => ofName name
  | value => .error (.unknownKind value.quoted)

def describedKey (first last : Value) : String := first.toText ++ " -> " ++ last.toText

structure DescribedScope where
  scope : Scope
  nodeType : Value
  first : Value
  last : Value
  text : Value
  name : Value

namespace DescribedScope

/-- A scope from its first to its last line. The second is not looked at if the first is no line. -/
def ofValues (kind : ScopeKind) (nodeType first last text name : Value) :
    Except ScopeDescriptionError DescribedScope := do
  if ← first.notAboveZero.mapError .kind then throw (.scope .notPositive)
  if ← last.notAboveZero.mapError .kind then throw (.scope .notPositive)
  if ← (first.exceeds last).mapError .kind then throw (.scope .reversed)
  let scope ← (Scope.ofLines kind nodeType.toText (first.ceiling?.getD 0)
    (last.ceiling?.getD 0) text.toText name.text?).mapError .scope
  return { scope, nodeType, first, last, text, name }

def key (described : DescribedScope) : String := describedKey described.first described.last

end DescribedScope

def inOrder (first last : Value) : Except LookupError Unit := do
  if ← (first.exceeds last).mapError .kind then throw (.reversedRows first.toText last.toText)

/-- Looks for the scope around rows that may be numbers of any kind; a node is compared with them
once the text is parsed. -/
def findBetween (find : Finder) (first last : Value) : Except LookupError (Option Scope) := do
  inOrder first last
  match first.floor?, last.ceiling? with
  | some first, some last => find ⟨first, last⟩
  | _, _ =>
    let _ ← find ⟨0, 0⟩
    throw (.kind (.notComparable "<=" "int" first.typeName))

end ReviewContext
