import ReviewContext.Text.Quoted
import ReviewContext.Text.Writable

/-! Scopes: the named stretches of source around a change. Lines count from one and both ends
belong. -/
namespace ReviewContext

inductive ScopeKind
  | definition
  | block
deriving DecidableEq, Repr

inductive ScopeError
  | notPositive
  | reversed
  | unknownKind (written : String)
deriving DecidableEq, Repr

def ScopeError.message : ScopeError → String
  | .notPositive => "Line numbers must be positive"
  | .reversed => "start_line cannot be greater than end_line"
  | .unknownKind written => written ++ " is not a valid ScopeKind"

def ScopeKind.name : ScopeKind → String
  | .definition => "definition"
  | .block => "block"

def ScopeKind.ofName : String → Except ScopeError ScopeKind
  | "definition" => .ok .definition
  | "block" => .ok .block
  | name => .error (.unknownKind (Text.quoted name))

structure Scope where
  kind : ScopeKind
  nodeType : String
  first : Nat
  last : Nat
  text : String
  name : Option String
  first_pos : 0 < first
  first_le_last : first ≤ last
deriving DecidableEq, Repr

def spanKey (first last : Int) : String := toString first ++ " -> " ++ toString last

namespace Scope

/-- A scope from its first to its last line, if these are lines of a file in order. -/
def ofLines (kind : ScopeKind) (nodeType : String) (first last : Int) (text : String)
    (name : Option String) : Except ScopeError Scope :=
  if hp : first ≤ 0 ∨ last ≤ 0 then .error .notPositive
  else if hr : last < first then .error .reversed
  else .ok ⟨kind, nodeType, first.toNat, last.toNat, text, name, by omega, by omega⟩

def key (scope : Scope) : String := spanKey scope.first scope.last

def isWritable (scope : Scope) : Bool := Text.isWritable scope.first && Text.isWritable scope.last

def lineCount (scope : Scope) : Nat := scope.last - scope.first + 1

def sameSpan (a b : Scope) : Bool := a.first == b.first && a.last == b.last

def contains (outer inner : Scope) : Bool := outer.first ≤ inner.first && inner.last ≤ outer.last

def linesOf (scope : Scope) (file : List String) : List String :=
  (file.drop (scope.first - 1)).take (scope.last - (scope.first - 1))

theorem contains_refl (scope : Scope) : scope.contains scope = true := by simp [contains]

theorem contains_trans {a b c : Scope} (hab : a.contains b = true) (hbc : b.contains c = true) :
    a.contains c = true := by
  simp only [contains, Bool.and_eq_true, decide_eq_true_eq] at *
  omega

theorem sameSpan_iff {a b : Scope} :
    a.sameSpan b = true ↔ a.contains b = true ∧ b.contains a = true := by
  simp only [sameSpan, contains, Bool.and_eq_true, beq_iff_eq, decide_eq_true_eq]
  omega

end Scope

end ReviewContext
