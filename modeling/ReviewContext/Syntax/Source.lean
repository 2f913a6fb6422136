import ReviewContext.Kind
import ReviewContext.Syntax.GrammarCache
import ReviewContext.Syntax.Profile

/-! Sources: a text with what its parser made of it. -/
namespace ReviewContext.Syntax

/-- What loads grammars and parses texts. A parser may refuse a text with a reason, or give no
tree. -/
structure Toolchain (G : Type) where
  load : Profile → Except String (Option G)
  parse : Option G → String → Except String (Option Tree)

structure Source where
  text : String
  tree : Except ParseFailure Tree

namespace Source

variable {G : Type}

def treeOf (profile : Profile) : Except String (Option Tree) → Except ParseFailure Tree
  | .error reason =>
    .error ⟨profile.name, profile.displayName ++ " parser rejected input: " ++ reason⟩
  | .ok none => .error ⟨profile.name, profile.displayName ++ " parser returned no tree"⟩
  | .ok (some tree) => .ok tree

def parse (tools : Toolchain G) (profile : Profile) (text : String) (cache : GrammarCache G) :
    Source × GrammarCache G :=
  match cache.get profile.name profile.displayName (tools.load profile) with
  | (.error failure, cache) => (⟨text, .error failure⟩, cache)
  | (.ok grammar, cache) => (⟨text, treeOf profile (tools.parse grammar text)⟩, cache)

def parseBare (tools : Toolchain G) (profile : Profile) (text : String) : Source :=
  ⟨text, treeOf profile (tools.parse none text)⟩

end Source

/-- Where grammars are asked for: the memo, or a value given in its place. A mapping has none, so
that parsers do without one; nothing else can be asked. -/
inductive GrammarStore
  | memo
  | bare
  | unusable (error : KindError)
deriving DecidableEq, Repr

def GrammarStore.ofValue (value : Value) : GrammarStore :=
  if !value.isTruthy then .memo
  else
    match value with
    | .map _ => .bare
    | value => .unusable (.noMember value.typeName "get")

end ReviewContext.Syntax
