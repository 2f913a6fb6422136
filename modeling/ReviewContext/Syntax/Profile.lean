import ReviewContext.Syntax.Tree

/-! Language profiles: which node types of a grammar open a scope. -/
namespace ReviewContext.Syntax

structure Profile where
  name : String
  displayName : String
  definitions : List String
  blocks : List String
  /-- Wrappers attach leading lines, such as decorators, to the definition in them. -/
  wrappers : List String := []
deriving DecidableEq, Repr

def Profile.isDefinition (profile : Profile) (tree : Tree) : Bool :=
  profile.definitions.contains tree.type

/-- A type that is both is a definition. -/
def Profile.isBlock (profile : Profile) (tree : Tree) : Bool :=
  !profile.isDefinition tree && profile.blocks.contains tree.type

def Profile.isWrapper (profile : Profile) (tree : Tree) : Bool :=
  profile.wrappers.contains tree.type

end ReviewContext.Syntax
