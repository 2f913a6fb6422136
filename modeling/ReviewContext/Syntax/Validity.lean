import ReviewContext.Syntax.Source
import ReviewContext.Text.Writable

/-! Validity: whether a text parses without faults, and where the first fault is. -/
namespace ReviewContext.Syntax

structure Validity where
  valid : Bool
  message : String
deriving DecidableEq, Repr

inductive ValidityError
  | unparsed (failure : ParseFailure)
  | unwritable
deriving DecidableEq, Repr

namespace Tree

def isFault (tree : Tree) : Bool := tree.label.flags.isError || tree.label.flags.isMissing

mutual

/-- The first fault in document order; only flagged nodes are entered. -/
def firstFault? : Tree → Option Tree
  | node label children =>
    if (node label children).isFault then some (node label children)
    else if (node label children).isFlagged then firstFaultIn? children
    else none

def firstFaultIn? : List Tree → Option Tree
  | [] => none
  | tree :: rest => (firstFault? tree).or (firstFaultIn? rest)

end

end Tree

namespace Validity

def ofFault (profile : Profile) (fault : Tree) : Validity :=
  let what := if fault.label.flags.isMissing then "Missing " ++ fault.type else "Syntax error"
  ⟨false, what ++ " in " ++ profile.displayName ++ " code at line "
    ++ toString (fault.label.startRow + 1)
    ++ ", column " ++ toString (fault.label.startColumn + 1)⟩

def ofTree (profile : Profile) (tree : Tree) : Validity :=
  if tree.isFlagged then
    match tree.firstFault? with
    | some fault => ofFault profile fault
    | none => ⟨false, "Syntax error in " ++ profile.displayName ++ " code"⟩
  else ⟨true, ""⟩

def isWritable (tree : Tree) : Bool :=
  (if tree.isFlagged then tree.firstFault? else none).all fun fault =>
    Text.isWritable (fault.label.startRow + 1) && Text.isWritable (fault.label.startColumn + 1)

/-- The verdict on a source, unless it could not be parsed or its fault is nowhere that can be
told. -/
def ofSource (profile : Profile) (source : Source) : Except ValidityError Validity := do
  let tree ← source.tree.mapError .unparsed
  if isWritable tree then return ofTree profile tree else throw .unwritable

end Validity

end ReviewContext.Syntax
