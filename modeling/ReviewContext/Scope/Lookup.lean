import ReviewContext.Kind
import ReviewContext.Diff.Malformed
import ReviewContext.Scope.Basic
import ReviewContext.Syntax.Source

/-! Lookup: the smallest scope around some rows. A definition is preferred to a block of any size,
of equally small ones the first in document order is taken, and a definition in wrappers is shown
with them. -/
namespace ReviewContext

open Syntax (Rows Profile Source ParseFailure)

inductive LookupError
  | malformed (fault : Diff.Malformed)
  | unparsed (failure : ParseFailure)
  | reversedRows (first last : String)
  | scope (error : ScopeError)
  | kind (error : KindError)
  | unwritable
deriving DecidableEq, Repr

def LookupError.message : LookupError → String
  | .malformed fault => fault.message
  | .unparsed failure => failure.message
  | .reversedRows first last => "Invalid row range " ++ first ++ "-" ++ last
  | .scope error => error.message
  | .kind error => error.message
  | .unwritable => Text.unwritableMessage

/-- A node with the nodes above it, the nearest first. -/
structure Located where
  tree : Syntax.Tree
  above : List Syntax.Tree

namespace Located

mutual

/-- The nodes that contain some rows, in document order; below a node that does not, none is looked
for. -/
def around (rows : Rows) (above : List Syntax.Tree) : Syntax.Tree → List Located
  | .node label children =>
    if (Syntax.Tree.node label children).containsRows rows then
      ⟨.node label children, above⟩ :: aroundIn rows (.node label children :: above) children
    else []

def aroundIn (rows : Rows) (above : List Syntax.Tree) : List Syntax.Tree → List Located
  | [] => []
  | tree :: rest => around rows above tree ++ aroundIn rows above rest

end

/-- The node is a scope of its own: it has two rows or more and its text is not blank. -/
def isScope (source : String) (located : Located) : Bool :=
  1 ≤ located.tree.height && !Text.isBlankText (located.tree.text source)

def smaller (good : Located → Bool) (pick : Option Located) (located : Located) : Option Located :=
  if pick.all (fun best => located.tree.height < best.tree.height) && good located then some located
  else pick

def smallest? (good : Located → Bool) (nodes : List Located) : Option Located :=
  nodes.foldl (smaller good) none

/-- The topmost of the wrappers right above a node, or the node itself. -/
def widened (profile : Profile) (located : Located) : Syntax.Tree :=
  (located.above.takeWhile profile.isWrapper).getLastD located.tree

end Located

/-- The node that carries the name of a scope: a wrapper leaves it to the definition in it. -/
def bearer (profile : Profile) (tree : Syntax.Tree) : Syntax.Tree :=
  if profile.isWrapper tree then
    match _inner : tree.child? "definition" with
    | some inner => bearer profile inner
    | none => tree
  else tree
termination_by sizeOf tree
decreasing_by exact Syntax.Tree.sizeOf_child?_lt _inner

def scopeOf (profile : Profile) (source : String) (kind : ScopeKind) (tree : Syntax.Tree) :
    Except ScopeError Scope :=
  Scope.ofLines kind tree.type (tree.label.startRow + 1) (tree.label.endRow + 1) (tree.text source)
    (((bearer profile tree).child? "name").map (Syntax.Tree.text · source))

def pick? (profile : Profile) (source : String) (tree : Syntax.Tree) (rows : Rows) :
    Option (ScopeKind × Located) :=
  let nodes := Located.around rows [] tree
  match Located.smallest? (fun n => profile.isDefinition n.tree && n.isScope source) nodes with
  | some located => some (.definition, located)
  | none =>
    (Located.smallest? (fun n => profile.isBlock n.tree && n.isScope source) nodes).map (.block, ·)

def scopeIn (profile : Profile) (source : String) (tree : Syntax.Tree) (rows : Rows) :
    Except ScopeError (Option Scope) :=
  match pick? profile source tree rows with
  | none => .ok none
  | some (.definition, located) =>
    (scopeOf profile source .definition (located.widened profile)).map some
  | some (.block, located) => (scopeOf profile source .block located.tree).map some

/-- Rows that end before they start are refused before anything else. -/
def reversed? (rows : Rows) : Option LookupError :=
  if rows.last < rows.first then some (.reversedRows (toString rows.first) (toString rows.last))
  else none

def findScope (profile : Profile) (source : Source) (rows : Rows) :
    Except LookupError (Option Scope) :=
  match reversed? rows with
  | some error => .error error
  | none =>
    match source.tree with
    | .error failure => .error (.unparsed failure)
    | .ok tree => (scopeIn profile source.text tree rows).mapError .scope

def findNothing (reason : KindError) (rows : Rows) : Except LookupError (Option Scope) :=
  .error ((reversed? rows).getD (.kind reason))

end ReviewContext
