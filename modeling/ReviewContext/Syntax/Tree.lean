import ReviewContext.Text.Utf8

/-! Syntax trees as parsers hand them out: typed nodes over rows and bytes of a text, counted from
zero. -/
namespace ReviewContext.Syntax

/-- What a parser marks on a node: that it is no code, that it stands for code that is not there, or
that something else about it is wrong. -/
structure Flags where
  isError : Bool := false
  isMissing : Bool := false
  other : Bool := false
deriving DecidableEq, Repr

def Flags.any (flags : Flags) : Bool := flags.isError || flags.isMissing || flags.other

structure Label where
  type : String
  startRow : Int
  startColumn : Int
  endRow : Int
  startByte : Int
  endByte : Int
  /-- The role that the node plays for its parent. -/
  role : Option String := none
  flags : Flags := {}
deriving DecidableEq, Repr

inductive Tree
  | node (label : Label) (children : List Tree)
deriving Repr

structure Rows where
  first : Int
  last : Int
deriving DecidableEq, Repr

namespace Tree

def label : Tree → Label
  | node label _ => label

def children : Tree → List Tree
  | node _ children => children

def type (tree : Tree) : String := tree.label.type

def height (tree : Tree) : Int := tree.label.endRow - tree.label.startRow

def containsRows (tree : Tree) (rows : Rows) : Bool :=
  tree.label.startRow ≤ rows.first && rows.last ≤ tree.label.endRow

def text (tree : Tree) (source : String) : String :=
  Text.Utf8.byteSlice source tree.label.startByte tree.label.endByte

def child? (tree : Tree) (role : String) : Option Tree :=
  tree.children.find? fun child => child.label.role == some role

theorem sizeOf_child?_lt {tree inner : Tree} {role : String} (h : tree.child? role = some inner) :
    sizeOf inner < sizeOf tree := by
  have hm := List.mem_of_find?_eq_some h
  cases tree with
  | node label children =>
    have := List.sizeOf_lt_of_mem hm
    simp only [Tree.children] at this
    simp only [Tree.node.sizeOf_spec]
    omega

mutual

def nodes : Tree → List Tree
  | node label children => node label children :: nodesOfAll children

def nodesOfAll : List Tree → List Tree
  | [] => []
  | tree :: rest => nodes tree ++ nodesOfAll rest

end

mutual

def isFlagged : Tree → Bool
  | node label children => label.flags.any || anyFlagged children

def anyFlagged : List Tree → Bool
  | [] => false
  | tree :: rest => isFlagged tree || anyFlagged rest

end

end Tree

end ReviewContext.Syntax
