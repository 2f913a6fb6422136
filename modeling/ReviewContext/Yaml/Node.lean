import ReviewContext.Yaml.Fault
import ReviewContext.Yaml.Token

/-! The nodes of a document. They are put in a table token by token, the collections part way
through held in a list; a node names others by their places in the table, so that an alias may name
even a collection that it stands in. -/
namespace ReviewContext.Yaml

/-- A node without a tag is what its form and text say. -/
inductive Node
  | scalar (tag : Option String) (plain : Bool) (text : Text.Pieces)
  | sequence (tag : Option String) (items : Array Nat)
  | mapping (tag : Option String) (pairs : Array (Nat × Nat))
deriving Repr, Inhabited

def Node.empty : Node := .scalar none true []

def emptyPlace : Nat := 0

/-- What can stand in front of a node. The handle of a tag may be one that is not known, which is a
fault when more follows. -/
structure Properties where
  anchor : Option String := none
  tag : Option String := none
  hasUnknownTag : Bool := false
deriving DecidableEq, Repr

/-- A sequence is in brackets, in a block of its own, or in the column of the key that it belongs
to. -/
inductive SequenceStyle
  | block
  | indentless
  | flow
deriving DecidableEq, Repr

/-- A mapping is a block, in braces, or a single pair in the brackets of a sequence. -/
inductive MappingStyle
  | block
  | flow
  | single
deriving DecidableEq, Repr

inductive Next
  | mark
  | loneKey
  | key
  | colon (key : Nat)
  | value (key : Nat)

/-- A collection part way through, with its place; a sequence may be waiting for an item. -/
inductive Frame
  | sequence (style : SequenceStyle) (tag : Option String) (place : Nat) (items : Array Nat)
    (waiting : Bool)
  | mapping (style : MappingStyle) (tag : Option String) (place : Nat) (pairs : Array (Nat × Nat))
    (next : Next)

def filledItems (items : Array Nat) (waiting : Bool) : Array Nat :=
  if waiting then items.push emptyPlace else items

def filledPairs (pairs : Array (Nat × Nat)) : Next → Array (Nat × Nat)
  | .mark | .loneKey => pairs
  | .key => pairs.push (emptyPlace, emptyPlace)
  | .colon key | .value key => pairs.push (key, emptyPlace)

namespace Frame

def place : Frame → Nat
  | sequence _ _ place _ _ | mapping _ _ place _ _ => place

def node : Frame → Node
  | sequence .flow tag _ items _ => .sequence tag items
  | sequence _ tag _ items waiting => .sequence tag (filledItems items waiting)
  | mapping _ tag _ pairs next => .mapping tag (filledPairs pairs next)

def isWaiting : Frame → Bool
  | sequence _ _ _ _ waiting => waiting
  | mapping _ _ _ _ .loneKey | mapping _ _ _ _ .key | mapping _ _ _ _ (.value _) => true
  | mapping _ _ _ _ .mark | mapping _ _ _ _ (.colon _) => false

/-- Puts a node where one is waited for; a lone key has an empty value. -/
def receive (node : Nat) : Frame → Except Fault Frame
  | sequence style tag place items true => .ok (sequence style tag place (items.push node) false)
  | mapping style tag place pairs .loneKey =>
    .ok (mapping style tag place (pairs.push (node, emptyPlace)) .mark)
  | mapping style tag place pairs .key => .ok (mapping style tag place pairs (.colon node))
  | mapping style tag place pairs (.value key) =>
    .ok (mapping style tag place (pairs.push (key, node)) .mark)
  | _ => .error .malformed

end Frame

/-- A table part way through: the open collections, innermost first, the place of the root when it
is read, the properties of the node to come, the nodes that have names, and what the handles of tags
stand for. -/
structure Builder where
  handles : List (String × String)
  nodes : Array Node := #[.empty]
  frames : List Frame := []
  root : Option Nat := none
  props : Properties := {}
  anchors : List (String × Nat) := []

namespace Builder

def receive (b : Builder) (node : Nat) : Except Fault Builder :=
  match b.frames with
  | [] => if b.root.isSome then .error .malformed else .ok { b with root := some node }
  | frame :: frames => (frame.receive node).map fun frame => { b with frames := frame :: frames }

def add (b : Builder) (node : Node) : Except Fault Builder :=
  match b.props.anchor with
  | none => .ok { b with props := {}, nodes := b.nodes.push node }
  | some anchor =>
    if (b.anchors.lookup anchor).isSome then .error .malformed
    else .ok { b with props := {}, nodes := b.nodes.push node, anchors := (anchor, b.nodes.size) ::
      b.anchors }

def scalar (b : Builder) (plain : Bool) (text : Text.Pieces) : Except Fault Builder := do
  let place := b.nodes.size
  let node : Node :=
    if b.props.tag = some "!" then .scalar none true text else .scalar b.props.tag plain text
  (← b.add node).receive place

def isWaiting (b : Builder) : Bool := (b.frames.head?.map Frame.isWaiting).getD b.root.isNone

/-- How many collections may stand in each other. -/
def depthLimit : Nat := 490

def openFrame (b : Builder) (frame : Option String → Nat → Frame) : Except Fault Builder := do
  if !b.isWaiting then throw .malformed
  if depthLimit ≤ b.frames.length then throw .tooDeep
  let frame := frame (b.props.tag.filter fun tag => tag != "!") b.nodes.size
  let b ← b.add frame.node
  return { b with frames := frame :: b.frames }

def close (b : Builder) : Except Fault Builder :=
  match b.frames with
  | [] => .error .malformed
  | frame :: frames =>
    { b with frames, nodes := b.nodes.setIfInBounds frame.place frame.node }.receive frame.place

def flush (b : Builder) : Except Fault Builder :=
  if b.props = {} then .ok b else b.scalar true []

def closeIf (b : Builder) (ends : Frame → Bool) : Except Fault Builder :=
  if b.frames.head?.any ends then b.close else .ok b

def isIndentless : Frame → Bool
  | .sequence .indentless .. => true
  | _ => false

def isSingle : Frame → Bool
  | .mapping .single .. => true
  | _ => false

def closeMarked (b : Builder) (isMarked : Frame → Bool) : Except Fault Builder :=
  if b.frames.head?.any isMarked then b.close else .error .malformed

def endBlock (b : Builder) : Except Fault Builder := do
  let b ← (← b.flush).closeIf isIndentless
  b.closeMarked fun
    | .sequence .block .. | .mapping .block .. => true
    | _ => false

def endSequence (b : Builder) : Except Fault Builder := do
  let b ← (← b.flush).closeIf isSingle
  b.closeMarked fun
    | .sequence .flow .. => true
    | _ => false

def endMapping (b : Builder) : Except Fault Builder := do
  (← b.flush).closeMarked fun
    | .mapping .flow .. => true
    | _ => false

/-- An entry where a block mapping waits for a node starts a sequence in the column of its key. -/
def entry (b : Builder) : Except Fault Builder := do
  let b ← match b.frames with
    | .mapping .block _ _ _ .key :: _ | .mapping .block _ _ _ (.value _) :: _ =>
      b.openFrame fun tag place => .sequence .indentless tag place #[] false
    | _ => b.flush
  match b.frames with
  | .sequence .flow .. :: _ => throw .malformed
  | .sequence style tag place items waiting :: frames =>
    return { b with frames := .sequence style tag place (filledItems items waiting) true :: frames }
  | _ => throw .malformed

def comma (b : Builder) : Except Fault Builder := do
  let b ← (← b.flush).closeIf isSingle
  match b.frames with
  | .sequence .flow tag place items false :: frames =>
    return { b with frames := .sequence .flow tag place items true :: frames }
  | .mapping .flow _ _ _ .loneKey :: _ => throw .malformed
  | .mapping .flow tag place pairs next :: frames =>
    return { b with frames := .mapping .flow tag place (filledPairs pairs next) .loneKey :: frames }
  | _ => throw .malformed

def key (b : Builder) : Except Fault Builder := do
  let b ← (← b.flush).closeIf isIndentless
  match b.frames with
  | .mapping .block tag place pairs next :: frames =>
    return { b with frames := .mapping .block tag place (filledPairs pairs next) .key :: frames }
  | .mapping .flow tag place pairs .loneKey :: frames =>
    return { b with frames := .mapping .flow tag place pairs .key :: frames }
  | .sequence .flow _ _ _ true :: _ =>
    b.openFrame fun tag place => .mapping .single tag place #[] .key
  | _ => throw .malformed

def value (b : Builder) : Except Fault Builder := do
  let b ← (← b.flush).closeIf isIndentless
  match b.frames with
  | .mapping style tag place pairs .key :: frames =>
    return { b with frames := .mapping style tag place pairs (.value emptyPlace) :: frames }
  | .mapping style tag place pairs (.colon key) :: frames =>
    return { b with frames := .mapping style tag place pairs (.value key) :: frames }
  | _ => throw .malformed

def fullTag? (b : Builder) (tag : Tag) : Option String :=
  match tag.handle with
  | none => some tag.suffix
  | some handle => (b.handles.lookup handle).map (· ++ tag.suffix)

/-- Takes the tag of the node to come. An anchor may still follow a tag but not the other way round,
so that behind an anchor an unknown handle is known to be one at once. -/
def tag (b : Builder) (tag : Tag) : Except Fault Builder :=
  if !b.isWaiting || b.props.tag.isSome then .error .malformed
  else
    match b.fullTag? tag with
    | some full => .ok { b with props := { b.props with tag := some full } }
    | none =>
      if b.props.anchor.isSome then .error .malformed
      else .ok { b with props := { b.props with hasUnknownTag := true } }

def step (b : Builder) (token : Token) : Except Fault Builder :=
  if b.props.hasUnknownTag then .error .malformed
  else
  match token with
  | .scalar plain text => b.scalar plain text
  | .alias name =>
    match b.anchors.lookup name with
    | some node => if b.props = {} then b.receive node else .error .malformed
    | none => .error .malformed
  | .anchor name =>
    if !b.isWaiting || b.props.anchor.isSome then .error .malformed
    else .ok { b with props := { b.props with anchor := some name } }
  | .tag tag => b.tag tag
  | .blockSequence => b.openFrame fun tag place => .sequence .block tag place #[] false
  | .blockMapping => b.openFrame fun tag place => .mapping .block tag place #[] .mark
  | .sequenceOpen => b.openFrame fun tag place => .sequence .flow tag place #[] true
  | .mappingOpen => b.openFrame fun tag place => .mapping .flow tag place #[] .loneKey
  | .blockEnd => b.endBlock
  | .sequenceClose => b.endSequence
  | .mappingClose => b.endMapping
  | .entry => b.entry
  | .comma => b.comma
  | .key => b.key
  | .value => b.value
  | .directive _ | .documentStart | .documentEnd => .error .malformed

def finish (b : Builder) : Except Fault (Array Node × Nat) := do
  if b.props.hasUnknownTag then throw .malformed
  let b ← b.flush
  match b.frames, b.root with
  | [], some root => return (b.nodes, root)
  | _, _ => throw .malformed

end Builder

end ReviewContext.Yaml
