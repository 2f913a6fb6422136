import ReviewContext.Yaml.Node
import ReviewContext.Yaml.Scalar

/-! What the nodes of a document stand for. Scalars are read where they are met, but the collections
of a level are gone through only when the level above them is done, so the first fault is that of
the highest level. -/
namespace ReviewContext.Yaml

inductive NodeKind
  | scalar (kind : ScalarKind)
  | list
  | pairs
  | set
  | map
deriving DecidableEq, Repr

def NodeKind.tags : List (String × NodeKind) :=
  ScalarKind.tags.map (fun entry => (entry.1, .scalar entry.2))
    ++ [("seq", list), ("omap", pairs), ("pairs", pairs), ("set", set), ("map", map)]

namespace Node

def tag? : Node → Option String
  | scalar tag _ _ | sequence tag _ | mapping tag _ => tag

/-- The kind of a node; none for a tag that no document knows by itself. -/
def kind? (node : Node) : Option NodeKind :=
  match node.tag? with
  | some tag => (NodeKind.tags.find? fun entry => coreTag entry.1 == tag).map Prod.snd
  | none =>
    match node with
    | scalar _ plain text => some (.scalar (if plain then .ofPlain text else .text))
    | sequence .. => some .list
    | mapping .. => some .map

def isKind (node : Node) (kind : ScalarKind) : Bool := node.kind? == some (.scalar kind)

def items : Node → Array Nat
  | sequence _ items => items
  | _ => #[]

def pairs : Node → Array (Nat × Nat)
  | mapping _ pairs => pairs
  | _ => #[]

def isMapping : Node → Bool
  | mapping .. => true
  | _ => false

def isSequence : Node → Bool
  | sequence .. => true
  | _ => false

def withPairs (node : Node) (pairs : Array (Nat × Nat)) : Node :=
  match node with
  | mapping tag _ => mapping tag pairs
  | node => node

def withTag (node : Node) (tag : String) : Node :=
  match node with
  | scalar _ plain text => scalar (some tag) plain text
  | sequence _ items => sequence (some tag) items
  | mapping _ pairs => mapping (some tag) pairs

end Node

/-- How far the nodes of a document are gone through: the values of the scalars read, the
collections met, and those of the next level in order. -/
structure Evaluation where
  nodes : Array Node
  values : Array (Option Value)
  met : Array Bool
  next : Array Nat := #[]

namespace Evaluation

abbrev Step := StateT Evaluation (Except Fault)

def start (nodes : Array Node) : Evaluation :=
  { nodes, values := .replicate nodes.size none, met := .replicate nodes.size false }

def node (e : Evaluation) (place : Nat) : Node := e.nodes.getD place .empty

def setNode (place : Nat) (node : Node) : Step Unit :=
  modify fun e => { e with nodes := e.nodes.setIfInBounds place node }

def textOf (e : Evaluation) : Nat → Nat → Except Fault Text.Pieces
  | 0, _ => .error .malformed
  | fuel + 1, place =>
    match e.node place with
    | .scalar _ _ text => .ok text
    | .sequence .. => .error .malformed
    | .mapping _ pairs =>
      match pairs.find? fun pair => (e.node pair.1).isKind .default with
      | some pair => e.textOf fuel pair.2
      | none => .error .malformed

def readScalar (e : Evaluation) (place : Nat) (kind : ScalarKind) : Except Fault Value := do
  let text ← e.textOf (e.nodes.size + 1) place
  if kind = .timestamp ∧ (e.node place).isMapping then throw .noTimestampText
  kind.read text

def meet (place : Nat) : Step Unit := do
  let e ← get
  if e.met.getD place false then return
  match (e.node place).kind? with
  | none => throw .malformed
  | some (.scalar kind) =>
    let value ← e.readScalar place kind
    set { e with met := e.met.setIfInBounds place true,
                 values := e.values.setIfInBounds place (some value) }
  | some _ => set { e with met := e.met.setIfInBounds place true, next := e.next.push place }

/-- The first pair from a position on whose key is of a kind that only keys have. -/
def special? (e : Evaluation) (pairs : Array (Nat × Nat)) (position : Nat) : Option Nat :=
  ((List.range pairs.size).drop position).find? fun i =>
    match pairs[i]? with
    | some pair => (e.node pair.1).isKind .merge || (e.node pair.1).isKind .default
    | none => false

/-- Takes the pairs of other mappings into a mapping, from a position on; they come before its own
in the end. Each step takes away a key of such a kind, but a mapping may be taken into itself, so
the steps are bounded. -/
def flatten : Nat → Nat → Nat → Array (Nat × Nat) → Step Unit
  | 0, _, _, _ => throw .malformed
  | fuel + 1, place, position, taken => do
    let e ← get
    let pairs := (e.node place).pairs
    match (e.special? pairs position).bind fun i => pairs[i]?.map (i, ·) with
    | none =>
      if taken.isEmpty then return else setNode place ((e.node place).withPairs (taken ++ pairs))
    | some (i, key, value) =>
      if (e.node key).isKind .default then
        setNode key ((e.node key).withTag (coreTag "str"))
        flatten fuel place (i + 1) taken
      else
        setNode place ((e.node place).withPairs (pairs.eraseIdxIfInBounds i))
        if (e.node value).isMapping then
          flatten fuel value 0 #[]
          flatten fuel place i (taken ++ ((← get).node value).pairs)
        else if (e.node value).isSequence then
          let mut found : List (Array (Nat × Nat)) := []
          for item in (e.node value).items do
            if !((← get).node item).isMapping then throw .malformed
            flatten fuel item 0 #[]
            found := ((← get).node item).pairs :: found
          flatten fuel place i (taken ++ found.foldl (· ++ ·) #[])
        else throw .malformed

/-- Enough for every special key of every mapping to be met from every other one. -/
def flattenFuel (nodes : Array Node) : Nat :=
  let pairs := nodes.foldl (fun n node => n + node.pairs.size) 1
  (pairs + nodes.size) * (pairs + nodes.size)

def fillMapping (place : Nat) : Step Unit := do
  let e ← get
  if !(e.node place).isMapping then throw .malformed
  flatten (flattenFuel e.nodes) place 0 #[]
  for (key, value) in ((← get).node place).pairs do
    meet key
    match ((← get).node key).kind? with
    | some (.scalar _) => meet value
    | _ => throw .malformed

def fillPairs (place : Nat) : Step Unit := do
  let e ← get
  if !(e.node place).isSequence then throw .malformed
  for item in (e.node place).items do
    match ((← get).node item).pairs.toList with
    | [(key, value)] => do
      meet key
      meet value
    | _ => throw .malformed

def fillList (place : Nat) : Step Unit := do
  let e ← get
  if !(e.node place).isSequence then throw .malformed
  for item in (e.node place).items do
    meet item

def fill (place : Nat) : Step Unit := do
  match ((← get).node place).kind? with
  | some .list => fillList place
  | some .pairs => fillPairs place
  | some .set | some .map => fillMapping place
  | _ => return

def fillLevels : Nat → Step Unit
  | 0 => return
  | fuel + 1 => do
    let e ← get
    if e.next.isEmpty then return
    set { e with next := #[] }
    for place in e.next do
      fill place
    fillLevels fuel

def parts (e : Evaluation) (place : Nat) : List Nat :=
  let ofPairs := fun pairs : Array (Nat × Nat) => pairs.toList.flatMap fun pair => [pair.1, pair.2]
  match (e.node place).kind? with
  | some .list => (e.node place).items.toList
  | some .pairs => (e.node place).items.toList.flatMap fun item => ofPairs (e.node item).pairs
  | some .set | some .map => ofPairs (e.node place).pairs
  | _ => []

def setKeys (pairs : List (Value × Value)) : List (Value × Value) :=
  pairs.foldl (fun entries pair => Value.setEntry entries pair.1 pair.2) []

def collect (e : Evaluation) (place : Nat) (value : Nat → Value) : Value :=
  let node := e.node place
  let entries :=
    fun _ : Unit => setKeys (node.pairs.toList.map fun pair => (value pair.1, value pair.2))
  match node.kind? with
  | some .list => .list (node.items.toList.map value)
  | some .pairs =>
    .list (node.items.toList.flatMap fun item =>
      (e.node item).pairs.toList.map fun pair => .tuple [value pair.1, value pair.2])
  | some .set => .set ((entries ()).map Prod.fst)
  | some .map => .map (entries ())
  | _ => .null

/-- A collection that is met inside itself shows its scalars, and empty collections for the rest. -/
def outline (e : Evaluation) (values : Array (Option Value)) (place : Nat) : Value :=
  let hollow := fun place => e.collect place fun _ => .null
  let empty := fun place =>
    match hollow place with
    | .map _ => Value.map []
    | .set _ => .set []
    | _ => .list []
  e.collect place fun part => (values.getD part none).getD (empty part)

/-- Makes the value of a node, and before it those of its parts that are not made yet. The nodes on
the way to it are being made. -/
def settle (e : Evaluation) : Nat → List Nat → Nat → StateM (Array (Option Value)) Unit
  | 0, _, _ => return
  | fuel + 1, way, place => do
    if ((← get).getD place none).isSome then return
    for part in e.parts place do
      if !(place :: way).contains part then e.settle fuel (place :: way) part
    let values ← get
    let value := e.collect place fun part => (values.getD part none).getD (e.outline values part)
    set (values.setIfInBounds place (some value))

end Evaluation

def valueOf (nodes : Array Node) (root : Nat) : Except Fault Value := do
  let (_, e) ← (do
    Evaluation.meet root
    Evaluation.fillLevels (nodes.size + 1) : Evaluation.Step Unit).run (.start nodes)
  let (_, values) := (e.settle (nodes.size + 1) [] root).run e.values
  return (values.getD root none).getD .null

end ReviewContext.Yaml
