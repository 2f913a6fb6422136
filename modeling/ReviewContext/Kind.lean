import ReviewContext.Value

/-! Values of a kind that an operation cannot work on. -/
namespace ReviewContext

inductive KindError
  | notComparable (relation left right : String)
  | notIterable (type : String)
  | unhashable (type : String)
  | notJoinable (position : Nat) (type : String)
  | notAppendable (type : String)
  | notPath (type : String)
  | notSearchable (type : String)
  | noMember (type member : String)
  /-- A number that is not whole cannot say where a list is cut. -/
  | notIndex
deriving DecidableEq, Repr

def KindError.message : KindError → String
  | notComparable relation left right =>
    "'" ++ relation ++ "' not supported between instances of '" ++ left ++ "' and '" ++ right ++ "'"
  | notIterable type => "'" ++ type ++ "' object is not iterable"
  | unhashable type => "unhashable type: '" ++ type ++ "'"
  | notJoinable position type =>
    "sequence item " ++ toString position ++ ": expected str instance, " ++ type ++ " found"
  | notAppendable type => "can only concatenate str (not \"" ++ type ++ "\") to str"
  | notPath type => "expected str, bytes or os.PathLike object, not " ++ type
  | notSearchable type => "expected string or bytes-like object, got '" ++ type ++ "'"
  | noMember type member => "'" ++ type ++ "' object has no attribute '" ++ member ++ "'"
  | notIndex => "slice indices must be integers or None or have an __index__ method"

namespace Value

def asText (value : Value) (member : String) : Except KindError String :=
  match value.text? with
  | some written => .ok written
  | none => .error (.noMember value.typeName member)

def listed (value : Value) : Except KindError (List Value) :=
  match value.items? with
  | some items => .ok items
  | none => .error (.notIterable value.typeName)

def belowZero : Value → Except KindError Bool
  | bool _ => .ok false
  | int value => .ok (value < 0)
  | real value => .ok value.isNegative
  | value => .error (.notComparable "<" value.typeName "int")

/-- The second number is not looked at if the first is below zero. -/
def eitherBelowZero (a b : Value) : Except KindError Bool := do
  if ← a.belowZero then return true else b.belowZero

def notAboveZero : Value → Except KindError Bool
  | bool value => .ok !value
  | int value => .ok (value ≤ 0)
  | real value => .ok (value.isNegative || value.isZero)
  | value => .error (.notComparable "<=" value.typeName "int")

def aboveZero : Value → Except KindError Bool
  | bool value => .ok value
  | int value => .ok (0 < value)
  | real value => .ok value.isPositive
  | value => .error (.notComparable ">" value.typeName "int")

/-- Whether a value comes after another: numbers by their size and texts by their characters. -/
def exceeds (a b : Value) : Except KindError Bool :=
  match a, b with
  | text a, text b => .ok (b < a)
  | a, b =>
    match a.whole?, b.whole?, a.real?, b.real? with
    | some m, some n, _, _ => .ok (n < m)
    | _, _, some x, some y => .ok (y.isBelow x)
    | _, _, _, _ => .error (.notComparable ">" a.typeName b.typeName)

def toCut (values : List Value) : Except KindError Unit :=
  if values.any fun
    | real _ => true
    | _ => false
  then .error .notIndex else .ok ()

def allKeys (values : List Value) : Except KindError Unit :=
  match firstNotKey? values with
  | some value => .error (.unhashable value.typeName)
  | none => .ok ()

end Value

inductive Extent
  | whole (lines : Nat)
  | real (size : Real)
deriving DecidableEq, Repr

def Extent.toReal : Extent → Real
  | whole lines => .ofInt lines
  | real size => size

/-- The extent that a number says, none if it is below zero. -/
def Extent.ofValue (value : Value) : Except KindError (Option Extent) := do
  if ← value.belowZero then return none
  match value with
  | .real size => return some (.real size)
  | value => return some (.whole (value.whole?.getD 0).toNat)

end ReviewContext
