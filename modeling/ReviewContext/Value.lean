import ReviewContext.Real.Text
import ReviewContext.Text.Piece

/-! Values as settings and requests carry them: what a JSON or YAML text can say. -/
namespace ReviewContext

inductive Value
  | null
  | bool (value : Bool)
  | int (value : Int)
  | real (value : Real)
  | text (value : String)
  /-- A text that has halves of characters in it. -/
  | halved (pieces : Text.Pieces)
  | bytes (value : List UInt8)
  | date (year month day : Nat)
  | moment (written : String)
  | list (items : List Value)
  | tuple (items : List Value)
  | set (members : List Value)
  | map (entries : List (Value × Value))
deriving Repr, Inhabited

namespace Value

def typeName : Value → String
  | null => "NoneType"
  | bool _ => "bool"
  | int _ => "int"
  | real _ => "float"
  | text _ | halved _ => "str"
  | bytes _ => "bytes"
  | date .. => "datetime.date"
  | moment _ => "datetime.datetime"
  | list _ => "list"
  | tuple _ => "tuple"
  | set _ => "set"
  | map _ => "dict"

/-- Nothing, zero and what is empty count as false. -/
def isTruthy : Value → Bool
  | null => false
  | bool value => value
  | int value => value != 0
  | real value => !value.isZero
  | text value => value != ""
  | bytes value => !value.isEmpty
  | halved _ | date .. | moment _ => true
  | list items | tuple items | set items => !items.isEmpty
  | map entries => !entries.isEmpty

def items? : Value → Option (List Value)
  | list items | tuple items | set items => some items
  | text value => some (value.toList.map fun c => text (String.ofList [c]))
  | halved pieces => some (pieces.map fun
    | .char c => text (String.ofList [c])
    | .half code => halved [.half code])
  | bytes value => some (value.map fun byte => int byte.toNat)
  | map entries => some (entries.map Prod.fst)
  | null | bool _ | int _ | real _ | date .. | moment _ => none

def text? : Value → Option String
  | text value => some value
  | halved pieces => some pieces.written
  | _ => none

mutual

/-- The innermost value that keeps a value from being a key. -/
def notKey? : Value → Option Value
  | list items => some (list items)
  | set members => some (set members)
  | map entries => some (map entries)
  | tuple items => firstNotKey? items
  | _ => none

def firstNotKey? : List Value → Option Value
  | [] => none
  | item :: items =>
    match notKey? item with
    | some value => some value
    | none => firstNotKey? items

end

/-- The whole number that a value is equal to; truth counts as one. -/
def whole? : Value → Option Int
  | bool value => some value.toNat
  | int value => some value
  | real (.finite negative mantissa exponent) =>
    let value := Real.finite negative mantissa exponent
    if value.floor = value.ceiling then some value.floor else none
  | _ => none

def floor? : Value → Option Int
  | real value => some value.floor
  | value => value.whole?

def ceiling? : Value → Option Int
  | real value => some value.ceiling
  | value => value.whole?

def real? : Value → Option Real
  | real value => some value
  | value => value.whole?.map Real.ofInt

/-- Keys are the same if their values are equal, whatever kind of number they are. -/
def sameKey (a b : Value) : Bool :=
  match a, b with
  | null, null => true
  | text a, text b | moment a, moment b => a == b
  | halved a, halved b => a == b
  | bytes a, bytes b => a == b
  | date y m d, date y' m' d' => y == y' && m == m' && d == d'
  | real (.infinite s), real (.infinite s') => s == s'
  | a, b =>
    match a.whole?, b.whole? with
    | some m, some n => m == n
    | none, none =>
      match a, b with
      | real x, real y => x.isSame y
      | _, _ => false
    | _, _ => false

def setEntry (entries : List (Value × Value)) (key value : Value) : List (Value × Value) :=
  if entries.any fun entry => entry.1.sameKey key then
    entries.map fun entry => if entry.1.sameKey key then (entry.1, value) else entry
  else entries ++ [(key, value)]

def between (opening closing : String) (items : List String) : String :=
  opening ++ ", ".intercalate items ++ closing

def byteText (quote : Char) (byte : UInt8) : List Char :=
  let c := Char.ofNat byte.toNat
  if 0x7E < byte then Text.numericEscape c else Text.escapeChar quote c

mutual

def quoted : Value → String
  | null => "None"
  | bool value => if value then "True" else "False"
  | int value => toString value
  | real value => value.toText
  | text value => Text.quoted value
  | halved pieces => pieces.quoted
  | bytes value =>
    let mark := Text.quoteFor (value.map fun byte => Char.ofNat byte.toNat)
    String.ofList ('b' :: mark :: value.flatMap (byteText mark) ++ [mark])
  | date year month day =>
    between "datetime.date(" ")" [toString year, toString month, toString day]
  | moment written => written
  | list items => between "[" "]" (quotedItems items)
  | tuple [item] => "(" ++ quoted item ++ ",)"
  | tuple items => between "(" ")" (quotedItems items)
  | set [] => "set()"
  | set members => between "\x7b" "\x7d" (quotedItems members)
  | map entries => between "\x7b" "\x7d" (quotedEntries entries)

def quotedItems : List Value → List String
  | [] => []
  | item :: items => quoted item :: quotedItems items

def quotedEntries : List (Value × Value) → List String
  | [] => []
  | (key, value) :: entries => (quoted key ++ ": " ++ quoted value) :: quotedEntries entries

end

def toText : Value → String
  | text value => value
  | halved pieces => pieces.written
  | value => value.quoted

end Value

end ReviewContext
