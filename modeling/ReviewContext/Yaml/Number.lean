import ReviewContext.Text.LetterCase
import ReviewContext.Value
import ReviewContext.Yaml.Chars
import ReviewContext.Yaml.Fault

/-! Numbers as plain scalars: in base two, eight, ten and sixteen, in sixties set apart by colons,
and with underscores that mean nothing. -/
namespace ReviewContext.Yaml.Number

def unsigned : List Char → Bool × List Char
  | '-' :: cs => (true, cs)
  | '+' :: cs => (false, cs)
  | cs => (false, cs)

def isDigitOrGap (c : Char) : Bool := c.isDigit || c == '_'

def isRun (test : Char → Bool) (cs : List Char) : Bool := !cs.isEmpty && cs.all test

def isDigits (cs : List Char) : Bool := nextIs Char.isDigit cs && cs.all isDigitOrGap

def isSixtieth : List Char → Bool
  | [a] => a.isDigit
  | [a, b] => a.isDigit && a ≤ '5' && b.isDigit
  | _ => false

def isWhole (cs : List Char) : Bool :=
  match (unsigned cs).2 with
  | ['0'] => true
  | '0' :: 'b' :: digits => isRun (isOneOf "01_") digits
  | '0' :: 'x' :: digits => isRun (fun c => isHexDigit c || c == '_') digits
  | '0' :: digits => isRun (isOneOf "01234567_") digits
  | digits =>
    match digits.splitOn ':' with
    | first :: others => isDigits first && others.all isSixtieth
    | [] => false

def isExponent : List Char → Bool
  | [] => true
  | e :: sign :: digits =>
    (e == 'e' || e == 'E') && (sign == '+' || sign == '-') && isRun Char.isDigit digits
  | _ => false

def isDecimal (cs : List Char) : Bool :=
  let whole := (unsigned cs).2.takeWhile (· != '.')
  match (unsigned cs).2.dropWhile (· != '.') with
  | [] => false
  | _ :: fraction =>
    match whole.splitOn ':' with
    | [[]] =>
      nextIs (· == '.') cs && nextIs Char.isDigit fraction &&
        isExponent (fraction.dropWhile isDigitOrGap)
    | [first] => isDigits first && isExponent (fraction.dropWhile isDigitOrGap)
    | first :: others => isDigits first && others.all isSixtieth && fraction.all isDigitOrGap
    | [] => false

def isReal (cs : List Char) : Bool :=
  isDecimal cs || [".inf", ".Inf", ".INF"].contains (String.ofList (unsigned cs).2)
    || [".nan", ".NaN", ".NAN"].contains (String.ofList cs)

def digitIn (base : Nat) (c : Char) : Option Nat :=
  let value := (Text.digitValue? c).orElse fun _ => if isHexDigit c then some (hexValue c) else none
  value.filter fun digit => digit < base

def baseMark : Nat → Char
  | 2 => 'b'
  | 8 => 'o'
  | _ => 'x'

def dropBase (base : Nat) : List Char → List Char
  | '0' :: c :: cs => if c.toLower = baseMark base then cs else '0' :: c :: cs
  | cs => cs

def trimBlanks (cs : List Char) : List Char :=
  ((cs.dropWhile Text.isNumberBlank).reverse.dropWhile Text.isNumberBlank).reverse

def signed (negative : Bool) (size : Int) : Int := if negative then -size else size

/-- Reads a number in base two, eight or sixteen, with blanks around it, a sign and its base. -/
def inBase (base : Nat) (cs : List Char) : Except Fault Int :=
  let (negative, digits) := unsigned (trimBlanks cs)
  match (dropBase base digits).mapM (digitIn base) with
  | some (first :: others) =>
    let size : Nat := others.foldl (fun n digit => base * n + digit) first
    .ok (signed negative size)
  | _ => .error (.noNumber (.ofChars cs) base)

def decimalPart (cs : List Char) : Except Fault Int :=
  (Text.readInteger (String.ofList cs)).mapError fun
    | .malformed => .noNumber (.ofChars cs) 10
    | .tooLong excess => .tooLong excess

/-- The size of a whole number; of parts between colons each counts sixty times the next. -/
def magnitude : List Char → Except Fault Int
  | [] => .error .emptyNumber
  | '0' :: 'b' :: digits => inBase 2 digits
  | '0' :: 'x' :: digits => inBase 16 digits
  | '0' :: digits => inBase 8 ('0' :: digits)
  | digits =>
    (digits.splitOn ':').foldlM (fun total part => (decimalPart part).map (60 * total + ·)) 0

def readWhole (cs : List Char) : Except Fault Int :=
  let (negative, digits) := unsigned (cs.filter (· != '_'))
  (magnitude digits).map (signed negative)

def exponent? : List Char → Option Int
  | [] => some 0
  | e :: cs =>
    let (negative, digits) := unsigned cs
    if (e = 'e' ∨ e = 'E') ∧ isRun Char.isDigit digits then
      some (signed negative (Text.numberOfDigits (digits.map hexValue)))
    else none

def decimal? (cs : List Char) : Option (Nat × Int) :=
  let whole := cs.takeWhile Char.isDigit
  let after := cs.dropWhile Char.isDigit
  let fraction := if nextIs (· == '.') after then (after.drop 1).takeWhile Char.isDigit else []
  let rest := if nextIs (· == '.') after then (after.drop 1).dropWhile Char.isDigit else after
  if whole ++ fraction = [] then none
  else
    (exponent? rest).map fun e =>
      (Text.numberOfDigits ((whole ++ fraction).map hexValue), e - fraction.length)

def plainDigit (c : Char) : Char :=
  match Text.digitValue? c with
  | some digit => Char.ofNat (48 + digit)
  | none => c

def readSingleReal (cs : List Char) : Except Fault Real :=
  let (negative, size) := unsigned ((trimBlanks cs).map plainDigit)
  let word := String.ofList (size.map Char.toLower)
  if word = "inf" ∨ word = "infinity" then .ok (.infinite negative)
  else if word = "nan" then .ok .undefined
  else
    match decimal? size with
    | some (digits, exponent) => .ok (Real.ofDecimal negative digits exponent)
    | none => .error (.noReal (.ofChars cs))

def sexagesimal (unit : Nat) (total : Real) : List Real → Except Fault Real
  | [] => .ok total
  | part :: parts =>
    match Real.ofInt unit with
    | .infinite _ => .error .tooLargeReal
    | size => sexagesimal (60 * unit) (total.add (part.mul size)) parts

/-- The size of a real number; infinity and what is no number have words of their own. -/
def realSize (written : List Char) : Except Fault Real :=
  if String.ofList written = ".inf" then .ok (.infinite false)
  else if String.ofList written = ".nan" then .ok .undefined
  else if written.contains ':' then do
    let parts ← (written.splitOn ':').mapM readSingleReal
    sexagesimal 1 (.zero false) parts.reverse
  else readSingleReal written

def readReal (written : String) : Except Fault Real :=
  match (Text.lower (String.ofList (written.toList.filter (· != '_')))).toList with
  | [] => .error .emptyNumber
  | cs =>
    let (negative, size) := unsigned cs
    (realSize size).map fun size => if negative then size.neg else size

/-! A text with halves of characters in it is no number; which part of it is told to be none depends
on what is read before. -/

def withoutGaps (written : Text.Pieces) : Text.Pieces := written.filter (· != .char '_')

def withoutSign (written : Text.Pieces) : Text.Pieces :=
  match written with
  | .char c :: rest => if c == '-' || c == '+' then rest else .char c :: rest
  | rest => rest

/-- The first fault of the parts between colons; one with halves in it always has one. -/
def partFault (faultOf : Text.Pieces → Option Fault) (written : Text.Pieces) : Fault :=
  ((written.splitOn (.char ':')).findSome? faultOf).getD .malformed

def faultOf {α : Type} : Except Fault α → Option Fault
  | .error fault => some fault
  | .ok _ => none

def wholePartFault (part : Text.Pieces) : Option Fault :=
  match part.chars? with
  | some cs => faultOf (decimalPart cs)
  | none =>
    match decimalPart
      ((part.takeWhile fun piece => piece.char?.isSome).filterMap Text.Piece.char?) with
    | .error (.tooLong excess) => some (.tooLong excess)
    | _ => some (.noNumber part 10)

def wholeFault (written : Text.Pieces) : Fault :=
  match withoutSign (withoutGaps written) with
  | .char '0' :: .char 'b' :: digits => .noNumber digits 2
  | .char '0' :: .char 'x' :: digits => .noNumber digits 16
  | .char '0' :: digits => .noNumber (.char '0' :: digits) 8
  | digits => partFault wholePartFault digits

def realPartFault (part : Text.Pieces) : Option Fault :=
  match part.chars? with
  | some cs => faultOf (readSingleReal cs)
  | none => some (.noReal part)

def realFault (written : Text.Pieces) : Fault :=
  partFault realPartFault (withoutSign (withoutGaps written).lower)

end ReviewContext.Yaml.Number
