import ReviewContext.Text.Blank
import ReviewContext.Text.Digit
import ReviewContext.Text.Quoted

/-! Numbers in text: a sign, digits of any script, and single underscores between them. A number has
at most 4300 digits. -/
namespace ReviewContext.Text

structure TooLong where
  digits : Nat
deriving DecidableEq, Repr

inductive NumberError
  | malformed
  | tooLong (excess : TooLong)
deriving DecidableEq, Repr

def digitLimit : Nat := 4300

def TooLong.message (excess : TooLong) : String :=
  "Exceeds the limit (" ++ toString digitLimit ++
    " digits) for integer string conversion: value has "
    ++ toString excess.digits ++ " digits; use sys.set_int_max_str_digits() to increase the limit"

/-- What is said of a text in quotes that is no number; only the start of a long one is shown. -/
def invalidQuoted (quoted : String) (base : Nat) : String :=
  "invalid literal for int() with base " ++ toString base ++ ": " ++
    String.ofList (quoted.toList.take 200)

def invalidLiteral (written : String) (base : Nat) : String := invalidQuoted (quoted written) base

def boundedNumber (digits : List Nat) : Except TooLong Nat :=
  if digits.length ≤ digitLimit then .ok (numberOfDigits digits) else .error ⟨digits.length⟩

/-- Digits with single underscores between them and what follows; `owed` says that an underscore
waits for its digit. -/
def spanGroupedDigits (owed : Bool) : List Char → Option (List Nat × List Char)
  | [] => if owed then none else some ([], [])
  | c :: cs =>
    match digitValue? c with
    | some digit => (spanGroupedDigits false cs).map fun r => (digit :: r.1, r.2)
    | none =>
      if owed then none
      else if c = '_' then spanGroupedDigits true cs
      else some ([], c :: cs)

/-- Reads digits up to the end; too long a number is refused before what follows it is looked at. -/
def readUnsigned (cs : List Char) : Except NumberError Nat :=
  if cs.head? = some '_' then .error .malformed
  else
    match spanGroupedDigits false cs with
    | none => .error .malformed
    | some ([], _) => .error .malformed
    | some (digits, rest) => do
      let number ← (boundedNumber digits).mapError .tooLong
      if rest.all isNumberBlank then .ok number else .error .malformed

def readInteger (s : String) : Except NumberError Int :=
  match s.toList.dropWhile isNumberBlank with
  | '-' :: cs => (readUnsigned cs).map fun n => -(n : Int)
  | '+' :: cs => (readUnsigned cs).map fun n => (n : Int)
  | cs => (readUnsigned cs).map fun n => (n : Int)

end ReviewContext.Text
