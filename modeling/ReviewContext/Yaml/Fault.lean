import ReviewContext.Text.Integer
import ReviewContext.Text.Piece

/-! What can be wrong with a YAML text. -/
namespace ReviewContext.Yaml

inductive TimePart
  | year
  | month
  | day
  | hour
  | minute
  | second
deriving DecidableEq, Repr

/-- A text is no YAML document, or a scalar in it has no value of the kind that it is said to
have. -/
inductive Fault
  | malformed
  | tooLong (excess : Text.TooLong)
  | emptyNumber
  | noNumber (written : Text.Pieces) (base : Nat)
  | noReal (written : Text.Pieces)
  | tooLargeReal
  | noTruth (written : Text.Pieces)
  | noTimestamp
  /-- A timestamp is read off its own text, which a collection does not have. -/
  | noTimestampText
  | noTime (part : TimePart)
  | zoneTooFar (minutes : Int)
  /-- An escape for a code point that no character has. -/
  | noCharacter
  /-- An escape for a number that is not even a code point. -/
  | noCodePoint
  /-- Collections stand in each other deeper than can be read. -/
  | tooDeep
deriving DecidableEq, Repr

def TimePart.message : TimePart → String
  | year => "year 0 is out of range"
  | month => "month must be in 1..12"
  | day => "day is out of range for month"
  | hour => "hour must be in 0..23"
  | minute => "minute must be in 0..59"
  | second => "second must be in 0..59"

def durationText (minutes : Int) : String :=
  let part := fun (name : String) (n : Int) => if n = 0 then [] else [name ++ "=" ++ toString n]
  "datetime.timedelta(" ++ ", ".intercalate
    (part "days" (Int.fdiv minutes 1440) ++ part "seconds" (60 * Int.fmod minutes 1440)) ++ ")"

def Fault.message : Fault → String
  | malformed => "not a YAML document"
  | tooLong excess => excess.message
  | emptyNumber => "string index out of range"
  | noNumber written base => Text.invalidQuoted written.quoted base
  | noReal written => "could not convert string to float: " ++ written.quoted
  | tooLargeReal => "int too large to convert to float"
  | noTruth written => written.quoted
  | noTimestamp => "'NoneType' object has no attribute 'groupdict'"
  | noTimestampText => "expected string or bytes-like object, got 'list'"
  | noTime part => part.message
  | zoneTooFar minutes =>
    "offset must be a timedelta strictly between -timedelta(hours=24) and timedelta(hours=24), not "
      ++ durationText minutes ++ "."
  | noCharacter => "chr() arg not in range(0x110000)"
  | noCodePoint => "Python int too large to convert to C int"
  | tooDeep => "maximum recursion depth exceeded"

end ReviewContext.Yaml
