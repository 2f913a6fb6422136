import ReviewContext.Yaml.Chars
import ReviewContext.Yaml.Fault

/-! Dates and times of day. -/
namespace ReviewContext.Yaml

structure TimeOfDay where
  hour : Nat
  minute : Nat
  second : Nat
deriving DecidableEq, Repr

/-- A date, with the time of day if it is given, and with the minutes by which a zone is ahead. -/
structure Timestamp where
  year : Nat
  month : Nat
  day : Nat
  time : Option TimeOfDay := none
  zone : Int := 0
deriving DecidableEq, Repr

namespace Timestamp

def number? (least most : Nat) (cs : List Char) : Option (Nat × List Char) :=
  let digits := (cs.take most).takeWhile Char.isDigit
  if digits.length < least then none
  else some (Text.numberOfDigits (digits.map hexValue), cs.drop digits.length)

def mark? (mark : Char) : List Char → Option (List Char)
  | c :: cs => if c = mark then some cs else none
  | [] => none

def offset? (cs : List Char) : Option Int :=
  match number? 1 2 cs with
  | none => none
  | some (hours, []) => some (60 * hours)
  | some (hours, rest) => do
    let (minutes, rest) ← number? 2 2 (← mark? ':' rest)
    if rest = [] then some (60 * hours + minutes) else none

def zone? (cs : List Char) : Option Int :=
  match cs.dropWhile isSpaceOrTab with
  | [] => if cs.isEmpty then some 0 else none
  | 'Z' :: rest => if rest = [] then some 0 else none
  | '+' :: rest => offset? rest
  | '-' :: rest => (offset? rest).map fun minutes => -minutes
  | _ => none

def skipFraction : List Char → List Char
  | '.' :: cs => cs.dropWhile Char.isDigit
  | cs => cs

def timeOfDay? (cs : List Char) : Option (TimeOfDay × Int) := do
  let (hour, cs) ← number? 1 2 cs
  let (minute, cs) ← number? 2 2 (← mark? ':' cs)
  let (second, cs) ← number? 2 2 (← mark? ':' cs)
  return (⟨hour, minute, second⟩, ← zone? (skipFraction cs))

def behindSeparator? : List Char → Option (List Char)
  | c :: cs =>
    if c = 'T' ∨ c = 't' then some cs
    else if isSpaceOrTab c then some (cs.dropWhile isSpaceOrTab)
    else none
  | [] => none

def ofChars? (cs : List Char) : Option Timestamp := do
  let (year, rest) ← number? 4 4 cs
  let (month, rest) ← number? 1 2 (← mark? '-' rest)
  let (day, rest) ← number? 1 2 (← mark? '-' rest)
  if rest = [] then return { year, month, day }
  let (time, zone) ← timeOfDay? (← behindSeparator? rest)
  return { year, month, day, time := some time, zone }

/-- A date by itself needs two digits for its month and its day to be known as one. -/
def isTimestamp (cs : List Char) : Bool :=
  (ofChars? cs).any fun found => found.time.isSome || cs.length == 10

def isLeap (year : Nat) : Bool := year % 4 == 0 && (year % 100 != 0 || year % 400 == 0)

def daysIn (year month : Nat) : Nat :=
  if month = 2 then (if isLeap year then 29 else 28)
  else if month = 4 ∨ month = 6 ∨ month = 9 ∨ month = 11 then 30
  else 31

def impossible? (t : Timestamp) : Option TimePart :=
  if t.year = 0 then some .year
  else if t.month = 0 ∨ 12 < t.month then some .month
  else if t.day = 0 ∨ daysIn t.year t.month < t.day then some .day
  else
    match t.time with
    | none => none
    | some time =>
      if 23 < time.hour then some .hour
      else if 59 < time.minute then some .minute
      else if 59 < time.second then some .second
      else none

/-- What is wrong with a timestamp; its zone, less than a day ahead or behind, is looked at
first. -/
def fault? (t : Timestamp) : Option Fault :=
  if 1440 ≤ t.zone.natAbs then some (.zoneTooFar t.zone) else t.impossible?.map .noTime

end Timestamp

end ReviewContext.Yaml
