import ReviewContext.Text.Blank
import ReviewContext.Text.Integer
import ReviewContext.Text.Rows
import ReviewContext.Diff.Malformed

/-! The written forms of headers: the two extents of a hunk, the names of a file section, and name
lines. -/
namespace ReviewContext.Diff.Header

structure WrittenExtent where
  start : List Nat
  count : Option (List Nat)
deriving DecidableEq, Repr

def skipBlanks (cs : List Char) : List Char := cs.dropWhile Text.isBlank

/-- Reads blanks, a sign, a start and perhaps a comma and a count. -/
def extent? (sign : Char) (cs : List Char) : Option (WrittenExtent × List Char) :=
  match skipBlanks cs with
  | [] => none
  | c :: cs =>
    if c ≠ sign then none
    else
      match Text.spanDigits cs with
      | ([], _) => none
      | (start, ',' :: rest) =>
        match Text.spanDigits rest with
        | ([], _) => some (⟨start, none⟩, ',' :: rest)
        | (count, rest') => some (⟨start, some count⟩, rest')
      | (start, rest) => some (⟨start, none⟩, rest)

/-- Both sides of a line that opens a hunk; what follows the closing mark is free. -/
def extents? (text : String) : Option (WrittenExtent × WrittenExtent) :=
  match text.toList with
  | '@' :: '@' :: cs => do
    let (old, cs) ← extent? '-' cs
    let (new, cs) ← extent? '+' cs
    match skipBlanks cs with
    | '@' :: '@' :: _ => some (old, new)
    | _ => none
  | _ => none

/-- A stretch without lines is named by the line before it. -/
def settled (start count : Nat) : Extent :=
  ⟨if count = 0 then start + 1 else start, count⟩

def WrittenExtent.read (written : WrittenExtent) : Except ReadError Extent := do
  let start ← (Text.boundedNumber written.start).mapError .tooLong
  let count ← (Text.boundedNumber (written.count.getD [1])).mapError .tooLong
  return settled start count

/-- An unquoted or quoted name: a double quote that closes it is no part of it. -/
def dropQuote (name : List Char) : List Char :=
  if 2 ≤ name.length ∧ name.getLast? = some '"' then name.dropLast else name

/-- The name without the letter of its side, if something is left of it; else the whole. -/
def bareNames (side : Char) (cs : List Char) : List (List Char) :=
  match cs with
  | '"' :: c :: '/' :: rest => if c = side then [rest, cs] else [cs]
  | c :: '/' :: rest => if c = side then [rest, cs] else [cs]
  | _ => [cs]

def spanName? (side : Char) (cs : List Char) : Option (List Char × List Char) :=
  (bareNames side cs).findSome? fun name =>
    match name.span fun c => !Text.isBlank c with
    | ([], _) => none
    | (run, rest) => some (dropQuote run, rest)

def fileNames? (text : String) : Option (String × String) :=
  if Text.startsWith text "diff --git " then
    match spanName? 'a' (text.toList.drop 11) with
    | some (old, ' ' :: cs) =>
      match spanName? 'b' cs with
      | some (new, []) => some (String.ofList old, String.ofList new)
      | _ => none
    | _ => none
  else none

/-- The name that a name line gives: up to a tab, without the letter of its side; none for the empty
device. -/
def pathName? (path : String) : Option String :=
  let name := Text.trimList (path.toList.takeWhile (· ≠ '\t'))
  if name = "/dev/null".toList ∨ name = "dev/null".toList then none
  else
    let bare :=
      match name with
      | 'a' :: '/' :: rest => rest
      | 'b' :: '/' :: rest => rest
      | _ => name
    if bare = [] then none else some (String.ofList bare)

end ReviewContext.Diff.Header
