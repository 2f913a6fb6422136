import ReviewContext.Diff.Trim
import ReviewContext.Kind
import ReviewContext.Scope.Lookup

/-! Windows: a scope is looked for around the edits of a hunk and some lines more, and if there is
none, around the edits alone. -/
namespace ReviewContext

open Syntax (Rows)

inductive WindowError
  | negativeMargin
  | kind (error : KindError)
deriving DecidableEq, Repr

def WindowError.message : WindowError → String
  | .negativeMargin => "Search margin must be non-negative"
  | .kind error => error.message

abbrev SearchMargin := Extent

def SearchMargin.ofValue (value : Value) : Except WindowError SearchMargin := do
  match ← (Extent.ofValue value).mapError .kind with
  | some margin => return margin
  | none => throw .negativeMargin

abbrev Finder := Rows → Except LookupError (Option Scope)

/-- The rows asked about first, and those of the edits. -/
structure Window where
  wide : Rows
  exact : Rows
deriving DecidableEq, Repr

/-- The questions put to a finder, in order, and the answer to the last. -/
structure Search where
  questions : List Rows
  answer : Except LookupError (Option Scope)

namespace Window

/-- The window around a stretch of lines in a file; lines beyond the last count as the last. -/
def around (lastLine margin : Nat) (span : Nat × Nat) : Window :=
  let first : Int := min span.1 lastLine
  let last : Int := min span.2 lastLine
  { wide := ⟨max 1 (first - margin) - 1, min (lastLine : Int) (last + margin) - 1⟩
    exact := ⟨first - 1, last - 1⟩ }

/-- The row of a line that lies between two: the number and its text. One beyond the file is a row
of it. -/
def rowBetween (line : Real) (inside : Bool) (otherwise : Int) : Real × String :=
  if inside then
    let row := line.sub (Real.ofInt 1)
    (row, row.toText)
  else (Real.ofInt otherwise, toString otherwise)

/-- The window that real numbers of lines make; the rows asked about are those it reaches wholly or
in part. -/
def aroundReal (lastLine : Nat) (margin : Real) (span : Real × Real) : Except LookupError Window :=
  let inFile :=
    fun line : Real => if (Real.ofInt lastLine).isBelow line then Real.ofInt lastLine else line
  let start := inFile span.1
  let stop := inFile span.2
  let low := start.sub margin
  let high := stop.add margin
  let (first, firstText) := rowBetween low ((Real.ofInt 1).isBelow low) 0
  let (last, lastText) := rowBetween high (high.isBelow (Real.ofInt lastLine)) (lastLine - 1)
  if last.isBelow first then .error (.reversedRows firstText lastText)
  else
    .ok {
      wide := ⟨first.floor, last.ceiling⟩
      exact := ⟨(start.sub (Real.ofInt 1)).floor, (stop.sub (Real.ofInt 1)).ceiling⟩ }

/-- Asks about the edits alone only if the wide window has no scope and is wider. -/
def search (window : Window) (find : Finder) : Search :=
  match find window.wide with
  | .ok none =>
    if window.wide = window.exact then ⟨[window.wide], .ok none⟩
    else ⟨[window.wide, window.exact], find window.exact⟩
  | answer => ⟨[window.wide], answer⟩

end Window

def searchHunk (lastLine : Nat) (margin : SearchMargin) (find : Finder)
    (hunk : Diff.Hunk) : Search :=
  match hunk.trim with
  | .error fault => ⟨[], .error (if hunk.isWritable then .malformed fault else .unwritable)⟩
  | .ok trimmed =>
    match margin with
    | .whole lines => (Window.around lastLine lines trimmed.span).search find
    | .real size =>
      match Window.aroundReal lastLine size
        (Real.ofInt trimmed.span.1, Real.ofInt trimmed.span.2) with
      | .error error => ⟨[], .error error⟩
      | .ok window => window.search find

/-- The scope that a search gives its hunk: none also where the lookup failed for reasons of its
own. -/
def Search.scope (search : Search) : Except LookupError (Option Scope) :=
  match search.answer with
  | .error (.malformed _) => .ok none
  | .error (.unparsed _) => .ok none
  | answer => answer

/-- The number of the last line of a text, by the rows that parsers count. -/
def lastLine (text : String) : Nat := max (Text.rows text).length 1

def Scope.namedKey (scope : Scope) : Except LookupError String :=
  if scope.isWritable then .ok scope.key else .error .unwritable

def scopeOfHunk (lastLine : Nat) (margin : SearchMargin) (find : Finder) (hunk : Diff.Hunk) :
    Except LookupError (Option Scope) := do
  let scope ← (searchHunk lastLine margin find hunk).scope
  if hunk.isWritable && scope.all Scope.isWritable then return scope else throw .unwritable

def scopesOfHunks (text : String) (margin : SearchMargin) (find : Finder) (hunks : List Diff.Hunk) :
    Except LookupError (List (Option Scope)) :=
  hunks.mapM (scopeOfHunk (lastLine text) margin find)

end ReviewContext
