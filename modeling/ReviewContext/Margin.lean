import ReviewContext.Diff.Hunk
import ReviewContext.Kind
import ReviewContext.Text.Rows

/-! Margins: a hunk between the old-file lines that stand before and after it. -/
namespace ReviewContext

structure Margin where
  above : Extent
  below : Extent
deriving DecidableEq, Repr

inductive MarginError
  | negative
  | outside (header : String) (lines : Nat)
  | kind (error : KindError)
  | unwritable
deriving DecidableEq, Repr

def MarginError.message : MarginError → String
  | .negative => "Margins must be non-negative"
  | .outside header lines =>
    "Hunk " ++ header ++ " lies outside the " ++ toString lines ++ "-line file"
  | .kind error => error.message
  | .unwritable => Text.unwritableMessage

namespace Margin

def standard : Margin := ⟨.whole 5, .whole 5⟩

/-- A margin has two sides that are not below zero; the second is not looked at if the first is. -/
def ofValues (above below : Value) : Except MarginError Margin := do
  match ← (Extent.ofValue above).mapError .kind with
  | none => throw .negative
  | some above =>
    match ← (Extent.ofValue below).mapError .kind with
    | none => throw .negative
    | some below => return ⟨above, below⟩

def showOnce (shown lines : List String) : List String :=
  lines.foldl (fun shown line => if shown.contains line then shown else shown ++ [line]) shown

/-- The old-file lines before a position, as many as the margin has above. A real number of lines
must reach beyond the first. -/
def lead (margin : Margin) (file : List String) (position : Nat) : Except KindError (List String) :=
  match margin.above with
  | .whole lines => .ok ((file.take position).drop (position - lines))
  | .real size =>
    if ((Real.ofInt position).sub size).isPositive then .error .notIndex
    else .ok (file.take position)

/-- The old-file lines from a position on, as many as the margin has below. A real number of lines
must reach the last. -/
def tail (margin : Margin) (file : List String) (position : Nat) : Except KindError (List String) :=
  match margin.below with
  | .whole lines => .ok ((file.drop position).take lines)
  | .real size =>
    if ((Real.ofInt position).add size).isBelow (Real.ofInt file.length) then .error .notIndex
    else .ok (file.drop position)

def fits (file : List String) (hunk : Diff.Hunk) : Bool :=
  0 < hunk.old.start && hunk.old.start - 1 + hunk.old.count ≤ file.length

/-- The hunk between its margins; a line of it that is already shown is not shown again. -/
def expandLines (margin : Margin) (file : List String) (hunk : Diff.Hunk)
    (header : String := hunk.header) :
    Except MarginError (List String) :=
  let first := hunk.old.start - 1
  if fits file hunk then do
    let lead ← (margin.lead file first).mapError .kind
    let tail ← (margin.tail file (first + hunk.old.count)).mapError .kind
    return showOnce (lead ++ [header]) hunk.rawLines ++ tail
  else .error (.outside header file.length)

/-- The hunk between its margins is known by its header, which is written behind the lines above
it. -/
def namedLines (margin : Margin) (file : List String) (hunk : Diff.Hunk)
    (header : String := hunk.header) :
    Except MarginError (List String) := do
  if !hunk.isWritable then
    if fits file hunk then
      let _ ← (margin.lead file (hunk.old.start - 1)).mapError .kind
    throw .unwritable
  margin.expandLines file hunk header

def expand (margin : Margin) (oldText : String) (hunk : Diff.Hunk)
    (header : String := hunk.header) :
    Except MarginError String :=
  (margin.namedLines (Text.fileLines oldText) hunk header).map Text.unlines

end Margin

end ReviewContext
