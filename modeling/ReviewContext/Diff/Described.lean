import ReviewContext.Kind
import ReviewContext.Diff.Merge
import ReviewContext.Diff.Trim

/-! Lines and hunks as callers describe them, with values of any kind. A number may be given as a
truth value: it counts as one or zero, and is shown as it was given. -/
namespace ReviewContext.Diff

inductive DescriptionError
  | unknownKind (written : String)
  | hunk (error : HunkError)
  | merge (error : MergeError)
  | kind (error : KindError)
deriving DecidableEq, Repr

def DescriptionError.message : DescriptionError → String
  | .unknownKind written => "Invalid line type: " ++ written
  | .hunk error => error.message
  | .merge error => error.message
  | .kind error => error.message

def LineKind.ofValue (value : Value) : Except DescriptionError LineKind := do
  (Value.allKeys [value]).mapError .kind
  match value.text?.bind ofName? with
  | some kind => return kind
  | none => throw (.unknownKind value.toText)

/-- The text of a diff, which counts as empty if it is no text but false. -/
def textOf (diff : Value) : Except KindError String :=
  if diff.isTruthy then diff.asText "strip" else .ok ""

structure Numbers where
  oldStart : Value
  oldCount : Value
  newStart : Value
  newCount : Value

namespace Numbers

def ofHunk (hunk : Hunk) : Numbers :=
  ⟨.int hunk.old.start, .int hunk.old.count, .int hunk.new.start, .int hunk.new.count⟩

def header (numbers : Numbers) : String :=
  "@@ -" ++ numbers.oldStart.toText ++ "," ++ numbers.oldCount.toText
    ++ " +" ++ numbers.newStart.toText ++ "," ++ numbers.newCount.toText ++ " @@"

def toCut (numbers : Numbers) : Except KindError Unit :=
  Value.toCut [numbers.oldStart, numbers.oldCount, numbers.newStart, numbers.newCount]

end Numbers

def contentsOf (lines : List Line) : List Value := lines.map fun line => .text line.content

/-- A hunk with what was given for it: its numbers, the contents of its lines and their
delimiters. -/
structure Described where
  hunk : Hunk
  numbers : Numbers := .ofHunk hunk
  contents : List Value := contentsOf hunk.lines
  delimiters : List Value := hunk.delimiters.map .text

namespace Described

/-- A hunk with the coordinates given. The starts are compared with zero before the counts. -/
def ofNumbers (numbers : Numbers) (lines : List (LineKind × Value)) (delimiters : List Value) :
    Except DescriptionError Described := do
  if ← (Value.eitherBelowZero numbers.oldStart numbers.newStart).mapError .kind then
    throw (.hunk .negativeStart)
  if ← (Value.eitherBelowZero numbers.oldCount numbers.newCount).mapError .kind then
    throw (.hunk .negativeCount)
  let number := fun value : Value => value.whole?.getD 0
  let hunk ← (Hunk.ofIntegers (number numbers.oldStart) (number numbers.oldCount)
    (number numbers.newStart) (number numbers.newCount)
    (lines.map fun line => ⟨line.1, line.2.toText⟩) (delimiters.map Value.toText)).mapError .hunk
  return { hunk, numbers, contents := lines.map Prod.snd, delimiters }

def header (described : Described) : String := described.numbers.header

def rawLines (described : Described) : Except KindError (List String) :=
  match described.contents.find? fun content => content.text?.isNone with
  | some content => .error (.notAppendable content.typeName)
  | none => .ok described.hunk.rawLines

/-- Trimming counts the lines anew, so that nothing is left of the numbers as they were given. -/
def trim (described : Described) : Except Malformed Described :=
  match described.hunk.trim with
  | .error _ => .error (.noEdits described.header)
  | .ok hunk =>
    let kept := fun values : List Value =>
      (values.drop (described.hunk.firstEdit?.getD 0)).take hunk.lines.length
    .ok { hunk, contents := kept described.contents, delimiters := kept described.delimiters }

def inOrder (hunks : List Described) : List Described :=
  hunks.mergeSort fun a b => a.hunk.new.start ≤ b.hunk.new.start

def add (file : List String) (merge : Merge × Described) (next : Described) : Merge × Described :=
  let gap := merge.1.gap file next.hunk
  let added := merge.1.add file next.hunk
  (added,
    { hunk := added.hunk
      numbers := { Numbers.ofHunk added.hunk with
        oldStart := merge.2.numbers.oldStart
        newStart := merge.2.numbers.newStart }
      contents := merge.2.contents ++ gap.map .text ++ next.contents
      delimiters := merge.2.delimiters ++ gap.map (fun _ => .text "\n") ++ next.delimiters })

/-- One hunk for all of some hunks. It starts where the first one does; the counts of a single hunk
stay as they were given. The text is not looked at if there is no hunk. -/
def merge (text : Value) (hunks : List Described) : Except DescriptionError Described := do
  match inOrder hunks with
  | [] => throw (.merge .noHunks)
  | first :: rest =>
    let text ← (text.asText "split").mapError .kind
    (hunks.forM fun described => described.numbers.toCut).mapError .kind
    let merged := (rest.foldl (add (Text.fileLines text)) (.start first.hunk, first)).2
    if merged.hunk.isWritable then return merged else throw (.merge .unwritable)

end Described

end ReviewContext.Diff
