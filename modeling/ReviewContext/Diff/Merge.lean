import ReviewContext.Text.Slice
import ReviewContext.Diff.Hunk

/-! Merging: several hunks of one file as a single hunk without gaps. -/
namespace ReviewContext.Diff

inductive MergeError
  /-- There is no hunk to start from. -/
  | noHunks
  | unwritable
deriving DecidableEq, Repr

def MergeError.message : MergeError → String
  | .noHunks => "Overlapping hunks are empty, this should never happen."
  | .unwritable => Text.unwritableMessage

/-- Hunks in the order of the new file; those that start together keep their order. -/
def byNewStart (hunks : List Hunk) : List Hunk :=
  hunks.mergeSort fun a b => a.new.start ≤ b.new.start

def Hunk.extend (hunk : Hunk) (counts : Counts) (lines : List Line)
    (delimiters : List String) : Hunk :=
  { old := ⟨hunk.old.start, hunk.old.count + counts.old⟩
    new := ⟨hunk.new.start, hunk.new.count + counts.new⟩
    lines := hunk.lines ++ lines
    delimiters := hunk.delimiters ++ delimiters }

/-- A hunk under construction and the new-file line where the next one may follow it without a
gap. -/
structure Merge where
  hunk : Hunk
  reach : Nat

namespace Merge

def start (hunk : Hunk) : Merge := ⟨hunk, hunk.new.start + hunk.new.count⟩

/-- Unchanged lines of the new file between the hunk and the next one; they stand on both sides. -/
def gap (file : List String) (merge : Merge) (next : Hunk) : List String :=
  if merge.reach < next.new.start then
    Text.slice file ((merge.reach : Int) - 1) ((next.new.start : Int) - 1)
  else []

def add (file : List String) (merge : Merge) (next : Hunk) : Merge :=
  let gap := merge.gap file next
  { hunk := (merge.hunk.extend ⟨gap.length, gap.length⟩ (gap.map Line.unchanged)
        (gap.map fun _ => "\n")).extend next.declared next.lines next.delimiters
    reach := max merge.reach (next.new.start + next.new.count) }

end Merge

def merge (text : String) (hunks : List Hunk) : Except MergeError Hunk :=
  match byNewStart hunks with
  | [] => .error .noHunks
  | first :: rest => .ok (rest.foldl (Merge.add (Text.fileLines text)) (.start first)).hunk

/-- Merges hunks; the result is known by its header. -/
def mergeNamed (text : String) (hunks : List Hunk) : Except MergeError Hunk := do
  let hunk ← merge text hunks
  if hunk.isWritable then return hunk else throw .unwritable

end ReviewContext.Diff
