import ReviewContext.Diff.Line
import ReviewContext.Text.Writable

/-! Hunks: a stretch of the old file beside the stretch of the new file that took its place. -/
namespace ReviewContext.Diff

structure Counts where
  old : Nat
  new : Nat
deriving DecidableEq, Repr

structure Extent where
  start : Nat
  count : Nat
deriving DecidableEq, Repr

structure Hunk where
  old : Extent
  new : Extent
  lines : List Line := []
  delimiters : List String := []
deriving DecidableEq, Repr

inductive HunkError
  | negativeStart
  | negativeCount
deriving DecidableEq, Repr

def HunkError.message : HunkError → String
  | .negativeStart => "Line numbers must be non-negative"
  | .negativeCount => "Line counts must be non-negative"

def Counts.ofLines (lines : List Line) : Counts :=
  ⟨lines.countP Line.inOld, lines.countP Line.inNew⟩

def Counts.add (counts : Counts) (line : Line) : Counts :=
  ⟨counts.old + line.inOld.toNat, counts.new + line.inNew.toNat⟩

namespace Hunk

def ofIntegers (oldStart oldCount newStart newCount : Int) (lines : List Line)
    (delimiters : List String) : Except HunkError Hunk :=
  if oldStart < 0 ∨ newStart < 0 then .error .negativeStart
  else if oldCount < 0 ∨ newCount < 0 then .error .negativeCount
  else .ok ⟨⟨oldStart.toNat, oldCount.toNat⟩, ⟨newStart.toNat, newCount.toNat⟩, lines, delimiters⟩

def header (hunk : Hunk) : String :=
  "@@ -" ++ toString hunk.old.start ++ "," ++ toString hunk.old.count
    ++ " +" ++ toString hunk.new.start ++ "," ++ toString hunk.new.count ++ " @@"

def isWritable (hunk : Hunk) : Bool :=
  [hunk.old.start, hunk.old.count, hunk.new.start, hunk.new.count].all fun n => Text.isWritable n

def rawLines (hunk : Hunk) : List String := hunk.lines.map Line.raw

def counted (hunk : Hunk) : Counts := .ofLines hunk.lines

def declared (hunk : Hunk) : Counts := ⟨hunk.old.count, hunk.new.count⟩

def edits (hunk : Hunk) : List Line := hunk.lines.filter Line.isEdit

def hasEdits (hunk : Hunk) : Bool := hunk.lines.any Line.isEdit

def firstEdit? (hunk : Hunk) : Option Nat := hunk.lines.findIdx? Line.isEdit

def lastEdit? (hunk : Hunk) : Option Nat :=
  (hunk.lines.reverse.findIdx? Line.isEdit).map (hunk.lines.length - 1 - ·)

def addedCount (hunk : Hunk) : Nat := hunk.lines.countP fun line => line.kind == .added

def removedCount (hunk : Hunk) : Nat := hunk.lines.countP fun line => line.kind == .removed

def oldContents (hunk : Hunk) : List String := (hunk.lines.filter Line.inOld).map Line.content

def newContents (hunk : Hunk) : List String := (hunk.lines.filter Line.inNew).map Line.content

def recounted (hunk : Hunk) : Hunk :=
  { hunk with old.count := hunk.counted.old, new.count := hunk.counted.new }

theorem length_oldContents (hunk : Hunk) : hunk.oldContents.length = hunk.counted.old := by
  simp [oldContents, counted, Counts.ofLines, List.countP_eq_length_filter]

theorem length_newContents (hunk : Hunk) : hunk.newContents.length = hunk.counted.new := by
  simp [newContents, counted, Counts.ofLines, List.countP_eq_length_filter]

end Hunk

end ReviewContext.Diff
