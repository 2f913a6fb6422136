import ReviewContext.Diff.Header
import ReviewContext.Diff.Row

/-! Patches: the hunks of one file with the names the diff gives it. -/
namespace ReviewContext.Diff

structure Patch where
  oldName : Option String := none
  newName : Option String := none
  oldHeader : Option String := none
  newHeader : Option String := none
  hunks : List Hunk := []
deriving DecidableEq, Repr

/-- The new name of the file, or the old one of a file that is gone. -/
def Patch.filename (patch : Patch) : Option String :=
  match patch.newName with
  | none | some "" => patch.oldName
  | some name => some name

inductive Item
  | file (names : Option (String × String))
  | names (old new : String)
  | hunk (hunk : Hunk)
deriving DecidableEq, Repr

namespace Patch

def named (patch : Patch) (old new : String) : Patch :=
  { patch with
    oldHeader := some old
    newHeader := some new
    oldName := (Header.pathName? old).or patch.oldName
    newName := (Header.pathName? new).or patch.newName }

def awaitsNames (patch : Patch) : Bool := patch.hunks.isEmpty && patch.oldHeader.isNone

/-- Takes one item into the patches read so far, the latest of them first. Name lines that come too
late for the latest patch open one of their own, as does a hunk without a patch. -/
def take (patches : List Patch) : Item → List Patch
  | .file names => { oldName := names.map Prod.fst, newName := names.map Prod.snd } :: patches
  | .names old new =>
    match patches with
    | current :: done =>
      if current.awaitsNames then current.named old new :: done
      else ({} : Patch).named old new :: patches
    | [] => [({} : Patch).named old new]
  | .hunk hunk =>
    match patches with
    | current :: done => { current with hunks := current.hunks ++ [hunk] } :: done
    | [] => [{ hunks := [hunk] }]

def ofItems (items : List Item) : List Patch := (items.foldl take []).reverse

end Patch

def allHunks (patches : List Patch) : List Hunk := patches.flatMap Patch.hunks

end ReviewContext.Diff
