import ReviewContext.Diff.Malformed

/-! Trimming: a hunk without the context before its first edit and after its last. -/
namespace ReviewContext.Diff

inductive TrimError
  | malformed (fault : Malformed)
  | unwritable
deriving DecidableEq, Repr

def TrimError.message : TrimError → String
  | .malformed fault => fault.message
  | .unwritable => Text.unwritableMessage

namespace Hunk

/-- The lines before the first edit are context, so both starts move past them. -/
def restrict (hunk : Hunk) (first last : Nat) : Hunk :=
  ({ old := ⟨hunk.old.start + first, 0⟩
     new := ⟨hunk.new.start + first, 0⟩
     lines := (hunk.lines.drop first).take (last + 1 - first)
     delimiters := (hunk.delimiters.drop first).take (last + 1 - first) } : Hunk).recounted

def trim (hunk : Hunk) : Except Malformed Hunk :=
  match hunk.firstEdit?, hunk.lastEdit? with
  | some first, some last => .ok (hunk.restrict first last)
  | _, _ => .error (.noEdits hunk.header)

def trimNamed (hunk : Hunk) : Except TrimError Hunk :=
  hunk.trim.mapError fun fault => if hunk.isWritable then .malformed fault else .unwritable

/-- The new-file lines of a trimmed hunk; one that only removes is taken for the line it stands
at. -/
def span (trimmed : Hunk) : Nat × Nat :=
  (trimmed.new.start, trimmed.new.start + max trimmed.new.count 1 - 1)

end Hunk

end ReviewContext.Diff
