import ReviewContext.Diff.Trim
import ReviewContext.Kind
import ReviewContext.Scope.Basic

/-! Excerpts: the new-file lines of a scope with the edits of a hunk shown in their place. -/
namespace ReviewContext

inductive ExcerptError
  | malformed (fault : Diff.Malformed)
  | startsBefore (header key : String)
  | kind (error : KindError)
  | unwritable
deriving DecidableEq, Repr

def ExcerptError.message : ExcerptError → String
  | .malformed fault => fault.message
  | .startsBefore header key => "Edits of " ++ header ++ " start before scope " ++ key
  | .kind error => error.message
  | .unwritable => Text.unwritableMessage

namespace Excerpt

def replace (lines : List String) (position count : Nat) (shown : List String) : List String :=
  lines.take position ++ shown ++ lines.drop (position + count)

/-- The scope's lines with the trimmed hunk in place of the new-file lines it covers, under the
header of the whole hunk. -/
def lines (text : String) (scope : Scope) (hunk : Diff.Hunk) (header : String := hunk.header)
    (key : String := scope.key) : Except ExcerptError (List String) :=
  match hunk.trim with
  | .error fault => .error (.malformed fault)
  | .ok trimmed =>
    if trimmed.new.start < scope.first then .error (.startsBefore header key)
    else
      .ok (header :: replace (scope.linesOf (Text.fileLines text))
        (trimmed.new.start - scope.first) trimmed.new.count trimmed.rawLines)

/-- An excerpt is known by the header of its hunk, the key of its scope, and the place of its edits
in it. -/
def namedLines (text : String) (scope : Scope) (hunk : Diff.Hunk) (header : String := hunk.header)
    (key : String := scope.key) : Except ExcerptError (List String) :=
  match hunk.trim with
  | .error fault => .error (if hunk.isWritable then .malformed fault else .unwritable)
  | .ok trimmed =>
    if hunk.isWritable && scope.isWritable && Text.isWritable (trimmed.new.start - scope.first) then
      lines text scope hunk header key
    else .error .unwritable

def text (file : String) (scope : Scope) (hunk : Diff.Hunk) : Except ExcerptError String :=
  (namedLines file scope hunk).map Text.unlines

end Excerpt

end ReviewContext
