import ReviewContext.Diff.Described
import ReviewContext.Excerpt
import ReviewContext.Margin
import ReviewContext.Review.Service
import ReviewContext.Scope.Described

/-! What is shown of hunks and scopes as callers describe them: they go by their numbers as these
were given. -/
namespace ReviewContext

namespace Excerpt

/-- The excerpt of a described scope. The text is looked at once the hunk is known to have edits. -/
def ofDescribed (file : Value) (scope : DescribedScope) (hunk : Diff.Described) :
    Except ExcerptError (List String) := do
  if hunk.hunk.isWritable then
    let _ ← hunk.trim.mapError .malformed
  let text ← (file.asText "split").mapError .kind
  (Value.toCut [scope.first, scope.last]).mapError .kind
  hunk.numbers.toCut.mapError .kind
  let shown ← namedLines text scope.scope hunk.hunk hunk.header scope.key
  let _ ← ((← hunk.trim.mapError .malformed).rawLines).mapError .kind
  return shown

end Excerpt

namespace Margin

def expandDescribed (margin : Margin) (oldText : Value) (hunk : Diff.Described) :
    Except MarginError String := do
  let text ← (oldText.asText "split").mapError .kind
  hunk.numbers.toCut.mapError .kind
  let shown ← margin.expand text hunk.hunk hunk.header
  let _ ← hunk.rawLines.mapError .kind
  return shown

end Margin

def realSpan (start : Real) (hunk : Diff.Hunk) : Real × Real :=
  let first := start.add (.ofInt (hunk.firstEdit?.getD 0))
  let count := ((hunk.trim.toOption.map fun trimmed => trimmed.new.count).getD 0)
  (first, (first.add (.ofInt (max count 1))).sub (.ofInt 1))

def searchDescribed (lastLine : Nat) (margin : SearchMargin) (find : Finder)
    (hunk : Diff.Described) : Search :=
  match hunk.trim, hunk.numbers.newStart with
  | .error fault, _ => ⟨[], .error (if hunk.hunk.isWritable then .malformed fault else .unwritable)⟩
  | .ok _, .real start =>
    match Window.aroundReal lastLine margin.toReal (realSpan start hunk.hunk) with
    | .error error => ⟨[], .error error⟩
    | .ok window => window.search find
  | .ok _, _ => searchHunk lastLine margin find hunk.hunk

def scopesOfDescribed (lastLine : Nat) (margin : SearchMargin) (find : Finder)
    (hunks : List Diff.Described) :
    Except LookupError (List (Option Scope)) :=
  hunks.mapM fun hunk => do
    let scope ← (searchDescribed lastLine margin find hunk).scope
    if hunk.hunk.isWritable && scope.all Scope.isWritable then return scope else throw .unwritable

/-- Whether the text of a file is valid code. The text is looked at only if the language of the file
is known. -/
def Service.checkDescribed {G : Type} (service : Service) (tools : Syntax.Toolchain G)
    (filename text : Value) (cache : Syntax.GrammarCache G) :
    Except CheckError Syntax.Validity × Syntax.GrammarCache G :=
  match filename.asText "rsplit" with
  | .error error => (.error (.kind error), cache)
  | .ok filename =>
    match text.asText "encode",
      Syntax.Language.detect filename (some service.config.parsers.languages) with
    | .ok text, _ => service.checkValidity tools filename text cache
    | .error error, .ok (some _) => (.error (.kind error), cache)
    | .error _, _ => service.checkValidity tools filename "" cache

def Diff.describedName (old new : Value) : Value := if new.isTruthy then new else old

end ReviewContext
