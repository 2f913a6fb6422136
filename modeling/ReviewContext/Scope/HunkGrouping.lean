import ReviewContext.Scope.Grouping
import ReviewContext.Scope.Window

/-! Hunks bucketed by scope. -/
namespace ReviewContext

/-- The grouping of the hunks of a text by the scopes found for them. -/
def Grouping.ofHunks (text : String) (margin : SearchMargin) (find : Finder)
    (hunks : List Diff.Hunk) :
    Except LookupError (Grouping Diff.Hunk) :=
  (scopesOfHunks text margin find hunks).map fun scopes => .ofScopes (hunks.zip scopes)

end ReviewContext
