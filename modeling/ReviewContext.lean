import ReviewContext.Review.Described
import ReviewContext.Settings.ConfigFile
import ReviewContext.Proofs.Outcome
import ReviewContext.Proofs.Scope.Grouping
import ReviewContext.Proofs.Text.Decimal
import ReviewContext.Proofs.Scope.Key
import ReviewContext.Proofs.Scope.Outermost
import ReviewContext.Proofs.Diff.WrittenLine
import ReviewContext.Proofs.Diff.Rendering
import ReviewContext.Proofs.Diff.Body
import ReviewContext.Proofs.Diff.RenderedItems
import ReviewContext.Proofs.Diff.RoundTrip
import ReviewContext.Proofs.Diff.Merge
import ReviewContext.Proofs.Scope.Lookup
import ReviewContext.Proofs.Scope.Window
import ReviewContext.Proofs.Excerpt
import ReviewContext.Proofs.Review.Selector
import ReviewContext.Proofs.Review.Service
import ReviewContext.Proofs.Diff.BothSides
import ReviewContext.Proofs.Excerpt.Totality
import ReviewContext.Proofs.Scope.Discovery
import ReviewContext.Proofs.Scope.Tables
import ReviewContext.Proofs.Scope.Invariant
import ReviewContext.Proofs.Settings.Atomicity
import ReviewContext.Proofs.Settings.Composition
import ReviewContext.Proofs.Settings.LogFiles
import ReviewContext.Proofs.Settings.Creation
import ReviewContext.Proofs.Syntax.Nested
import ReviewContext.Proofs.Scope.Traversal
import ReviewContext.Proofs.Scope.Choice
import ReviewContext.Proofs.Diff.HunkRows
import ReviewContext.Proofs.Diff.Reading
import ReviewContext.Proofs.Diff.TextRows
import ReviewContext.Proofs.Diff.Accounting
import ReviewContext.Proofs.Diff.Refusal
import ReviewContext.Proofs.Diff.Edits
import ReviewContext.Proofs.Diff.WellFormed
import ReviewContext.Proofs.Excerpt.Splice
import ReviewContext.Proofs.Margin
import ReviewContext.Proofs.Review.Batch
import ReviewContext.Proofs.Review.Described
import ReviewContext.Proofs.Diff.Restriction
import ReviewContext.Proofs.Scope.Questions
import ReviewContext.Proofs.Scope.Widening
import ReviewContext.Proofs.Scope.Narrowing
import ReviewContext.Proofs.Syntax.Faults
import ReviewContext.Proofs.Syntax.LoaderRuns
import ReviewContext.Proofs.Diff.Noise
import ReviewContext.Proofs.Diff.TrimmedMerge
import ReviewContext.Proofs.Margin.Window
import ReviewContext.Proofs.Diff.Columns
import ReviewContext.Proofs.Scope.Order
