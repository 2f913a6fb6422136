import Mathlib.Algebra.Order.Ring.Int
import ReviewContext.Proofs.Review.Service
import ReviewContext.Proofs.Syntax.GrammarCache

/-! Batches: each file of a batch is shown as it would be alone, whatever grammars other files have
left behind, and what batches come to adds up. -/
namespace ReviewContext

open Syntax (Language Toolchain GrammarCache Source)

namespace Selector

variable {G : Type} {tools : Toolchain G} {cache : GrammarCache G}

end Selector

instance : AddMonoid TokenCount where
  add_assoc a b c := by
    cases a <;> cases b <;> cases c <;> first | rfl | exact congrArg TokenCount.known (add_assoc ..)
  zero_add a := by cases a <;> first | rfl | exact congrArg TokenCount.known (zero_add _)
  add_zero a := by cases a <;> first | rfl | exact congrArg TokenCount.known (add_zero _)
  nsmul := nsmulRec

namespace Summary

structure Counts (summary : Summary) (contexts : List FileContext) : Prop where
  files : summary.files = contexts.length
  scope : summary.scope = contexts.countP fun context => context.strategy = .scope
  expanded : summary.expanded = contexts.countP fun context => context.strategy = .expanded
  raw : summary.raw = contexts.countP fun context => context.strategy = .raw
  strategies : summary.scope + summary.expanded + summary.raw = summary.files
  scopeBlocks : summary.scopeBlocks = (contexts.map FileContext.scopeBlocks).sum
  fallbackBlocks : summary.fallbackBlocks = (contexts.map FileContext.fallbackBlocks).sum
  estimatedTokens : summary.estimatedTokens = (contexts.map FileContext.estimatedTokens).sum
  withErrors : summary.withErrors = (contexts.filter hasError).map FileContext.filename

theorem Counts.append {a b : Summary} {contexts more : List FileContext} (first : a.Counts contexts)
    (second : b.Counts more) : (a.append b).Counts (contexts ++ more) where
  files := by simp [Summary.append, first.files, second.files]
  scope := by simp [Summary.append, first.scope, second.scope]
  expanded := by simp [Summary.append, first.expanded, second.expanded]
  raw := by simp [Summary.append, first.raw, second.raw]
  strategies := by
    have := first.strategies
    have := second.strategies
    dsimp only [Summary.append]
    omega
  scopeBlocks := by simp [Summary.append, first.scopeBlocks, second.scopeBlocks]
  fallbackBlocks := by simp [Summary.append, first.fallbackBlocks, second.fallbackBlocks]
  estimatedTokens := by simp [Summary.append, first.estimatedTokens, second.estimatedTokens]
  withErrors := by simp [Summary.append, first.withErrors, second.withErrors]

theorem append_assoc (a b c : Summary) : (a.append b).append c = a.append (b.append c) := by
  simp [append, add_assoc]

end Summary

section Batches

variable {G : Type} {selector : Selector} {workers : Value} {reader : RequestReader}
  {tools : Toolchain G} {cache : GrammarCache G}

/-- What is shown of the file that an item makes, if nothing else is asked for and no grammar is
loaded yet. -/
def Submission.ShownAlone (selector : Selector) (reader : RequestReader) (tools : Toolchain G)
    (item : Submission) (context : FileContext) : Prop :=
  ∃ file, item.toFile reader = .ok file ∧
    (selector.fileContext tools file .empty).1 = .ok context

/-- How a batch ends: with what is shown of each item alone and a summary of that, or with the error
of the first item that makes no file. -/
inductive BatchResult.Ends (selector : Selector) (reader : RequestReader) (tools : Toolchain G)
    (items : List Submission) : BatchResult → Prop
  | completed {contexts : List FileContext} {summary : Summary}
      (alone : List.Forall₂ (Submission.ShownAlone selector reader tools) items contexts)
      (counts : summary.Counts contexts) :
      Ends selector reader tools items (.completed contexts summary)
  | failed {before after : List Submission} {item : Submission} {error : RequestError}
      (split : items = before ++ item :: after)
      (earlier : ∀ other ∈ before, ∃ file, other.toFile reader = .ok file)
      (fault : item.toFile reader = .error error) :
      Ends selector reader tools items (.failed (.request error))

namespace BatchResult.Ends

variable {items : List Submission} {result : BatchResult}

end BatchResult.Ends

end Batches

end ReviewContext
