import ReviewContext.Scope.Basic

/-! Groupings: things bucketed by the scopes they lie in. No scope of a bucket lies in that of
another, since a scope that holds some takes their things over. -/
namespace ReviewContext

structure Bucket (α : Type) where
  scope : Scope
  items : List α

/-- Buckets in the order of their first things, and the things without a scope. -/
structure Grouping (α : Type) where
  buckets : List (Bucket α) := []
  loose : List α := []

namespace Grouping

variable {α : Type}

def join? (scope : Scope) (item : α) : List (Bucket α) → Option (List (Bucket α))
  | [] => none
  | bucket :: rest =>
    if bucket.scope.contains scope then
      some ({ bucket with items := bucket.items ++ [item] } :: rest)
    else (join? scope item rest).map (bucket :: ·)

/-- Opens a bucket in the place of the first one that its scope holds, and takes over the things of
all that it holds; if it holds none it comes last. -/
def absorb (scope : Scope) (item : α) (buckets : List (Bucket α)) : List (Bucket α) :=
  let apart := fun bucket : Bucket α => !scope.contains bucket.scope
  let inner := buckets.filter fun bucket => scope.contains bucket.scope
  buckets.takeWhile apart
    ++ ⟨scope, inner.flatMap Bucket.items ++ [item]⟩ :: (buckets.dropWhile apart).filter apart

def add (grouping : Grouping α) (item : α) : Option Scope → Grouping α
  | none => { grouping with loose := grouping.loose ++ [item] }
  | some scope =>
    { grouping with
      buckets := (join? scope item grouping.buckets).getD (absorb scope item grouping.buckets) }

def ofScopes (things : List (α × Option Scope)) : Grouping α :=
  things.foldl (fun grouping thing => grouping.add thing.1 thing.2) {}

def keys (grouping : Grouping α) : List String :=
  grouping.buckets.map fun bucket => bucket.scope.key

end Grouping

end ReviewContext
