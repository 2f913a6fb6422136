import ReviewContext.Review.Request
import ReviewContext.Review.Selector

/-! Batches: the files of a pull request shown one by one, with a summary. A batch is refused as a
whole if one of its files is none. -/
namespace ReviewContext

open Syntax (Toolchain GrammarCache)

structure Summary where
  files : Nat := 0
  scope : Nat := 0
  expanded : Nat := 0
  raw : Nat := 0
  scopeBlocks : Nat := 0
  fallbackBlocks : Nat := 0
  estimatedTokens : TokenCount := 0
  withErrors : List String := []
deriving DecidableEq, Repr

namespace Summary

def hasError (context : FileContext) : Bool := context.error.any (· ≠ "")

def ofContext (context : FileContext) : Summary :=
  { files := 1
    scope := (context.strategy == .scope).toNat
    expanded := (context.strategy == .expanded).toNat
    raw := (context.strategy == .raw).toNat
    scopeBlocks := context.scopeBlocks
    fallbackBlocks := context.fallbackBlocks
    estimatedTokens := context.estimatedTokens
    withErrors := if hasError context then [context.filename] else [] }

def append (a b : Summary) : Summary :=
  { files := a.files + b.files
    scope := a.scope + b.scope
    expanded := a.expanded + b.expanded
    raw := a.raw + b.raw
    scopeBlocks := a.scopeBlocks + b.scopeBlocks
    fallbackBlocks := a.fallbackBlocks + b.fallbackBlocks
    estimatedTokens := a.estimatedTokens + b.estimatedTokens
    withErrors := a.withErrors ++ b.withErrors }

def ofContexts (contexts : List FileContext) : Summary :=
  contexts.foldr (fun context rest => (ofContext context).append rest) {}

end Summary

inductive Submission
  | file (file : ChangedFile)
  | request (request : Request)
  | described (value : Value)

def Submission.toFile (reader : RequestReader) : Submission → Except RequestError ChangedFile
  | .file changed => .ok changed
  | .request asked => asked.toFile
  | .described value => do (← Request.ofValue reader value).toFile

/-- The contexts of some files, each built with the grammars that the files before it loaded. -/
def contextsOf {G : Type} (selector : Selector) (tools : Toolchain G) (files : List ChangedFile)
    (cache : GrammarCache G) : Except RenderError (List FileContext) × GrammarCache G :=
  match files with
  | [] => (.ok [], cache)
  | file :: rest =>
    let (context, cache) := selector.fileContext tools file cache
    let (contexts, cache) := contextsOf selector tools rest cache
    (context >>= fun context => contexts.map (context :: ·), cache)

inductive BatchError
  | request (error : RequestError)
  | kind (error : KindError)
  | noWorkers
  | render (error : RenderError)
deriving DecidableEq, Repr

def BatchError.message : BatchError → String
  | .request error => error.message
  | .kind error => error.message
  | .noWorkers => "max_workers must be greater than 0"
  | .render error => error.message

/-- Whether a pool that may have so many workers starts one for its first file. It does not if the
number is undefined, which is above nothing and yet not refused. -/
def startsWorker : Value → Except BatchError Bool
  | .null => .ok true
  | workers => do
    if ← workers.notAboveZero.mapError .kind then throw .noWorkers
    workers.aboveZero.mapError .kind

inductive BatchResult
  | completed (contexts : List FileContext) (summary : Summary)
  | failed (error : BatchError)

namespace BatchResult

def contexts : BatchResult → List FileContext
  | completed contexts _ => contexts
  | failed _ => []

def prompt (result : BatchResult) : String :=
  "\n\n".intercalate (result.contexts.map FileContext.content)

end BatchResult

/-- Builds the contexts of a batch in its order. There is no answer to files that no worker is
started for, as they are waited for without end. -/
def runBatch {G : Type} (selector : Selector) (workers : Value) (reader : RequestReader)
    (tools : Toolchain G) (items : List Submission) (cache : GrammarCache G) :
    Option BatchResult × GrammarCache G :=
  match items.mapM (Submission.toFile reader) with
  | .error error => (some (.failed (.request error)), cache)
  | .ok files =>
    match startsWorker workers with
    | .error error => (some (.failed error), cache)
    | .ok starts =>
      if !starts && !files.isEmpty then (none, cache)
      else
        match contextsOf selector tools files cache with
        | (.error error, cache) => (some (.failed (.render error)), cache)
        | (.ok contexts, cache) => (some (.completed contexts (.ofContexts contexts)), cache)

end ReviewContext
