import ReviewContext.Excerpt
import ReviewContext.Margin
import ReviewContext.Diff.Described
import ReviewContext.Diff.Parser
import ReviewContext.Review.ChangedFile
import ReviewContext.Review.FileContext
import ReviewContext.Scope.HunkGrouping
import ReviewContext.Syntax.Language

/-! Choosing how a file is shown: its scopes if its language is known, else its hunks between
margins, and if its patch cannot be read the patch itself. A file is shown in one way as a whole. -/
namespace ReviewContext

open Syntax (Language Toolchain GrammarCache GrammarStore Source)

/-- How files are shown. The margin for scopes, the languages and the length of a token are values
of any kind until they are needed. -/
structure Selector where
  searchMargin : Value := .int 50
  margin : Margin := .standard
  enabled : Option (List Value) := none
  charsPerToken : Value := .int 4
  grammars : GrammarStore := .memo

inductive RenderError
  | read (error : Diff.ReadError)
  | window (error : WindowError)
  | lookup (error : LookupError)
  | merge (error : Diff.MergeError)
  | excerpt (error : ExcerptError)
  | margin (error : MarginError)
  | kind (error : KindError)
deriving DecidableEq, Repr

namespace RenderError

def message : RenderError → String
  | read error => error.message
  | window error => error.message
  | lookup error => error.message
  | merge error => error.message
  | excerpt error => error.message
  | margin error => error.message
  | kind error => error.message

/-- A fault of the patch or of the parser, which a file may well have. -/
def isExpected : RenderError → Bool
  | read (.malformed _) | excerpt (.malformed _) => true
  | lookup (.malformed _) | lookup (.unparsed _) => true
  | _ => false

def report (error : RenderError) (filename : String) : String :=
  if error.isExpected then error.message
  else "Scope context failed for " ++ filename ++ ": " ++ error.message

end RenderError

namespace Selector

variable {G : Type}

/-- A text is taken to have a token for each so many characters, of which one is the least. -/
def estimateTokens (selector : Selector) (text : String) : Except RenderError TokenCount :=
  let length : Int := text.length
  match selector.charsPerToken with
  | .real size =>
    .ok (if size.isBelow (Real.ofInt 1) then .known length
      else (size.floorQuotient? text.length).elim .undefined .known)
  | value =>
    match value.whole? with
    | some size => .ok (.known (Int.fdiv length (max size 1)))
    | none => .error (.kind (.notComparable ">" "int" value.typeName))

def contextOf (selector : Selector) (file : ChangedFile) (strategy : Strategy) (content : String) :
    Except RenderError FileContext :=
  (selector.estimateTokens content).map fun estimatedTokens =>
    { filename := file.filename, strategy, content, estimatedTokens }

def ofBlocks (selector : Selector) (file : ChangedFile) (strategy : Strategy)
    (scopeBlocks fallbackBlocks : List String) : Except RenderError FileContext :=
  let content :=
    FileContext.heading file.filename ++ "\n\n".intercalate (scopeBlocks ++ fallbackBlocks)
  (selector.contextOf file strategy content).map fun context =>
    { context with scopeBlocks := scopeBlocks.length, fallbackBlocks := fallbackBlocks.length }

def rawPatch (selector : Selector) (file : ChangedFile) : Except RenderError FileContext :=
  selector.contextOf file .raw (FileContext.heading file.filename ++ file.patch.toText)

def rawPatchBecause (selector : Selector) (file : ChangedFile) (reason : String) :
    Except RenderError FileContext :=
  (selector.rawPatch file).map fun context => { context with error := some reason }

def hunksOf (file : ChangedFile) : Except RenderError (List Diff.Hunk) := do
  let text ← (Diff.textOf file.patch).mapError .kind
  let patches ← (Diff.parse text).mapError .read
  return Diff.allHunks patches

def expansions (selector : Selector) (file : ChangedFile) (hunks : List Diff.Hunk) :
    Except RenderError (List String) :=
  hunks.mapM fun hunk => do
    let text ← (file.oldContents.asText "split").mapError .kind
    (selector.margin.expand text hunk).mapError .margin

/-- All hunks between margins, or the patch itself if it is malformed. -/
def expandedPatch (selector : Selector) (file : ChangedFile) : Except RenderError FileContext :=
  match hunksOf file with
  | .error (.read (.malformed fault)) => selector.rawPatchBecause file fault.message
  | .error error => .error error
  | .ok hunks => selector.expansions file hunks >>= selector.ofBlocks file .expanded []

def excerpt (text : String) (bucket : Bucket Diff.Hunk) : Except RenderError String := do
  let merged ← (Diff.mergeNamed text bucket.items).mapError .merge
  (Excerpt.text text bucket.scope merged).mapError .excerpt

def blocks (selector : Selector) (file : ChangedFile) (text : String)
    (grouping : Grouping Diff.Hunk) :
    Except RenderError FileContext := do
  let scopeBlocks ← grouping.buckets.mapM (excerpt text)
  let fallbackBlocks ← selector.expansions file grouping.loose
  selector.ofBlocks file .scope scopeBlocks fallbackBlocks

/-- The hunks of a file, the margin to look for their scopes in, and the text to look in. -/
def readFile (selector : Selector) (file : ChangedFile) :
    Except RenderError (List Diff.Hunk × SearchMargin × String) := do
  let hunks ← hunksOf file
  let margin ← (SearchMargin.ofValue selector.searchMargin).mapError .window
  let text ← (file.currentContents.asText "split").mapError .kind
  return (hunks, margin, text)

def finder (selector : Selector) (tools : Toolchain G) (language : Language) (text : String)
    (cache : GrammarCache G) : Finder × GrammarCache G :=
  let profile := language.profile
  match selector.grammars with
  | .memo =>
    let (source, cache) := Source.parse tools profile text cache
    (findScope profile source, cache)
  | .bare => (findScope profile (Source.parseBare tools profile text), cache)
  | .unusable error => (findNothing error, cache)

/-- The scopes of a file in a known language. The text is parsed only for a hunk with edits. -/
def scopeContext (selector : Selector) (tools : Toolchain G) (language : Language)
    (file : ChangedFile) (cache : GrammarCache G) :
    Except RenderError FileContext × GrammarCache G :=
  match selector.readFile file with
  | .error error => (.error error, cache)
  | .ok (hunks, margin, text) =>
    let (find, after) := selector.finder tools language text cache
    let grouping := Grouping.ofHunks text margin find hunks
    (grouping.mapError .lookup >>= selector.blocks file text,
      if hunks.any Diff.Hunk.hasEdits then after else cache)

/-- The best that can be shown of a file. What keeps its scopes from being shown is told with it. -/
def smarterContext (selector : Selector) (tools : Toolchain G) (file : ChangedFile)
    (cache : GrammarCache G) : Except RenderError FileContext × GrammarCache G :=
  match Language.detect file.filename (selector.enabled.map Value.list) with
  | .error error => (.error (.kind error), cache)
  | .ok none => (selector.expandedPatch file, cache)
  | .ok (some language) =>
    match selector.scopeContext tools language file cache with
    | (.ok context, cache) => (.ok context, cache)
    | (.error error, cache) =>
      ((selector.expandedPatch file).map fun context =>
        { context with error := some (error.report file.filename) }, cache)

/-- Something is shown of every file: the patch itself if nothing better can be. -/
def fileContext (selector : Selector) (tools : Toolchain G) (file : ChangedFile)
    (cache : GrammarCache G) : Except RenderError FileContext × GrammarCache G :=
  match selector.smarterContext tools file cache with
  | (.ok context, cache) => (.ok context, cache)
  | (.error error, cache) => (selector.rawPatchBecause file error.message, cache)

end Selector

end ReviewContext
