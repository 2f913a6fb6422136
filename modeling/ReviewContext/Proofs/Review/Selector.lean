import ReviewContext.Proofs.Outcome
import ReviewContext.Review.Selector

/-! Selectors: what is shown of a file, and that a strategy other than the first choice is told with
a reason. -/
namespace ReviewContext

open Syntax (Language Toolchain GrammarCache)

structure ShowsPatch (file : ChangedFile) (context : FileContext) : Prop where
  strategy : context.strategy = .raw
  content : context.content = FileContext.heading file.filename ++ file.patch.toText
  scopeBlocks : context.scopeBlocks = 0
  fallbackBlocks : context.fallbackBlocks = 0

/-- All hunks of the patch are shown between margins, as if nothing else had been tried. -/
structure ShowsHunks (selector : Selector) (file : ChangedFile) (context : FileContext)
    (hunks : List Diff.Hunk) (blocks : List String) : Prop where
  strategy : context.strategy = .expanded
  read : Selector.hunksOf file = .ok hunks
  expanded : selector.expansions file hunks = .ok blocks
  content : context.content = FileContext.heading file.filename ++ "\n\n".intercalate blocks
  alone : (selector.expandedPatch file).map FileContext.content = .ok context.content
  scopeBlocks : context.scopeBlocks = 0
  fallbackBlocks : context.fallbackBlocks = hunks.length

/-- The scopes of a grouping are shown, and then its loose hunks between margins. -/
structure ShowsScopes (selector : Selector) (file : ChangedFile) (context : FileContext)
    (text : String) (grouping : Grouping Diff.Hunk) (scopes margins : List String) : Prop where
  strategy : context.strategy = .scope
  excerpts : grouping.buckets.mapM (Selector.excerpt text) = .ok scopes
  expanded : selector.expansions file grouping.loose = .ok margins
  content : context.content =
    FileContext.heading file.filename ++ "\n\n".intercalate (scopes ++ margins)
  scopeBlocks : context.scopeBlocks = scopes.length
  fallbackBlocks : context.fallbackBlocks = margins.length

theorem startsWith_append (lead rest : String) : Text.startsWith (lead ++ rest) lead = true := by
  rw [Text.startsWith, String.toList_append, List.isPrefixOf_iff_prefix]
  exact List.prefix_append ..

theorem ShowsPatch.withError {file : ChangedFile} {context : FileContext}
    (shows : ShowsPatch file context) (error : Option String) :
    ShowsPatch file { context with error } :=
  ⟨shows.strategy, shows.content, shows.scopeBlocks, shows.fallbackBlocks⟩

theorem ShowsHunks.withError {selector : Selector} {file : ChangedFile} {context : FileContext}
    {hunks : List Diff.Hunk} {blocks : List String}
    (shows : ShowsHunks selector file context hunks blocks) (error : Option String) :
    ShowsHunks selector file { context with error } hunks blocks :=
  ⟨shows.strategy, shows.read, shows.expanded, shows.content, shows.alone, shows.scopeBlocks,
    shows.fallbackBlocks⟩

namespace Selector

variable {G : Type} {selector : Selector} {file : ChangedFile} {context : FileContext}

theorem contextOf_eq_ok {strategy : Strategy} {content : String}
    (made : selector.contextOf file strategy content = .ok context) :
    ∃ tokens, context = ⟨file.filename, strategy, content, 0, 0, tokens, none⟩ := by
  obtain ⟨tokens, -, rfl⟩ := Outcome.map_eq_ok_iff.mp made
  exact ⟨tokens, rfl⟩

theorem ofBlocks_eq_ok {strategy : Strategy} {scopeBlocks fallbackBlocks : List String}
    (made : selector.ofBlocks file strategy scopeBlocks fallbackBlocks = .ok context) :
    ∃ tokens, context = ⟨file.filename, strategy,
      FileContext.heading file.filename ++ "\n\n".intercalate (scopeBlocks ++ fallbackBlocks),
      scopeBlocks.length, fallbackBlocks.length, tokens, none⟩ := by
  obtain ⟨plain, base, rfl⟩ := Outcome.map_eq_ok_iff.mp made
  obtain ⟨tokens, rfl⟩ := contextOf_eq_ok base
  exact ⟨tokens, rfl⟩

theorem rawPatchBecause_eq_ok {reason : String}
    (made : selector.rawPatchBecause file reason = .ok context) :
    ShowsPatch file context ∧ context.error = some reason := by
  obtain ⟨plain, base, rfl⟩ := Outcome.map_eq_ok_iff.mp made
  obtain ⟨tokens, rfl⟩ := contextOf_eq_ok base
  exact ⟨⟨rfl, rfl, rfl, rfl⟩, rfl⟩

theorem length_expansions {hunks : List Diff.Hunk} {blocks : List String}
    (made : selector.expansions file hunks = .ok blocks) : blocks.length = hunks.length :=
  (Outcome.mapM_eq_ok_iff.mp made).length_eq.symm

theorem expandedPatch_eq_ok (made : selector.expandedPatch file = .ok context) :
    ((∃ hunks blocks, ShowsHunks selector file context hunks blocks) ∧ context.error = none) ∨
      (ShowsPatch file context ∧ ∃ reason, context.error = some reason) := by
  have alone : (selector.expandedPatch file).map FileContext.content = .ok context.content := by
    rw [made]
    rfl
  unfold expandedPatch at made
  split at made
  next fault _ =>
    obtain ⟨shows, told⟩ := rawPatchBecause_eq_ok made
    exact .inr ⟨shows, _, told⟩
  next => contradiction
  next hunks read =>
    obtain ⟨blocks, expanded, base⟩ := Outcome.bind_eq_ok_iff.mp made
    obtain ⟨tokens, rfl⟩ := ofBlocks_eq_ok base
    exact .inl ⟨⟨hunks, blocks, rfl, read, expanded, rfl, alone, rfl, length_expansions expanded⟩,
      rfl⟩

def ShownByScopes (selector : Selector) (tools : Toolchain G) (cache : GrammarCache G)
    (language : Language) (file : ChangedFile) (context : FileContext) : Prop :=
  ∃ hunks margin text grouping scopes margins, selector.readFile file = .ok (hunks, margin, text) ∧
    Grouping.ofHunks text margin (selector.finder tools language text cache).1 hunks =
      .ok grouping ∧
    ShowsScopes selector file context text grouping scopes margins

theorem scopeContext_eq_ok {tools : Toolchain G} {language : Language}
    {cache after : GrammarCache G}
    (made : selector.scopeContext tools language file cache = (.ok context, after)) :
    ShownByScopes selector tools cache language file context ∧ context.error = none := by
  unfold scopeContext at made
  split at made
  next => simp at made
  next hunks margin text read =>
    simp only [Prod.mk.injEq] at made
    obtain ⟨grouping, grouped, shown⟩ := Outcome.bind_eq_ok_iff.mp made.1
    obtain ⟨scopes, excerpts, rest⟩ := Outcome.bind_eq_ok_iff.mp shown
    obtain ⟨margins, expanded, base⟩ := Outcome.bind_eq_ok_iff.mp rest
    obtain ⟨tokens, rfl⟩ := ofBlocks_eq_ok base
    exact ⟨⟨hunks, margin, text, grouping, scopes, margins, read,
      Outcome.mapError_eq_ok_iff.mp grouped, rfl, excerpts, expanded, rfl, rfl, rfl⟩, rfl⟩

/-- What is shown of a file, and that it is told if that is not what its language asks for. -/
inductive Shown (selector : Selector) (tools : Toolchain G) (cache : GrammarCache G)
    (file : ChangedFile) (context : FileContext) : Option Language → Prop
  | scopes {language : Language} : ShownByScopes selector tools cache language file context →
      context.error = none → Shown selector tools cache file context (some language)
  | hunks {hunks : List Diff.Hunk} {blocks : List String} {found : Option Language} :
      ShowsHunks selector file context hunks blocks → (context.error = none ↔ found = none) →
      Shown selector tools cache file context found
  | patch {found : Option Language} {reason : String} : ShowsPatch file context →
      context.error = some reason → Shown selector tools cache file context found

namespace Shown

variable {tools : Toolchain G} {cache : GrammarCache G} {found : Option Language}

theorem startsWith_heading (shown : Shown selector tools cache file context found) :
    Text.startsWith context.content (FileContext.heading file.filename) = true := by
  cases shown with
  | scopes shows quiet =>
    obtain ⟨hunks, margin, text, grouping, scopes, margins, -, -, shows⟩ := shows
    rw [shows.content]
    exact startsWith_append ..
  | hunks shows told =>
    rw [shows.content]
    exact startsWith_append ..
  | patch shows told =>
    rw [shows.content]
    exact startsWith_append ..

theorem strategy_of_scopes {language : Language}
    (shows : ShownByScopes selector tools cache language file context) :
    context.strategy = .scope := by
  obtain ⟨hunks, margin, text, grouping, scopes, margins, -, -, shows⟩ := shows
  exact shows.strategy

theorem of_raw (shown : Shown selector tools cache file context found)
    (raw : context.strategy = .raw) :
    ShowsPatch file context := by
  cases shown with
  | scopes shows => simp [strategy_of_scopes shows] at raw
  | hunks shows => simp [shows.strategy] at raw
  | patch shows => exact shows

theorem of_expanded (shown : Shown selector tools cache file context found)
    (expanded : context.strategy = .expanded) :
    ∃ hunks blocks, ShowsHunks selector file context hunks blocks := by
  cases shown with
  | scopes shows => simp [strategy_of_scopes shows] at expanded
  | hunks shows => exact ⟨_, _, shows⟩
  | patch shows => simp [shows.strategy] at expanded

theorem of_scope (shown : Shown selector tools cache file context found)
    (scope : context.strategy = .scope) :
    ∃ language, found = some language ∧
      ShownByScopes selector tools cache language file context := by
  cases shown with
  | scopes shows => exact ⟨_, rfl, shows⟩
  | hunks shows => simp [shows.strategy] at scope
  | patch shows => simp [shows.strategy] at scope

theorem scope_iff {language : Language}
    (shown : Shown selector tools cache file context (some language)) :
    context.strategy = .scope ↔ context.error = none := by
  cases shown with
  | scopes shows quiet => simp [strategy_of_scopes shows, quiet]
  | hunks shows told => simp [shows.strategy, told]
  | patch shows told => simp [shows.strategy, told]

theorem expanded_iff (shown : Shown selector tools cache file context none) :
    context.strategy ≠ .scope ∧ (context.strategy = .expanded ↔ context.error = none) := by
  cases shown with
  | hunks shows told => simp [shows.strategy, told]
  | patch shows told => simp [shows.strategy, told]

end Shown

theorem smarterContext_eq_ok {tools : Toolchain G} {cache after : GrammarCache G}
    {found : Option Language}
    (detected : Language.detect file.filename (selector.enabled.map Value.list) = .ok found)
    (made : selector.smarterContext tools file cache = (.ok context, after)) :
    Shown selector tools cache file context found := by
  rw [smarterContext, detected] at made
  cases found with
  | none =>
    rw [Prod.mk.injEq] at made
    rcases expandedPatch_eq_ok made.1 with ⟨⟨hunks, blocks, shows⟩, quiet⟩ | ⟨shows, reason, told⟩
    · exact .hunks shows ⟨fun _ => rfl, fun _ => quiet⟩
    · exact .patch shows told
  | some language =>
    dsimp only at made
    split at made
    next other left shown =>
      obtain ⟨same, rfl⟩ := Prod.mk.inj made
      obtain rfl := Except.ok.inj same
      obtain ⟨scopes, quiet⟩ := scopeContext_eq_ok shown
      exact .scopes scopes quiet
    next error left failed =>
      obtain ⟨plain, base, rfl⟩ := Outcome.map_eq_ok_iff.mp (Prod.mk.inj made).1
      rcases expandedPatch_eq_ok base with ⟨⟨hunks, blocks, shows⟩, -⟩ | ⟨shows, -⟩
      · exact .hunks (shows.withError _) ⟨nofun, nofun⟩
      · exact .patch (shows.withError _) rfl

theorem exists_shown (counts : ∀ text, ∃ tokens, selector.estimateTokens text = .ok tokens)
    (tools : Toolchain G) (file : ChangedFile) (cache : GrammarCache G) {found : Option Language}
    (detected : Language.detect file.filename (selector.enabled.map Value.list) = .ok found) :
    ∃ context, (selector.fileContext tools file cache).1 = .ok context ∧
      Shown selector tools cache file context found := by
  unfold fileContext
  split
  next context after made => exact ⟨context, rfl, smarterContext_eq_ok detected made⟩
  next error after failed =>
    obtain ⟨tokens, counted⟩ := counts (FileContext.heading file.filename ++ file.patch.toText)
    have made : ∃ context, selector.rawPatchBecause file error.message = .ok context := by
      rw [rawPatchBecause, rawPatch, contextOf, counted]
      exact ⟨_, rfl⟩
    obtain ⟨context, made⟩ := made
    obtain ⟨shows, told⟩ := rawPatchBecause_eq_ok made
    exact ⟨context, made, .patch shows told⟩

end Selector

end ReviewContext
