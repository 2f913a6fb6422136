import Mathlib.Data.List.Induction
import ReviewContext.Proofs.Syntax.GrammarCache
import ReviewContext.Proofs.Table

/-! Runs of a memo of grammars, with notes of the loaders that ran since it was last emptied: what
is kept under a name, what is counted and what a request gives are told by the loads of that name
alone. -/
namespace ReviewContext.Syntax

variable {G : Type}

inductive Operation (G : Type)
  | get (name displayName : String) (load : Except String (Option G))
  | isLoaded (name : String)
  | reset

def Operation.concerns (name : String) : Operation G → Bool
  | get other .. | isLoaded other => other == name
  | reset => true

inductive Answer (G : Type)
  | grammar (given : Except ParseFailure (Option G))
  | loaded (answer : Bool)
  | emptied

structure Load (G : Type) where
  name : String
  outcome : Except String (Option G)

def returned (loads : List (Load G)) (name : String) : List (Option G) :=
  loads.filterMap fun load => if load.name = name then load.outcome.toOption else none

def loadFailure (name displayName reason : String) : ParseFailure :=
  ⟨name, "Could not load " ++ displayName ++ " grammar: " ++ reason⟩

/-- A memo as two tables, one of grammars and one of how often each was loaded. -/
structure GrammarTables (G : Type) where
  grammars : Table (Option G) := []
  counts : Table Nat := []

namespace GrammarTables

def get (tables : GrammarTables G) (name displayName : String) (load : Except String (Option G)) :
    Except ParseFailure (Option G) × GrammarTables G :=
  match (tables.grammars.lookup name).join with
  | some grammar => (.ok (some grammar), tables)
  | none =>
    match load with
    | .ok grammar => (.ok grammar, ⟨tables.grammars.put name grammar,
        tables.counts.put name ((tables.counts.lookup name).getD 0 + 1)⟩)
    | .error reason => (.error (loadFailure name displayName reason), tables)

def step (tables : GrammarTables G) : Operation G → Answer G × GrammarTables G
  | .get name displayName load =>
    let (given, tables) := tables.get name displayName load
    (.grammar given, tables)
  | .isLoaded name => (.loaded (tables.grammars.keys.contains name), tables)
  | .reset => (.emptied, {})

def run (operations : List (Operation G)) : GrammarTables G :=
  operations.foldl (fun tables operation => (tables.step operation).2) {}

end GrammarTables

namespace GrammarCache

def step (cache : GrammarCache G) : Operation G → Answer G × GrammarCache G
  | .get name displayName load =>
    let (given, cache) := cache.get name displayName load
    (.grammar given, cache)
  | .isLoaded name => (.loaded (cache.isLoaded name), cache)
  | .reset => (.emptied, empty)

def run (operations : List (Operation G)) : GrammarCache G :=
  operations.foldl (fun cache operation => (cache.step operation).2) empty

def kept? (cache : GrammarCache G) (name : String) : Option G := (cache.find? name).bind Prod.fst

def getBy {m : Type → Type} [Monad m] (cache : GrammarCache G) (name displayName : String)
    (load : m (Except String (Option G))) : m (Except ParseFailure (Option G) × GrammarCache G) :=
  match cache.kept? name with
  | some grammar => return (.ok (some grammar), cache)
  | none => do
    match ← load with
    | .ok grammar => return (.ok grammar, cache.store name grammar)
    | .error reason => return (.error (loadFailure name displayName reason), cache)

/-- A loader that makes a note of its run. -/
def noted (name : String) (outcome : Except String (Option G)) :
    StateM (List (Load G)) (Except String (Option G)) := do
  modify (· ++ [⟨name, outcome⟩])
  return outcome

/-- A step with loaders that make notes; once the memo is emptied the notes begin anew. -/
def stepBy (cache : GrammarCache G) :
    Operation G → StateM (List (Load G)) (Answer G × GrammarCache G)
  | .get name displayName load => do
    let (given, cache) ← cache.getBy name displayName (noted name load)
    return (.grammar given, cache)
  | .isLoaded name => return (.loaded (cache.isLoaded name), cache)
  | .reset => do
    set ([] : List (Load G))
    return (.emptied, empty)

def runBy (operations : List (Operation G)) : GrammarCache G × List (Load G) :=
  operations.foldl (fun state operation =>
    let (outcome, loads) := (state.1.stepBy operation).run state.2
    (outcome.2, loads)) (empty, [])

/-- The loads of a run since the memo was last emptied. -/
def loads (operations : List (Operation G)) : List (Load G) := (runBy operations).2

def loadsWith (cache : GrammarCache G) (loads : List (Load G)) : Operation G → List (Load G)
  | .get name _ load => if (cache.kept? name).isSome then loads else loads ++ [⟨name, load⟩]
  | .isLoaded _ => loads
  | .reset => []

theorem get_of_kept {cache : GrammarCache G} {name : String} {grammar : G}
    (kept : cache.kept? name = some grammar) (displayName : String)
    (load : Except String (Option G)) :
    cache.get name displayName load = (.ok (some grammar), cache) := by
  obtain ⟨⟨own, count⟩, found, same⟩ := Option.bind_eq_some_iff.mp kept
  dsimp only at same
  subst same
  unfold get
  rw [found]

theorem get_of_none {cache : GrammarCache G} {name : String} (none_kept : cache.kept? name = none)
    (displayName : String) (load : Except String (Option G)) :
    cache.get name displayName load =
      match load with
      | .ok grammar => (.ok grammar, cache.store name grammar)
      | .error reason => (.error (loadFailure name displayName reason), cache) := by
  unfold get
  split
  next grammar count found => simp [kept?, found] at none_kept
  next => rfl

theorem run_stepBy (cache : GrammarCache G) (operation : Operation G) (loads : List (Load G)) :
    (cache.stepBy operation).run loads =
      (cache.step operation, cache.loadsWith loads operation) := by
  cases operation with
  | get name displayName load =>
    cases kept : cache.kept? name with
    | some grammar =>
      simp only [stepBy, step, loadsWith, getBy, kept, get_of_kept kept]
      rfl
    | none =>
      simp only [stepBy, step, loadsWith, getBy, kept, get_of_none kept]
      cases load <;> rfl
  | isLoaded name => rfl
  | reset => rfl

theorem run_snoc (operations : List (Operation G)) (operation : Operation G) :
    run (operations ++ [operation]) = ((run operations).step operation).2 := by
  simp [run]

theorem runBy_fst (operations : List (Operation G)) : (runBy operations).1 = run operations := by
  induction operations using List.reverseRecOn with
  | nil => rfl
  | append_singleton operations operation ih =>
    rw [run_snoc, ← ih]
    simp [runBy, run_stepBy]

theorem loads_snoc (operations : List (Operation G)) (operation : Operation G) :
    loads (operations ++ [operation]) =
      (run operations).loadsWith (loads operations) operation := by
  rw [← runBy_fst]
  simp [loads, runBy, run_stepBy]

theorem loads_get_of_none {operations : List (Operation G)} {name : String}
    (none_kept : (run operations).kept? name = none) (displayName : String)
    (load : Except String (Option G)) :
    loads (operations ++ [.get name displayName load]) = loads operations ++ [⟨name, load⟩] := by
  rw [loads_snoc, loadsWith, none_kept]
  rfl

theorem loads_get_of_kept {operations : List (Operation G)} {name : String} {grammar : G}
    (kept : (run operations).kept? name = some grammar) (displayName : String)
    (load : Except String (Option G)) :
    loads (operations ++ [.get name displayName load]) = loads operations := by
  rw [loads_snoc, loadsWith, kept]
  rfl

theorem step_get_of_failed {cache : GrammarCache G} {name : String}
    (none_kept : cache.kept? name = none) (displayName reason : String) :
    cache.step (.get name displayName (.error reason)) =
      (.grammar (.error (loadFailure name displayName reason)), cache) := by
  rw [step, get_of_none none_kept]

theorem loads_of_retry {operations : List (Operation G)} {name : String}
    (none_kept : (run operations).kept? name = none) (displayName displayName' reason : String)
    (load : Except String (Option G)) :
    loads (operations ++ [.get name displayName (.error reason), .get name displayName' load]) =
      loads operations ++ [⟨name, .error reason⟩, ⟨name, load⟩] := by
  have unchanged : run (operations ++ [.get name displayName (.error reason)]) =
      run operations := by
    rw [run_snoc, step_get_of_failed none_kept]
  rw [List.append_cons operations, loads_get_of_none (unchanged.symm ▸ none_kept),
    loads_get_of_none none_kept, List.append_assoc]
  rfl

end GrammarCache

theorem returned_append (loads more : List (Load G)) (name : String) :
    returned (loads ++ more) name = returned loads name ++ returned more name :=
  List.filterMap_append

theorem returned_filter (loads : List (Load G)) (name : String) :
    returned (loads.filter fun load => load.name == name) name = returned loads name := by
  unfold returned
  rw [List.filterMap_filter]
  refine congrArg (List.filterMap · loads) (funext fun load => ?_)
  by_cases same : load.name = name <;> simp [same]

namespace GrammarCache

theorem names_store (cache : GrammarCache G) (name : String) (grammar : Option G) :
    (cache.store name grammar).entries.map Prod.fst =
      if cache.isLoaded name then cache.entries.map Prod.fst
      else cache.entries.map Prod.fst ++ [name] := by
  unfold store
  split_ifs
  · rw [List.map_map]
    refine List.map_congr_left fun entry _ => ?_
    by_cases same : entry.1 = name <;> simp [same]
  · simp

theorem isLoaded_iff_mem (cache : GrammarCache G) (name : String) :
    cache.isLoaded name = true ↔ name ∈ cache.entries.map Prod.fst := by
  simp [isLoaded, find?, List.find?_isSome]

theorem nodup_store {cache : GrammarCache G} (distinct : (cache.entries.map Prod.fst).Nodup)
    (name : String) (grammar : Option G) :
    ((cache.store name grammar).entries.map Prod.fst).Nodup := by
  rw [names_store]
  split_ifs with known
  · exact distinct
  · rw [isLoaded_iff_mem] at known
    rw [← List.concat_eq_append]
    exact distinct.concat known

/-- What a memo keeps is told by loads: of each name the last that returned, none of those before
having given a grammar, and how many returned. -/
structure ToldBy (cache : GrammarCache G) (loads : List (Load G)) : Prop where
  distinct : (cache.entries.map Prod.fst).Nodup
  found : ∀ name, cache.find? name =
    (returned loads name).getLast?.map fun last => (last, (returned loads name).length)
  blank : ∀ name, ∀ grammar ∈ (returned loads name).dropLast, grammar = none

namespace ToldBy

variable {cache : GrammarCache G} {loads : List (Load G)}

theorem kept?_eq_some_iff (told : cache.ToldBy loads) {name : String} {grammar : G} :
    cache.kept? name = some grammar ↔ some grammar ∈ returned loads name := by
  rw [kept?, told.found name]
  rcases List.eq_nil_or_concat' (returned loads name) with none_yet | ⟨before, last, split⟩
  · simp [none_yet]
  · have blank := told.blank name
    rw [split, List.dropLast_concat] at blank
    rw [split]
    constructor
    · simp +contextual
    · intro here
      rcases List.mem_append.mp here with early | late
      · exact absurd (blank _ early) nofun
      · simpa using (List.mem_singleton.mp late).symm

theorem kept?_eq_none_iff (told : cache.ToldBy loads) {name : String} :
    cache.kept? name = none ↔ ∀ grammar, some grammar ∉ returned loads name := by
  rw [Option.eq_none_iff_forall_ne_some]
  exact forall_congr' fun grammar => not_congr told.kept?_eq_some_iff

theorem loadCount_eq (told : cache.ToldBy loads) (name : String) :
    cache.loadCount name = (returned loads name).length := by
  rw [loadCount, told.found name]
  rcases List.eq_nil_or_concat' (returned loads name) with none_yet | ⟨before, last, split⟩
  · simp [none_yet]
  · simp [split]

theorem store (told : cache.ToldBy loads) (name : String) (grammar : Option G)
    (still : cache.kept? name = none) :
    (cache.store name grammar).ToldBy (loads ++ [⟨name, .ok grammar⟩]) where
  distinct := nodup_store told.distinct name grammar
  found := by
    intro other
    rw [find?_store, returned_append]
    by_cases same : other = name
    · subst same
      rw [if_pos rfl, told.loadCount_eq]
      simp [returned, Except.toOption]
    · rw [if_neg same, told.found other]
      simp [returned, Ne.symm same]
  blank := by
    intro other earlier here
    rw [returned_append] at here
    by_cases same : other = name
    · subst same
      have last : returned [⟨other, .ok grammar⟩] other =
        [grammar] := by simp [returned, Except.toOption]
      rw [last, List.dropLast_concat] at here
      cases earlier with
      | none => rfl
      | some own => exact absurd here (told.kept?_eq_none_iff.mp still own)
    · have other_name : returned [⟨name, .ok grammar⟩] other =
        [] := by simp [returned, Ne.symm same]
      rw [other_name, List.append_nil] at here
      exact told.blank other earlier here

theorem failed (told : cache.ToldBy loads) (name reason : String) :
    cache.ToldBy (loads ++ [⟨name, .error reason⟩]) := by
  have same (other : String) : returned (loads ++ [⟨name, .error reason⟩]) other =
      returned loads other := by
    simp [returned, Except.toOption]
  exact ⟨told.distinct, fun other => by rw [same, told.found other],
    fun other => by rw [same]; exact told.blank other⟩

theorem empty : (empty : GrammarCache G).ToldBy [] := ⟨List.nodup_nil, fun _ => rfl, fun _ => nofun⟩

theorem step (told : cache.ToldBy loads) (operation : Operation G) :
    (cache.step operation).2.ToldBy (cache.loadsWith loads operation) := by
  cases operation with
  | get name displayName load =>
    cases kept : cache.kept? name with
    | some grammar =>
      simp only [GrammarCache.step, loadsWith, get_of_kept kept, kept]
      exact told
    | none =>
      simp only [GrammarCache.step, loadsWith, get_of_none kept, kept]
      cases load with
      | error reason => exact told.failed name reason
      | ok grammar => exact told.store name grammar kept
  | isLoaded name => exact told
  | reset => exact .empty

theorem run (operations : List (Operation G)) :
    (run operations).ToldBy (GrammarCache.loads operations) := by
  induction operations using List.reverseRecOn with
  | nil => exact .empty
  | append_singleton operations operation ih =>
    rw [run_snoc, loads_snoc]
    exact ih.step operation

end ToldBy

theorem loads_concerning (operations : List (Operation G)) (name : String) :
    (loads (operations.filter (·.concerns name))).filter (fun load => load.name == name) =
      (loads operations).filter fun load => load.name == name := by
  induction operations using List.reverseRecOn with
  | nil => rfl
  | append_singleton operations operation ih =>
    have same : (run (operations.filter (·.concerns name))).kept? name =
        (run operations).kept? name := by
      refine Option.ext fun grammar => ?_
      rw [(ToldBy.run _).kept?_eq_some_iff, (ToldBy.run _).kept?_eq_some_iff, ← returned_filter, ih,
        returned_filter]
    rw [List.filter_append, loads_snoc]
    cases concerned : operation.concerns name with
    | true =>
      rw [List.filter_cons_of_pos concerned, List.filter_nil, loads_snoc]
      cases operation with
      | get other displayName load =>
        obtain rfl : other = name := by simpa [Operation.concerns] using concerned
        simp only [loadsWith, same]
        split_ifs
        · exact ih
        · rw [List.filter_append, List.filter_append, ih]
      | isLoaded other => exact ih
      | reset => rfl
    | false =>
      rw [List.filter_cons_of_neg (by simp [concerned]), List.filter_nil, List.append_nil]
      cases operation with
      | get other displayName load =>
        have apart : (other == name) = false := concerned
        simp only [loadsWith]
        split_ifs
        · exact ih
        · rw [List.filter_append, ih]
          simp [apart]
      | isLoaded other => exact ih
      | reset => contradiction

def tables (cache : GrammarCache G) : GrammarTables G :=
  ⟨cache.entries.map fun entry => (entry.1, entry.2.1), cache.loadCounts⟩

theorem contains_grammars (cache : GrammarCache G) (name : String) :
    cache.tables.grammars.keys.contains name = cache.isLoaded name := by
  rw [Bool.eq_iff_iff, List.contains_iff_mem, isLoaded_iff_mem]
  simp [tables, Table.keys]

theorem contains_counts (cache : GrammarCache G) (name : String) :
    cache.tables.counts.keys.contains name = cache.isLoaded name := by
  rw [Bool.eq_iff_iff, List.contains_iff_mem, isLoaded_iff_mem]
  simp [tables, loadCounts, Table.keys]

theorem lookup_map {β : Type} (cache : GrammarCache G) (f : Option G × Nat → β) (name : String) :
    (cache.entries.map fun entry => (entry.1, f entry.2)).lookup name =
      (cache.find? name).map f := by
  unfold find?
  induction cache.entries with
  | nil => rfl
  | cons entry rest ih =>
    by_cases same : name = entry.1
    · simp [same]
    · have here : (name == entry.1) = false := by simpa using same
      have there : (entry.1 == name) = false := by simpa using Ne.symm same
      rw [List.map_cons, List.lookup_cons, List.find?_cons, here, there]
      exact ih

theorem lookup_loadCounts (cache : GrammarCache G) (name : String) :
    cache.loadCounts.lookup name = (cache.find? name).map Prod.snd := cache.lookup_map Prod.snd name

theorem find?_of_mem {cache : GrammarCache G} (distinct : (cache.entries.map Prod.fst).Nodup)
    {entry : String × Option G × Nat} (here : entry ∈ cache.entries) :
    cache.find? entry.1 = some entry.2 := by
  obtain ⟨before, after, split⟩ := List.append_of_mem here
  rw [split, List.map_append, List.map_cons, List.nodup_middle, List.nodup_cons, List.mem_append,
    not_or, List.mem_map] at distinct
  have first : before.find? (fun other => other.1 == entry.1) = none := by
    rw [List.find?_eq_none]
    intro other early same
    exact distinct.1.1 ⟨other, early, by simpa using same⟩
  simp [find?, split, first]

theorem tables_store {cache : GrammarCache G} (distinct : (cache.entries.map Prod.fst).Nodup)
    (name : String) (grammar : Option G) : (cache.store name grammar).tables =
      ⟨cache.tables.grammars.put name grammar,
        cache.tables.counts.put name (cache.loadCount name + 1)⟩ := by
  unfold store Table.put
  rw [contains_grammars, contains_counts]
  split_ifs with known
  · have own (entry) (here : entry ∈ cache.entries) (same : entry.1 = name) :
        entry.2.2 = cache.loadCount name := by
      rw [loadCount, ← same, find?_of_mem distinct here]
    unfold tables loadCounts
    simp only [List.map_map, GrammarTables.mk.injEq]
    refine ⟨List.map_congr_left fun entry here => ?_, List.map_congr_left fun entry here => ?_⟩
    · by_cases same : entry.1 = name <;> simp [same]
    · by_cases same : entry.1 = name
      · simp [same, own entry here same]
      · simp [same]
  · have absent : cache.find? name = none := by simpa [isLoaded] using known
    simp [tables, loadCounts, loadCount, absent]

theorem step_tables {cache : GrammarCache G} (distinct : (cache.entries.map Prod.fst).Nodup)
    (operation : Operation G) :
    cache.tables.step operation = ((cache.step operation).1, (cache.step operation).2.tables) := by
  cases operation with
  | get name displayName load =>
    have kept : (cache.tables.grammars.lookup name).join = cache.kept? name := by
      rw [tables, cache.lookup_map Prod.fst, kept?]
      cases cache.find? name <;> rfl
    have count : (cache.tables.counts.lookup name).getD 0 = cache.loadCount name := by
      rw [tables, lookup_loadCounts, loadCount]
      cases cache.find? name <;> rfl
    simp only [GrammarTables.step, GrammarTables.get, step, kept, count]
    cases here : cache.kept? name with
    | some grammar => rw [get_of_kept here]
    | none =>
      rw [get_of_none here]
      cases load with
      | error reason => rfl
      | ok grammar => rw [tables_store distinct]
  | isLoaded name =>
    rw [GrammarTables.step, contains_grammars]
    rfl
  | reset => rfl

theorem run_tables (operations : List (Operation G)) :
    GrammarTables.run operations = (run operations).tables := by
  induction operations using List.reverseRecOn with
  | nil => rfl
  | append_singleton operations operation ih =>
    have last : GrammarTables.run (operations ++ [operation]) =
        ((GrammarTables.run operations).step operation).2 := by simp [GrammarTables.run]
    rw [last, ih, step_tables (ToldBy.run operations).distinct, run_snoc]

theorem kept?_of_not_reset {operations : List (Operation G)} {name : String} {grammar : G}
    (kept : (run operations).kept? name = some grammar) {more : List (Operation G)}
    (stays : .reset ∉ more) :
    (run (operations ++ more)).kept? name = some grammar ∧
      (run (operations ++ more)).find? name = (run operations).find? name := by
  induction more using List.reverseRecOn with
  | nil => exact ⟨by simpa using kept, by simp⟩
  | append_singleton more operation ih =>
    rw [List.mem_append, not_or] at stays
    obtain ⟨still, same⟩ := ih stays.1
    rw [← List.append_assoc, run_snoc]
    suffices ((run (operations ++ more)).step operation).2.find? name =
        (run (operations ++ more)).find? name by
      rw [kept?, this, same]
      exact ⟨kept, rfl⟩
    cases operation with
    | get other displayName load =>
      simp only [step]
      cases here : (run (operations ++ more)).kept? other with
      | some own => rw [get_of_kept here]
      | none =>
        have apart : name ≠ other := by
          rintro rfl
          rw [still] at here
          contradiction
        rw [get_of_none here]
        cases load with
        | error reason => rfl
        | ok grammar => rw [find?_store, if_neg apart]
    | isLoaded other => rfl
    | reset => exact absurd List.mem_cons_self stays.2

theorem find?_concerning (operations : List (Operation G)) (name : String) :
    (run (operations.filter (·.concerns name))).find? name = (run operations).find? name := by
  rw [(ToldBy.run _).found, (ToldBy.run _).found, ← returned_filter, loads_concerning,
    returned_filter]

theorem answer_of_find? {cache other : GrammarCache G} {name : String}
    (same : cache.find? name = other.find? name) {operation : Operation G}
    (concerned : operation.concerns name = true) :
    (cache.step operation).1 = (other.step operation).1 := by
  cases operation with
  | get own displayName load =>
    obtain rfl : own = name := by simpa [Operation.concerns] using concerned
    have alike : cache.kept? own = other.kept? own := by rw [kept?, kept?, same]
    simp only [step]
    cases here : other.kept? own with
    | some grammar => rw [get_of_kept (alike.trans here), get_of_kept here]
    | none =>
      rw [get_of_none (alike.trans here), get_of_none here]
      cases load <;> rfl
  | isLoaded own =>
    obtain rfl : own = name := by simpa [Operation.concerns] using concerned
    simp only [step, isLoaded, same]
  | reset => rfl

/-- What is counted under a name is how many of its loads returned since the memo was last emptied,
and it is loaded once there is one. A grammar that one of them gave is given from then on, and no
loader of that name runs; as long as none did, each request runs its loader, and a failure says the
name and changes nothing. Operations on other names do not show. The grammars and the counts kept in
tables of their own would be the same. -/
theorem run_follows_loads (operations : List (Operation G)) (name : String) :
    let cache := run operations
    let outcomes := returned (loads operations) name
    let alone := run (operations.filter (·.concerns name))
    (cache.loadCounts.lookup name = if outcomes.isEmpty then none else some outcomes.length) ∧
      (cache.isLoaded name = true ↔ 1 ≤ outcomes.length) ∧
      (∀ grammar, some grammar ∈ outcomes → ∀ more, .reset ∉ more → ∀ displayName load,
        (run (operations ++ more)).step (.get name displayName load) =
            (.grammar (.ok (some grammar)), run (operations ++ more)) ∧
          loads (operations ++ more ++ [.get name displayName load]) = loads (operations ++ more) ∧
          (run (operations ++ more)).loadCounts.lookup name = cache.loadCounts.lookup name) ∧
      ((∀ grammar, some grammar ∉ outcomes) → ∀ displayName,
        (∀ load, loads (operations ++ [.get name displayName load]) =
          loads operations ++ [⟨name, load⟩]) ∧
          (∀ given, (cache.step (.get name displayName (.ok given))).1 = .grammar (.ok given)) ∧
          ∀ reason, cache.step (.get name displayName (.error reason)) =
              (.grammar (.error (loadFailure name displayName reason)), cache) ∧
            ∀ displayName' load,
              loads (operations ++
                [.get name displayName (.error reason), .get name displayName' load]) =
                loads operations ++ [⟨name, .error reason⟩, ⟨name, load⟩]) ∧
      (∀ operation, operation.concerns name = true →
        (alone.step operation).1 = (cache.step operation).1) ∧
      alone.loadCounts.lookup name = cache.loadCounts.lookup name ∧
      GrammarTables.run operations = cache.tables ∧
      ∀ operation, ((GrammarTables.run operations).step operation).1 =
        (cache.step operation).1 := by
  intro cache outcomes alone
  have told : cache.ToldBy (loads operations) := .run operations
  have found : cache.find? name = outcomes.getLast?.map fun last => (last, outcomes.length) :=
    told.found name
  have same : alone.find? name = cache.find? name := find?_concerning operations name
  refine ⟨?_, ?_, ?_, ?_, fun operation => answer_of_find? same, ?_, run_tables operations, ?_⟩
  · rw [lookup_loadCounts, found]
    rcases List.eq_nil_or_concat' outcomes with none_yet | ⟨before, last, split⟩
    · simp [none_yet]
    · simp [split]
  · rw [isLoaded, found, Option.isSome_map, List.getLast?_isSome, ← List.length_pos_iff]
    exact Iff.rfl
  · intro grammar given more stays displayName load
    obtain ⟨kept, still⟩ := kept?_of_not_reset (told.kept?_eq_some_iff.mpr given) stays
    refine ⟨?_, ?_, ?_⟩
    · rw [step, get_of_kept kept]
    · exact loads_get_of_kept kept displayName load
    · rw [lookup_loadCounts, lookup_loadCounts, still]
  · intro none_given displayName
    have absent : cache.kept? name = none := told.kept?_eq_none_iff.mpr none_given
    have given (grammar : Option G) :
        (cache.step (.get name displayName (.ok grammar))).1 = .grammar (.ok grammar) := by
      rw [step, get_of_none absent]
    exact ⟨loads_get_of_none absent displayName, given,
      fun reason => ⟨step_get_of_failed absent displayName reason,
        fun displayName' => loads_of_retry absent displayName displayName' reason⟩⟩
  · rw [lookup_loadCounts, lookup_loadCounts, same]
  · intro operation
    rw [run_tables, step_tables told.distinct]

theorem run_follows_loads_retry :
    let first : List (Operation Nat) :=
      [.get "a" "A" (.error "gone"), .get "b" "B" (.ok (some 7)), .get "a" "A" (.ok none)]
    let second := first ++ [.get "a" "A" (.ok (some 3))]
    (∀ grammar, some grammar ∉ returned (loads first) "a") ∧
      (run first).step (.get "a" "A" (.error "gone")) =
        (.grammar (.error (loadFailure "a" "A" "gone")), run first) ∧
      some 3 ∈ returned (loads second) "a" ∧ (run second).loadCounts.lookup "a" = some 2 ∧
      (run (second ++ [.isLoaded "b"])).step (.get "a" "A" (.ok (some 5))) =
        (.grammar (.ok (some 3)), run (second ++ [.isLoaded "b"])) := by
  -- A load that fails and one that gives nothing are tried again, one that gives a grammar is not.
  intro first second
  have blank : returned (loads first) "a" = [none] := by decide +kernel
  have given : returned (loads second) "a" = [none, some 3] := by decide +kernel
  have none_given : ∀ grammar, some grammar ∉ returned (loads first) "a" := by simp [blank]
  have here : some 3 ∈ returned (loads second) "a" := by simp [given]
  obtain ⟨counted, -, stays, -⟩ := run_follows_loads second "a"
  rw [given] at counted
  exact ⟨none_given, ((run_follows_loads first "a").2.2.2.1 none_given "A").2.2 "gone" |>.1, here,
    counted, (stays 3 here [.isLoaded "b"] (by simp) "A" (.ok (some 5))).1⟩

end GrammarCache

end ReviewContext.Syntax
