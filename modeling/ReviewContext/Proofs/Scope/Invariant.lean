import ReviewContext.Proofs.Scope.Tables

/-! What the tables of a grouping keep after every thing. Things are numbered as they come, so that
equal ones are told apart; the numbers are forgotten afterwards. -/
namespace ReviewContext

/-- Tables of some things that came in the order of `r`, by the scopes that `c` finds for them. -/
structure Tables.Kept {α : Type} (r : α → α → Prop) (c : α → Option Scope) (things : List α)
    (tables : Tables α) : Prop where
  keys : tables.things.keys = tables.scopes.keys
  distinct : tables.scopes.keys.Nodup
  own : ∀ entry ∈ tables.scopes, entry.2.key = entry.1
  apart : tables.scopes.Pairwise fun a b => Grouping.Apart a.2 b.2
  filled : ∀ entry ∈ tables.things, ∃ first rest, entry.2 = first :: rest ∧
    ∀ thing ∈ rest, r first thing
  order : tables.things.Pairwise fun a b => ∀ first ∈ a.2.head?, ∀ thing ∈ b.2, r first thing
  held : ∀ entry ∈ tables.things, ∀ thing ∈ entry.2, ∃ scope found,
    tables.scopes.lookup entry.1 = some scope ∧ c thing = some found ∧ scope.contains found = true
  once : (tables.things.flatMap Prod.snd ++ tables.loose).Perm things
  loose : tables.loose = things.filter fun thing => (c thing).isNone

namespace Grouping

variable {α : Type} {r : α → α → Prop} {c : α → Option Scope} {things : List α}
    {grouping : Grouping α}

theorem flatMap_thingsOf (buckets : List (Bucket α)) :
    (thingsOf buckets).flatMap Prod.snd = buckets.flatMap Bucket.items := by
  simp [thingsOf, List.flatMap_map]

theorem Sound.kept_tables (sound : Sound c things grouping) (ordered : Ordered r grouping.buckets) :
    grouping.tables.Kept r c things where
  keys := keys_thingsOf.trans keys_scopesOf.symm
  distinct := by
    have distinct := sound.nodup_keys
    rwa [keys, ← keysOf, ← keys_scopesOf] at distinct
  own := by
    intro entry he
    obtain ⟨bucket, -, rfl⟩ := List.mem_map.mp he
    rfl
  apart := List.pairwise_map.mpr sound.apart
  filled := by
    intro entry he
    obtain ⟨bucket, hb, rfl⟩ := List.mem_map.mp he
    exact ordered.leads bucket hb
  order := List.pairwise_map.mpr ordered.before
  held := by
    intro entry he thing ht
    obtain ⟨bucket, hb, rfl⟩ := List.mem_map.mp he
    obtain ⟨found, hc, holds⟩ := sound.held bucket hb thing ht
    exact ⟨bucket.scope, found, lookup_scopesOf hb sound.nodup_keys, hc, holds⟩
  once := by
    have split := List.filter_append_perm (fun thing => (c thing).isSome) things
    have none : things.filter (fun thing => !(c thing).isSome) = grouping.loose := by
      simp [sound.loose]
    rw [none] at split
    rw [tables, flatMap_thingsOf]
    exact (sound.kept.append_right _).trans split
  loose := sound.loose

theorem tables_map {β : Type} (f : α → β) (grouping : Grouping α) :
    (grouping.map f).tables = grouping.tables.map f := by
  simp [tables, map, Tables.map, thingsOf, scopesOf, Bucket.map]

theorem pairwise_zipIdx (things : List α) : things.zipIdx.Pairwise fun a b => a.2 < b.2 := by
  have numbers : (things.zipIdx.map Prod.snd).Pairwise (· < ·) := by
    rw [List.zipIdx_map_snd]
    exact List.pairwise_lt_range'
  exact List.pairwise_map.mp numbers

theorem ofScopes_kept (c : α → Option Scope) (things : List α) :
    ∃ numbered : Tables (α × Nat),
      (ofScopes (things.map fun thing => (thing, c thing))).tables = numbered.map Prod.fst ∧
        numbered.Kept (fun a b => a.2 < b.2) (fun thing => c thing.1) things.zipIdx := by
  let numbered := ofScopes (things.zipIdx.map fun thing => (thing, c thing.1))
  refine ⟨numbered.tables, ?_, ?_⟩
  · have plain : things.map (fun thing => (thing, c thing)) =
        things.zipIdx.map fun thing => (thing.1, c thing.1) := by
      conv_lhs => rw [← List.zipIdx_map_fst 0 things]
      rw [List.map_map]
      rfl
    rw [← tables_map, ← ofScopes_map, List.map_map, plain]
    rfl
  · exact (sound_ofScopes _ _).kept_tables (ordered_ofScopes _ (pairwise_zipIdx things))

variable {text : String} {margin : SearchMargin} {find : Finder} {hunks : List Diff.Hunk}

/-- After every hunk whose scope was looked up, the two tables of the grouping have the same keys,
the right ones; no scope lies in another; every hunk so far stands once, in a bucket whose scope
holds its own or among those without one; and buckets, their first hunks and those without a scope
are in the order of the input. -/
theorem ofHunks_kept (n : Nat)
    (processed : ∀ hunk ∈ hunks.take n, (scopeOfHunk (lastLine text) margin find hunk).isOk =
      true) :
    ∃ (grouping : Grouping Diff.Hunk) (numbered : Tables (Diff.Hunk × Nat)),
      ofHunks text margin find (hunks.take n) = .ok grouping ∧
      Tables.ofScopes? ((hunks.take n).map fun hunk => (hunk, foundScope text margin find hunk)) =
        some grouping.tables ∧
      grouping.tables = numbered.map Prod.fst ∧
      numbered.Kept (fun a b => a.2 < b.2) (fun hunk => foundScope text margin find hunk.1)
        (hunks.take n).zipIdx := by
  let c := foundScope text margin find
  have each : ∀ hunk ∈ hunks.take n, scopeOfHunk (lastLine text) margin find hunk =
      .ok (c hunk) := by
    intro hunk hm
    have ok := processed hunk hm
    cases h : scopeOfHunk (lastLine text) margin find hunk with
    | error => simp [h] at ok
    | ok scope => simp [c, foundScope, h, Except.toOption]
  obtain ⟨numbered, same, kept⟩ := ofScopes_kept c (hunks.take n)
  exact ⟨_, numbered, ofHunks_eq_ok_iff.mpr ⟨each, rfl⟩, ofScopes?_eq_some c _, same, kept⟩

theorem ofHunks_kept_nested :
    let inner : Scope := ⟨.block, "if", 2, 3, "", none, by decide, by decide⟩
    let outer : Scope := ⟨.definition, "def", 1, 5, "", none, by decide, by decide⟩
    let find : Finder := fun rows =>
      .ok (if rows.first = 1 then some inner else if rows.first = 4 then some outer else none)
    let second : Diff.Hunk := ⟨⟨2, 0⟩, ⟨2, 1⟩, [⟨.added, "b"⟩], ["\n"]⟩
    let fourth : Diff.Hunk := ⟨⟨3, 0⟩, ⟨4, 1⟩, [⟨.added, "d"⟩], ["\n"]⟩
    let fifth : Diff.Hunk := ⟨⟨4, 0⟩, ⟨5, 1⟩, [⟨.added, "e"⟩], ["\n"]⟩
    let hunks := [second, fourth, fifth]
    let c := foundScope "a\nb\nc\nd\ne" (.whole 0) find
    (∀ hunk ∈ hunks.take 3,
        (scopeOfHunk (lastLine "a\nb\nc\nd\ne") (.whole 0) find hunk).isOk = true) ∧
      ∃ (grouping : Grouping Diff.Hunk) (numbered : Tables (Diff.Hunk × Nat)),
        ofHunks "a\nb\nc\nd\ne" (.whole 0) find hunks = .ok grouping ∧
          grouping.tables = numbered.map Prod.fst ∧ numbered.loose = [(fourth, 1)] ∧
          numbered.Kept (fun a b => a.2 < b.2) (fun hunk => c hunk.1) hunks.zipIdx := by
  -- A hunk without a scope comes between two whose scopes are nested, the inner one first.
  intro inner outer find second fourth fifth hunks c
  have processed : ∀ hunk ∈ hunks.take 3,
      (scopeOfHunk (lastLine "a\nb\nc\nd\ne") (.whole 0) find hunk).isOk = true := by decide +kernel
  obtain ⟨grouping, numbered, grouped, -, same, kept⟩ := ofHunks_kept 3 processed
  refine ⟨processed, grouping, numbered, grouped, same, ?_, kept⟩
  rw [kept.loose]
  decide +kernel

end Grouping

end ReviewContext
