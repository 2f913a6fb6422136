import ReviewContext.Proofs.Scope.Discovery
import ReviewContext.Proofs.Scope.Outermost
import ReviewContext.Proofs.Table

/-! Tables: a grouping kept as two tables under the keys of scopes, one of the things and one of the
scopes. What is done to the one is done to the other, so that no key of either is ever missed in the
other. -/
namespace ReviewContext

structure Tables (α : Type) where
  things : Table (List α) := []
  scopes : Table Scope := []
  loose : List α := []

namespace Tables

variable {α : Type}

/-- Moves one entry of the old tables into the new ones: under the key of a scope if it is an inner
one. -/
def move? (old : Table Scope) (inner : List String) (scope : Scope)
    (new : Table (List α) × Table Scope) (entry : String × List α) :
    Option (Table (List α) × Table Scope) :=
  if inner.contains entry.1 then
    let (things, scopes) :=
      if new.1.keys.contains scope.key then new
      else (new.1.put scope.key [], new.2.put scope.key scope)
    (things.extend? scope.key entry.2).map (·, scopes)
  else (old.lookup entry.1).map fun own => (new.1.put entry.1 entry.2, new.2.put entry.1 own)

def innerKeys (scopes : Table Scope) (scope : Scope) : List String :=
  Table.keys (scopes.filter fun entry => scope.contains entry.2)

/-- Makes one entry, in the place of the first, of all those with inner keys, and puts a thing
behind theirs. -/
def takeOver? (tables : Tables α) (inner : List String) (scope : Scope) (item : α) :
    Option (Tables α) := do
  let (things, scopes) ← tables.things.foldlM (move? tables.scopes inner scope) ([], [])
  let things ← things.extend? scope.key [item]
  return { tables with things, scopes }

/-- Puts a thing where its scope says: under the key of the scope or of the first that holds it,
under a new key that comes last, or under one in the place of the first scope that it holds. -/
def add? (tables : Tables α) (item : α) : Option Scope → Option (Tables α)
  | none => some { tables with loose := tables.loose ++ [item] }
  | some scope =>
    if tables.things.keys.contains scope.key then
      (tables.things.extend? scope.key [item]).map ({ tables with things := · })
    else
      match tables.scopes.find? fun entry => entry.2.contains scope with
      | some outer => (tables.things.extend? outer.1 [item]).map ({ tables with things := · })
      | none =>
        let inner := innerKeys tables.scopes scope
        if inner.isEmpty then
          some { tables with
            things := tables.things.put scope.key [item]
            scopes := tables.scopes.put scope.key scope }
        else tables.takeOver? inner scope item

def ofScopes? (things : List (α × Option Scope)) : Option (Tables α) :=
  things.foldlM (fun tables thing => tables.add? thing.1 thing.2) {}

def map {β : Type} (f : α → β) (tables : Tables α) : Tables β :=
  ⟨tables.things.map fun entry => (entry.1, entry.2.map f), tables.scopes, tables.loose.map f⟩

theorem ofScopes?_snoc (things : List (α × Option Scope)) (thing : α × Option Scope) :
    ofScopes? (things ++ [thing]) = (ofScopes? things).bind fun tables =>
      tables.add? thing.1 thing.2 := by
  simp [ofScopes?, List.foldlM_append]

end Tables

namespace Grouping

variable {α : Type} {scope : Scope} {item : α} {buckets : List (Bucket α)}

open Tables (innerKeys move?)

def thingsOf (buckets : List (Bucket α)) : Table (List α) :=
  buckets.map fun bucket => (bucket.scope.key, bucket.items)

def scopesOf (buckets : List (Bucket α)) : Table Scope :=
  buckets.map fun bucket => (bucket.scope.key, bucket.scope)

def keysOf (buckets : List (Bucket α)) : List String := buckets.map fun bucket => bucket.scope.key

theorem keys_thingsOf : (thingsOf buckets).keys = keysOf buckets := by
  simp [thingsOf, Table.keys, keysOf]

theorem keys_scopesOf : (scopesOf buckets).keys = keysOf buckets := by
  simp [scopesOf, Table.keys, keysOf]

def tables (grouping : Grouping α) : Tables α :=
  ⟨thingsOf grouping.buckets, scopesOf grouping.buckets, grouping.loose⟩

@[simp] theorem thingsOf_append (front back : List (Bucket α)) :
    thingsOf (front ++ back) = thingsOf front ++ thingsOf back := List.map_append

@[simp] theorem scopesOf_append (front back : List (Bucket α)) :
    scopesOf (front ++ back) = scopesOf front ++ scopesOf back := List.map_append

@[simp] theorem thingsOf_cons (bucket : Bucket α) (rest : List (Bucket α)) :
    thingsOf (bucket :: rest) = (bucket.scope.key, bucket.items) :: thingsOf rest := rfl

@[simp] theorem scopesOf_cons (bucket : Bucket α) (rest : List (Bucket α)) :
    scopesOf (bucket :: rest) = (bucket.scope.key, bucket.scope) :: scopesOf rest := rfl

theorem notMem_of_nodup {before after : List (Bucket α)} {bucket : Bucket α}
    (distinct : (keysOf (before ++ bucket :: after)).Nodup) :
    bucket.scope.key ∉ keysOf before ∧ bucket.scope.key ∉ keysOf after := by
  rw [keysOf, List.map_append, List.map_cons, List.nodup_middle, List.nodup_cons, List.mem_append,
    not_or] at distinct
  exact distinct.1

theorem extend?_thingsOf {before after : List (Bucket α)} {bucket : Bucket α} (more : List α)
    (distinct : (keysOf (before ++ bucket :: after)).Nodup) :
    (thingsOf (before ++ bucket :: after)).extend? bucket.scope.key more =
      some (thingsOf (before ++ { bucket with items := bucket.items ++ more } :: after)) := by
  obtain ⟨first, once⟩ := notMem_of_nodup distinct
  rw [← keys_thingsOf] at first once
  rw [thingsOf_append, thingsOf_cons, Table.extend?_of_split _ _ first once, thingsOf_append,
    thingsOf_cons]

theorem contains_inner {bucket : Bucket α} (hb : bucket ∈ buckets) :
    (innerKeys (scopesOf buckets) scope).contains bucket.scope.key =
      scope.contains bucket.scope := by
  rw [Bool.eq_iff_iff, List.contains_iff_mem, innerKeys, Table.keys, List.mem_map]
  constructor
  · rintro ⟨entry, he, same⟩
    obtain ⟨he, holds⟩ := List.mem_filter.mp he
    obtain ⟨other, -, rfl⟩ := List.mem_map.mp he
    exact Scope.contains_trans holds (Scope.key_eq_key_iff_contains.mp same).1
  · intro holds
    exact ⟨(bucket.scope.key, bucket.scope),
      List.mem_filter.mpr ⟨List.mem_map_of_mem hb, holds⟩, rfl⟩

theorem lookup_scopesOf {bucket : Bucket α} (hb : bucket ∈ buckets)
    (distinct : (keysOf buckets).Nodup) :
    (scopesOf buckets).lookup bucket.scope.key = some bucket.scope := by
  obtain ⟨before, after, rfl⟩ := List.append_of_mem hb
  rw [scopesOf_append, scopesOf_cons, Table.lookup_of_split]
  rw [keys_scopesOf]
  exact (notMem_of_nodup distinct).1

section

variable {front back : List (Bucket α)} {bucket : Bucket α} {items : List α}

theorem move?_apart (hb : bucket ∈ buckets) (distinct : (keysOf buckets).Nodup)
    (apart : scope.contains bucket.scope = false) (new : bucket.scope.key ∉ keysOf front) :
    move? (scopesOf buckets) (innerKeys (scopesOf buckets) scope) scope
      (thingsOf front, scopesOf front)
        (bucket.scope.key, bucket.items) =
      some (thingsOf (front ++ [bucket]), scopesOf (front ++ [bucket])) := by
  unfold move?
  rw [contains_inner hb, apart, lookup_scopesOf hb distinct]
  simp only [Bool.false_eq_true, if_false, Option.map_some]
  rw [Table.put_of_notMem (by rwa [keys_thingsOf]), Table.put_of_notMem (by rwa [keys_scopesOf])]
  simp [thingsOf, scopesOf]

theorem move?_first (hb : bucket ∈ buckets) (holds : scope.contains bucket.scope = true)
    (new : scope.key ∉ keysOf front) :
    move? (scopesOf buckets) (innerKeys (scopesOf buckets) scope) scope
      (thingsOf front, scopesOf front)
        (bucket.scope.key, bucket.items) =
      some (thingsOf (front ++ [⟨scope, bucket.items⟩]),
        scopesOf (front ++ [⟨scope, bucket.items⟩])) := by
  have absent : ((thingsOf front).keys.contains scope.key) = false := by
    rw [keys_thingsOf]
    simpa using new
  unfold move?
  rw [contains_inner hb, holds, absent]
  simp only [if_true, Bool.false_eq_true, if_false]
  rw [Table.put_of_notMem (by rwa [keys_scopesOf]), Table.put_of_notMem (by rwa [keys_thingsOf]),
    Table.extend?_of_split [] bucket.items (by rwa [keys_thingsOf]) (by simp [Table.keys])]
  simp [thingsOf, scopesOf]

theorem move?_later (hb : bucket ∈ buckets) (holds : scope.contains bucket.scope = true)
    (distinct : (keysOf (front ++ ⟨scope, items⟩ :: back)).Nodup) :
    move? (scopesOf buckets) (innerKeys (scopesOf buckets) scope) scope
        (thingsOf (front ++ ⟨scope, items⟩ :: back), scopesOf (front ++ ⟨scope, items⟩ :: back))
        (bucket.scope.key, bucket.items) =
      some (thingsOf (front ++ ⟨scope, items ++ bucket.items⟩ :: back),
        scopesOf (front ++ ⟨scope, items ++ bucket.items⟩ :: back)) := by
  have present : ((thingsOf (front ++ ⟨scope, items⟩ :: back)).keys.contains scope.key) = true := by
    rw [keys_thingsOf]
    simp [keysOf]
  have extended := extend?_thingsOf bucket.items distinct
  unfold move?
  rw [contains_inner hb, holds, present]
  simp only [if_true]
  rw [extended, Option.map_some]
  simp

theorem foldlM_move?_apart {more : List (Bucket α)} (within : more ⊆ buckets)
    (distinct : (keysOf buckets).Nodup)
    (apart : ∀ bucket ∈ more, scope.contains bucket.scope = false)
    (new : (keysOf (front ++ more)).Nodup) :
    (thingsOf more).foldlM (move? (scopesOf buckets) (innerKeys (scopesOf buckets) scope) scope)
        (thingsOf front, scopesOf front) =
      some (thingsOf (front ++ more), scopesOf (front ++ more)) := by
  induction more generalizing front with
  | nil => simp [thingsOf, scopesOf]
  | cons bucket rest ih =>
    rw [List.cons_subset] at within
    rw [List.forall_mem_cons] at apart
    rw [thingsOf_cons, List.foldlM_cons,
      move?_apart within.1 distinct apart.1 (notMem_of_nodup new).1, Option.bind_eq_bind,
      Option.bind_some, ih within.2 apart.2 (by simpa using new)]
    simp

theorem foldlM_move?_later {more : List (Bucket α)} (within : more ⊆ buckets)
    (distinct : (keysOf buckets).Nodup)
    (new : (keysOf (front ++ ⟨scope, items⟩ :: (back ++ more))).Nodup) :
    (thingsOf more).foldlM (move? (scopesOf buckets) (innerKeys (scopesOf buckets) scope) scope)
        (thingsOf (front ++ ⟨scope, items⟩ :: back), scopesOf (front ++ ⟨scope, items⟩ :: back)) =
      some (
        let all := front ++ ⟨scope, items ++ taken scope more⟩ :: (back ++ others scope more)
        (thingsOf all, scopesOf all)) := by
  -- The opened bucket stays behind `front`; each further one is taken over by it or goes behind
  -- `back`.
  induction more generalizing items back with
  | nil => simp [thingsOf, taken, others]
  | cons bucket rest ih =>
    rw [List.cons_subset] at within
    have fewer : (front ++ ⟨scope, items⟩ :: (back ++ rest)).Sublist
        (front ++ ⟨scope, items⟩ :: (back ++ bucket :: rest)) :=
      (((List.sublist_cons_self ..).append_left back).cons_cons _).append_left front
    have done : (front ++ ⟨scope, items⟩ :: back).Sublist
        (front ++ ⟨scope, items⟩ :: (back ++ bucket :: rest)) :=
      ((List.sublist_append_left ..).cons_cons _).append_left front
    rw [thingsOf_cons, List.foldlM_cons]
    cases holds : scope.contains bucket.scope with
    | true =>
      rw [move?_later within.1 holds (new.sublist (done.map _)), Option.bind_eq_bind,
        Option.bind_some, ih within.2 (by simpa [keysOf] using new.sublist (fewer.map _))]
      simp [taken, others, holds]
    | false =>
      have absent : bucket.scope.key ∉ keysOf (front ++ ⟨scope, items⟩ :: back) :=
        (notMem_of_nodup (by simpa using new)).1
      have step := @ih (back ++ [bucket]) items within.2 (by simpa using new)
      rw [← List.cons_append, ← List.append_assoc] at step
      rw [move?_apart within.1 distinct holds absent, Option.bind_eq_bind, Option.bind_some, step]
      simp [taken, others, holds]

end

theorem find?_scopesOf {before after : List (Bucket α)} {bucket : Bucket α}
    (holds : bucket.scope.contains scope = true)
    (first : ∀ other ∈ before, other.scope.contains scope = false) :
    ((scopesOf (before ++ bucket :: after)).find? fun entry => entry.2.contains scope) =
      some (bucket.scope.key, bucket.scope) := by
  rw [List.find?_eq_some_iff_append]
  refine ⟨holds, scopesOf before, scopesOf after, by simp, fun entry he => ?_⟩
  obtain ⟨other, ho, rfl⟩ := List.mem_map.mp he
  simpa using first other ho

theorem innerKeys_eq_nil_iff :
    innerKeys (scopesOf buckets) scope = [] ↔
      ∀ bucket ∈ buckets, scope.contains bucket.scope = false := by
  simp [innerKeys, Table.keys, scopesOf, List.filter_eq_nil_iff]

theorem mem_keysOf_iff :
    scope.key ∈ keysOf buckets ↔
      ∃ bucket ∈ buckets, bucket.scope.contains scope = true ∧
        scope.contains bucket.scope = true := by
  simp only [keysOf, List.mem_map, Scope.key_eq_key_iff_contains]

section

variable {before after kept : List (Bucket α)} {inner : Bucket α}
  (distinct : (keysOf (before ++ inner :: after)).Nodup)
    (absent : scope.key ∉ keysOf (before ++ inner :: after))

include distinct absent

theorem nodup_of_replace (items : List α) (fewer : kept.Sublist after) :
    (keysOf (before ++ ⟨scope, items⟩ :: kept)).Nodup := by
  refine List.Nodup.sublist (((fewer.cons_cons _).append_left before).map _) ?_
  simp only [keysOf, List.map_append, List.map_cons, List.mem_append, List.mem_cons, not_or,
    List.nodup_middle, List.nodup_cons] at distinct absent ⊢
  exact ⟨⟨absent.1, absent.2.2⟩, distinct.2⟩

variable (apart : ∀ bucket ∈ before, scope.contains bucket.scope = false)
    (holds : scope.contains inner.scope = true)

include apart holds

theorem foldlM_move? :
    (thingsOf (before ++ inner :: after)).foldlM (move? (scopesOf (before ++ inner :: after))
        (innerKeys (scopesOf (before ++ inner :: after)) scope) scope) ([], []) =
      some (
        let all := before ++ ⟨scope, inner.items ++ taken scope after⟩ :: others scope after
        (thingsOf all, scopesOf all)) := by
  have first : scope.key ∉ keysOf before :=
    (notMem_of_nodup (nodup_of_replace distinct absent [] (.refl _))).1
  have front := @foldlM_move?_apart _ scope _ [] before
    (List.subset_append_left before (inner :: after)) distinct apart
    (distinct.sublist ((List.sublist_append_left ..).map _))
  have back := @foldlM_move?_later _ scope (before ++ inner :: after) before [] inner.items after
    (fun bucket hb => by simp [hb]) distinct (nodup_of_replace distinct absent _ (.refl _))
  rw [List.nil_append] at front back
  rw [thingsOf_append, thingsOf_cons, List.foldlM_append]
  refine (congrArg (Option.bind · _) front).trans ?_
  rw [Option.bind_some, List.foldlM_cons, move?_first (by simp) holds first]
  exact back

theorem takeOver?_eq_some (loose : List α) :
    (tables ⟨before ++ inner :: after, loose⟩).takeOver?
      (innerKeys (scopesOf (before ++ inner :: after)) scope) scope
        item = some (tables ⟨absorb scope item (before ++ inner :: after), loose⟩) := by
  have fewer : (others scope after).Sublist after := List.filter_sublist
  have extended := extend?_thingsOf [item]
    (nodup_of_replace distinct absent (inner.items ++ taken scope after) fewer)
  unfold Tables.takeOver? tables
  rw [foldlM_move? distinct absent apart holds, absorb_append_cons apart holds, Option.bind_eq_bind,
    Option.bind_some]
  simp only [extended]
  simp

end

namespace Sound

variable {c : α → Option Scope} {things : List α} {grouping : Grouping α}

theorem key_eq_of_mem (sound : Sound c things grouping) {bucket : Bucket α}
    (hb : bucket ∈ grouping.buckets) (holds : bucket.scope.contains scope = true)
    (present : scope.key ∈ keysOf grouping.buckets) :
    bucket.scope.key = scope.key := by
  obtain ⟨other, ho, around, within⟩ := mem_keysOf_iff.mp present
  have same := sound.eq_of_contains hb ho (Scope.contains_trans holds within)
  exact Scope.key_eq_key_iff_contains.mpr ⟨holds, same ▸ within⟩

theorem tables_join (sound : Sound c things grouping) {joined : List (Bucket α)}
    (h : join? scope item grouping.buckets = some joined) :
    grouping.tables.add? item (some scope) = some { grouping with buckets := joined }.tables := by
  obtain ⟨before, bucket, after, split, holds, rfl, first⟩ := join?_eq_some h
  have distinct : (keysOf grouping.buckets).Nodup := sound.nodup_keys
  have same := sound.key_eq_of_mem (split ▸ List.mem_append_right before List.mem_cons_self) holds
  obtain ⟨buckets, loose⟩ := grouping
  subst split
  have extended := extend?_thingsOf [item] distinct
  simp only [tables, Tables.add?, keys_thingsOf, List.contains_iff_mem]
  by_cases present : scope.key ∈ keysOf (before ++ bucket :: after)
  · rw [if_pos present, ← same present, extended]
    simp
  · rw [if_neg present, find?_scopesOf holds first]
    simp only [extended, Option.map_some]
    simp

theorem tables_absorb (sound : Sound c things grouping)
    (h : join? scope item grouping.buckets = none) :
    grouping.tables.add? item (some scope) =
      some { grouping with buckets := Grouping.absorb scope item grouping.buckets }.tables := by
  have distinct : (keysOf grouping.buckets).Nodup := sound.nodup_keys
  have outside := join?_eq_none_iff.mp h
  have absent : scope.key ∉ keysOf grouping.buckets := by
    rw [mem_keysOf_iff]
    rintro ⟨bucket, hb, holds, -⟩
    simp [outside bucket hb] at holds
  have unfound : (scopesOf grouping.buckets).find? (fun entry => entry.2.contains scope) =
      none := by
    rw [List.find?_eq_none]
    intro entry he
    obtain ⟨bucket, hb, rfl⟩ := List.mem_map.mp he
    simpa using outside bucket hb
  simp only [tables, Tables.add?, keys_thingsOf, List.contains_iff_mem, absent, if_false, unfound]
  rcases absorb_cases scope grouping.buckets with apart |
    ⟨before, inner, after, split, apart, holds⟩
  · simp only [innerKeys_eq_nil_iff.mpr apart, List.isEmpty_nil, if_true, absorb_of_apart apart]
    rw [Table.put_of_notMem (by rwa [keys_thingsOf]), Table.put_of_notMem (by rwa [keys_scopesOf])]
    simp [thingsOf, scopesOf]
  · have taken : (innerKeys (scopesOf grouping.buckets) scope).isEmpty = false := by
      rw [List.isEmpty_eq_false_iff, ne_eq, innerKeys_eq_nil_iff]
      intro apart
      simp [apart inner (by simp [split])] at holds
    simp only [taken, Bool.false_eq_true, if_false]
    obtain ⟨buckets, loose⟩ := grouping
    subst split
    exact takeOver?_eq_some distinct absent apart holds loose

theorem tables_add (sound : Sound c things grouping) (item : α) (found : Option Scope) :
    grouping.tables.add? item found = some (grouping.add item found).tables := by
  cases found with
  | none => rfl
  | some scope =>
    cases h : join? scope item grouping.buckets with
    | none => simpa only [Grouping.add, h, Option.getD_none] using sound.tables_absorb h
    | some joined => simpa only [Grouping.add, h, Option.getD_some] using sound.tables_join h

end Sound

/-- The tables are those of the buckets, and no key is ever missed. -/
theorem ofScopes?_eq_some (c : α → Option Scope) (things : List α) :
    Tables.ofScopes? (things.map fun thing => (thing, c thing)) =
      some (ofScopes (things.map fun thing => (thing, c thing))).tables := by
  induction things using List.reverseRecOn with
  | nil => rfl
  | append_singleton things thing ih =>
    rw [List.map_append, List.map_singleton, ofScopes_snoc, Tables.ofScopes?_snoc, ih]
    exact (sound_ofScopes c things).tables_add thing (c thing)

end Grouping

end ReviewContext
