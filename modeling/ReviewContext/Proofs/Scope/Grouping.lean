import ReviewContext.Scope.Grouping
import Mathlib.Data.List.Perm.Basic
import Mathlib.Data.List.Induction

/-! What every grouping keeps while things are added to it: no scope lies in another, a bucket holds
only things of its scope, among them the one that its scope was found for, and no thing is lost or
doubled. -/
namespace ReviewContext

namespace Grouping

variable {α : Type}

def Apart (a b : Scope) : Prop := a.contains b = false ∧ b.contains a = false

theorem Apart.symm {a b : Scope} (h : Apart a b) : Apart b a := ⟨h.2, h.1⟩

/-- A grouping of some things by the scopes that `c` finds for them. -/
structure Sound (c : α → Option Scope) (things : List α) (grouping : Grouping α) : Prop where
  apart : grouping.buckets.Pairwise fun a b => Apart a.scope b.scope
  opened : ∀ bucket ∈ grouping.buckets, ∃ thing ∈ bucket.items, c thing = some bucket.scope
  held : ∀ bucket ∈ grouping.buckets, ∀ thing ∈ bucket.items, ∃ scope, c thing = some scope ∧
    bucket.scope.contains scope = true
  loose : grouping.loose = things.filter fun thing => (c thing).isNone
  kept : (grouping.buckets.flatMap Bucket.items).Perm (things.filter fun thing => (c thing).isSome)

theorem join?_eq_none_iff {scope : Scope} {item : α} {buckets : List (Bucket α)} :
    join? scope item buckets = none ↔ ∀ bucket ∈ buckets, bucket.scope.contains scope = false := by
  induction buckets with
  | nil => simp [join?]
  | cons bucket rest ih =>
    unfold join?
    split <;> simp_all

theorem join?_eq_some {scope : Scope} {item : α} {buckets joined : List (Bucket α)}
    (h : join? scope item buckets = some joined) :
    ∃ before bucket after, buckets = before ++ bucket :: after ∧
      bucket.scope.contains scope = true ∧
      joined = before ++ { bucket with items := bucket.items ++ [item] } :: after ∧
      ∀ other ∈ before, other.scope.contains scope = false := by
  induction buckets generalizing joined with
  | nil => simp [join?] at h
  | cons bucket rest ih =>
    unfold join? at h
    split at h
    next holds => exact ⟨[], bucket, rest, rfl, holds, (Option.some.inj h).symm, nofun⟩
    next apart =>
      obtain ⟨joined, hj, rfl⟩ := Option.map_eq_some_iff.mp h
      obtain ⟨before, inner, after, rfl, holds, rfl, first⟩ := ih hj
      refine ⟨bucket :: before, inner, after, rfl, holds, rfl, ?_⟩
      exact List.forall_mem_cons.mpr ⟨Bool.eq_false_iff.mpr apart, first⟩

def opening (scope : Scope) (item : α) (buckets : List (Bucket α)) : Bucket α :=
  ⟨scope, (buckets.filter fun bucket => scope.contains bucket.scope).flatMap Bucket.items ++ [item]⟩

theorem absorb_perm (scope : Scope) (item : α) (buckets : List (Bucket α)) :
    (absorb scope item buckets).Perm
      (opening scope item buckets :: buckets.filter fun bucket =>
        !scope.contains bucket.scope) := by
  have split : (buckets.filter fun bucket => !scope.contains bucket.scope) =
      buckets.takeWhile (fun bucket => !scope.contains bucket.scope) ++
        (buckets.dropWhile fun bucket => !scope.contains bucket.scope).filter
          fun bucket => !scope.contains bucket.scope := by
    conv_lhs => rw [← List.takeWhile_append_dropWhile
      (p := fun bucket : Bucket α => !scope.contains bucket.scope) (l := buckets)]
    rw [List.filter_append, List.filter_eq_self.mpr (List.all_eq_true.mp List.all_takeWhile)]
  rw [split]
  exact List.perm_middle

theorem flatMap_absorb_perm (scope : Scope) (item : α) (buckets : List (Bucket α)) :
    ((absorb scope item buckets).flatMap Bucket.items).Perm
      (buckets.flatMap Bucket.items ++ [item]) := by
  have whole := (List.filter_append_perm (fun bucket : Bucket α => scope.contains bucket.scope)
    buckets).flatMap_right Bucket.items
  rw [List.flatMap_append] at whole
  refine ((absorb_perm scope item buckets).flatMap_right Bucket.items).trans ?_
  rw [List.flatMap_cons, opening, List.append_assoc]
  refine List.Perm.trans ?_ (whole.append_right [item])
  rw [List.append_assoc]
  exact List.Perm.append_left _ List.perm_append_comm

theorem mem_absorb_iff {scope : Scope} {item : α} {buckets : List (Bucket α)} {bucket : Bucket α} :
    bucket ∈ absorb scope item buckets ↔
      bucket = opening scope item buckets ∨ bucket ∈ buckets ∧
        scope.contains bucket.scope = false := by
  rw [(absorb_perm scope item buckets).mem_iff, List.mem_cons, List.mem_filter, Bool.not_eq_true']

namespace Sound

variable {c : α → Option Scope} {things : List α} {grouping : Grouping α}

theorem empty : Sound c [] ({} : Grouping α) where
  apart := .nil
  opened := nofun
  held := nofun
  loose := rfl
  kept := .refl _

theorem add_none (sound : Sound c things grouping) {thing : α} (found : c thing = none) :
    Sound c (things ++ [thing]) (grouping.add thing none) where
  apart := sound.apart
  opened := sound.opened
  held := sound.held
  loose := by simp [add, sound.loose, found]
  kept := by simpa [add, found] using sound.kept

theorem join (sound : Sound c things grouping) {thing : α} {scope : Scope}
    (found : c thing = some scope) {joined : List (Bucket α)}
    (h : join? scope thing grouping.buckets = some joined) :
    Sound c (things ++ [thing]) { grouping with buckets := joined } := by
  obtain ⟨before, bucket, after, split, holds, rfl, -⟩ := join?_eq_some h
  have apart := sound.apart
  have opened := sound.opened
  have held := sound.held
  have kept := sound.kept
  rw [split] at apart opened held kept
  refine ⟨?_, ?_, ?_, ?_, ?_⟩
  · simpa [List.pairwise_append] using apart
  · simp only [List.forall_mem_append, List.forall_mem_cons] at opened ⊢
    obtain ⟨first, same⟩ := opened.2.1
    exact ⟨opened.1, ⟨first, List.mem_append_left _ same.1, same.2⟩, opened.2.2⟩
  · simp only [List.forall_mem_append, List.forall_mem_cons] at held ⊢
    exact ⟨held.1, ⟨held.2.1, ⟨scope, found, holds⟩, nofun⟩, held.2.2⟩
  · simp [sound.loose, found]
  · simp only [List.flatMap_append, List.flatMap_cons, List.filter_append] at kept ⊢
    have last : [thing].filter (fun thing => (c thing).isSome) = [thing] := by simp [found]
    rw [last]
    refine List.Perm.trans ?_ (kept.append_right [thing])
    simp only [List.append_assoc]
    exact ((List.perm_append_comm).append_left _).append_left _

theorem absorb (sound : Sound c things grouping) {thing : α} {scope : Scope}
    (found : c thing = some scope) (h : join? scope thing grouping.buckets = none) :
    Sound c (things ++ [thing])
      { grouping with buckets := Grouping.absorb scope thing grouping.buckets } := by
  have outside := join?_eq_none_iff.mp h
  refine ⟨?_, ?_, ?_, ?_, ?_⟩
  · rw [(absorb_perm scope thing grouping.buckets).pairwise_iff fun h => h.symm, List.pairwise_cons]
    refine ⟨?_, sound.apart.filter _⟩
    intro bucket hb
    rw [List.mem_filter, Bool.not_eq_true'] at hb
    exact ⟨hb.2, outside bucket hb.1⟩
  · intro bucket hb
    rcases mem_absorb_iff.mp hb with rfl | hb
    · exact ⟨thing, List.mem_append_right _ (List.mem_singleton_self _), found⟩
    · exact sound.opened bucket hb.1
  · intro bucket hb
    rcases mem_absorb_iff.mp hb with rfl | hb
    · intro other ho
      rcases List.mem_append.mp ho with ho | ho
      · obtain ⟨inner, hi, ho⟩ := List.mem_flatMap.mp ho
        rw [List.mem_filter] at hi
        obtain ⟨lower, hl, contains⟩ := sound.held inner hi.1 other ho
        exact ⟨lower, hl, Scope.contains_trans hi.2 contains⟩
      · rw [List.mem_singleton.mp ho]
        exact ⟨scope, found, scope.contains_refl⟩
    · exact sound.held bucket hb.1
  · simp [sound.loose, found]
  · refine (flatMap_absorb_perm scope thing grouping.buckets).trans ?_
    rw [List.filter_append]
    exact sound.kept.append (by simp [found])

theorem add (sound : Sound c things grouping) (thing : α) :
    Sound c (things ++ [thing]) (grouping.add thing (c thing)) := by
  cases found : c thing with
  | none => exact sound.add_none found
  | some scope =>
    cases h : join? scope thing grouping.buckets with
    | none => simpa only [Grouping.add, h, Option.getD_none] using sound.absorb found h
    | some joined => simpa only [Grouping.add, h, Option.getD_some] using sound.join found h

theorem items_subperm (sound : Sound c things grouping) {bucket : Bucket α}
    (hb : bucket ∈ grouping.buckets) :
    bucket.items.Subperm things := by
  have within : bucket.items.Sublist (grouping.buckets.flatMap Bucket.items) := by
    rw [List.flatMap_def]
    exact List.sublist_flatten_of_mem (List.mem_map_of_mem hb)
  exact within.subperm.trans (sound.kept.subperm.trans List.filter_sublist.subperm)

theorem mem_of_mem_items (sound : Sound c things grouping) {bucket : Bucket α}
    (hb : bucket ∈ grouping.buckets) {thing : α} (ht : thing ∈ bucket.items) : thing ∈ things :=
  (sound.items_subperm hb).subset ht

end Sound

theorem ofScopes_snoc (things : List (α × Option Scope)) (thing : α × Option Scope) :
    ofScopes (things ++ [thing]) = (ofScopes things).add thing.1 thing.2 := by
  simp [ofScopes]

theorem sound_ofScopes (c : α → Option Scope) (things : List α) :
    Sound c things (ofScopes (things.map fun thing => (thing, c thing))) := by
  induction things using List.reverseRecOn with
  | nil => exact Sound.empty
  | append_singleton things thing ih =>
    rw [List.map_append, List.map_singleton, ofScopes_snoc]
    exact ih.add thing

end Grouping

end ReviewContext
