import ReviewContext.Proofs.Scope.Grouping
import Mathlib.Data.List.TakeWhile

/-! Discovery: buckets stand in the order in which their first things came, and a bucket that takes
over others takes the place of the earliest of them. -/
namespace ReviewContext

def Bucket.map {α β : Type} (f : α → β) (bucket : Bucket α) : Bucket β :=
  ⟨bucket.scope, bucket.items.map f⟩

namespace Grouping

variable {α : Type} {scope : Scope} {item : α}

theorem absorb_of_apart {buckets : List (Bucket α)}
    (apart : ∀ bucket ∈ buckets, scope.contains bucket.scope = false) :
    absorb scope item buckets = buckets ++ [⟨scope, [item]⟩] := by
  have all : ∀ bucket ∈ buckets, (!scope.contains bucket.scope) = true :=
    fun bucket hb => by simp [apart bucket hb]
  have none : buckets.filter (fun bucket => scope.contains bucket.scope) = [] := by
    rw [List.filter_eq_nil_iff]
    exact fun bucket hb => by simp [apart bucket hb]
  unfold absorb
  simp only [List.takeWhile_eq_self_iff.mpr all, List.dropWhile_eq_nil_iff.mpr all, none]
  rfl

def taken (scope : Scope) (buckets : List (Bucket α)) : List α :=
  (buckets.filter fun bucket => scope.contains bucket.scope).flatMap Bucket.items

def others (scope : Scope) (buckets : List (Bucket α)) : List (Bucket α) :=
  buckets.filter fun bucket => !scope.contains bucket.scope

theorem absorb_append_cons {before after : List (Bucket α)} {inner : Bucket α}
    (apart : ∀ bucket ∈ before, scope.contains bucket.scope = false)
    (holds : scope.contains inner.scope = true) :
    absorb scope item (before ++ inner :: after) =
      before ++ ⟨scope, inner.items ++ taken scope after ++ [item]⟩ :: others scope after := by
  have all : ∀ bucket ∈ before, (!scope.contains bucket.scope) = true :=
    fun bucket hb => by simp [apart bucket hb]
  have none : before.filter (fun bucket => scope.contains bucket.scope) = [] := by
    rw [List.filter_eq_nil_iff]
    exact fun bucket hb => by simp [apart bucket hb]
  unfold absorb taken others
  simp only [List.takeWhile_append_of_pos all, List.dropWhile_append_of_pos all,
    List.filter_append, none]
  simp [holds]

theorem absorb_cases (scope : Scope) (buckets : List (Bucket α)) :
    (∀ bucket ∈ buckets, scope.contains bucket.scope = false) ∨
      ∃ before inner after, buckets = before ++ inner :: after ∧
        (∀ bucket ∈ before, scope.contains bucket.scope = false) ∧
          scope.contains inner.scope = true := by
  cases first : buckets.find? fun bucket => scope.contains bucket.scope with
  | none =>
    rw [List.find?_eq_none] at first
    exact .inl fun bucket hb => Bool.eq_false_iff.mpr (first bucket hb)
  | some inner =>
    obtain ⟨holds, before, after, split, apart⟩ := List.find?_eq_some_iff_append.mp first
    exact .inr ⟨before, inner, after, split, fun bucket hb => by simpa using apart bucket hb, holds⟩

def Leads (r : α → α → Prop) (bucket : Bucket α) : Prop :=
  ∃ first rest, bucket.items = first :: rest ∧ ∀ thing ∈ rest, r first thing

def Before (r : α → α → Prop) (a b : Bucket α) : Prop :=
  ∀ first ∈ a.items.head?, ∀ thing ∈ b.items, r first thing

/-- Buckets in order: the first thing of each is before all that follow it. -/
structure Ordered (r : α → α → Prop) (buckets : List (Bucket α)) : Prop where
  leads : ∀ bucket ∈ buckets, Leads r bucket
  before : buckets.Pairwise (Before r)

variable {r : α → α → Prop} {buckets : List (Bucket α)}

theorem Leads.snoc {bucket : Bucket α} (leads : Leads r bucket) {more : List α}
    (late : ∀ first ∈ bucket.items.head?, ∀ thing ∈ more, r first thing) (scope : Scope) :
    Leads r ⟨scope, bucket.items ++ more⟩ := by
  obtain ⟨first, rest, items, own⟩ := leads
  refine ⟨first, rest ++ more, by simp [items], ?_⟩
  intro thing ht
  rcases List.mem_append.mp ht with ht | ht
  · exact own thing ht
  · exact late first (by simp [items]) thing ht

theorem Leads.before_snoc {bucket other : Bucket α} (leads : Leads r bucket) (more : List α)
    (before : Before r bucket other) (scope : Scope) :
    Before r ⟨scope, bucket.items ++ more⟩ other := by
  obtain ⟨first, rest, items, -⟩ := leads
  intro same hs
  refine before same ?_
  simpa [items] using hs

theorem forall_mem_taken {P : α → Prop} (scope : Scope)
    (all : ∀ bucket ∈ buckets, ∀ thing ∈ bucket.items, P thing) (own : P item) :
    ∀ thing ∈ taken scope buckets ++ [item], P thing := by
  rw [List.forall_mem_append, List.forall_mem_singleton]
  refine ⟨fun thing ht => ?_, own⟩
  obtain ⟨bucket, hb, ht⟩ := List.mem_flatMap.mp ht
  exact all bucket (List.mem_of_mem_filter hb) thing ht

namespace Ordered

theorem join (ordered : Ordered r buckets)
    (late : ∀ bucket ∈ buckets, ∀ thing ∈ bucket.items, r thing item) {joined : List (Bucket α)}
    (h : join? scope item buckets = some joined) : Ordered r joined := by
  obtain ⟨front, bucket, back, rfl, -, rfl, -⟩ := join?_eq_some h
  obtain ⟨leads, before⟩ := ordered
  simp only [List.forall_mem_append, List.forall_mem_cons] at leads late
  simp only [List.pairwise_append, List.pairwise_cons, List.forall_mem_cons] at before
  obtain ⟨fronts, ⟨own, backs⟩, across⟩ := before
  have last : ∀ first ∈ bucket.items.head?, r first item := fun first hf =>
    late.2.1 first (List.mem_of_mem_head? hf)
  refine ⟨?_, ?_⟩
  · simp only [List.forall_mem_append, List.forall_mem_cons]
    exact ⟨leads.1, leads.2.1.snoc (fun first hf => by simpa using last first hf) _, leads.2.2⟩
  · simp only [List.pairwise_append, List.pairwise_cons, List.forall_mem_cons]
    refine ⟨fronts, ⟨fun other ho => leads.2.1.before_snoc _ (own other ho) _, backs⟩,
      fun a ha => ⟨?_, ?_⟩⟩
    · intro first hf thing ht
      rcases List.mem_append.mp ht with ht | ht
      · exact (across a ha).1 first hf thing ht
      · rw [List.mem_singleton.mp ht]
        exact late.1 a ha first (List.mem_of_mem_head? hf)
    · exact (across a ha).2

theorem absorb (ordered : Ordered r buckets)
    (late : ∀ bucket ∈ buckets, ∀ thing ∈ bucket.items, r thing item) (scope : Scope) :
    Ordered r (Grouping.absorb scope item buckets) := by
  rcases absorb_cases scope buckets with apart | ⟨front, inner, back, rfl, apart, holds⟩
  · rw [absorb_of_apart apart]
    refine ⟨?_, ?_⟩
    · rw [List.forall_mem_append, List.forall_mem_singleton]
      exact ⟨ordered.leads, item, [], rfl, nofun⟩
    · rw [List.pairwise_append]
      refine ⟨ordered.before, List.pairwise_singleton .., ?_⟩
      intro a ha b hb first hf thing ht
      rw [List.mem_singleton.mp hb, List.mem_singleton] at ht
      rw [ht]
      exact late a ha first (List.mem_of_mem_head? hf)
  · rw [absorb_append_cons apart holds]
    obtain ⟨leads, before⟩ := ordered
    simp only [List.forall_mem_append, List.forall_mem_cons] at leads late
    simp only [List.pairwise_append, List.pairwise_cons, List.forall_mem_cons] at before
    obtain ⟨fronts, ⟨own, backs⟩, across⟩ := before
    have last : ∀ first ∈ inner.items.head?, r first item := fun first hf =>
      late.2.1 first (List.mem_of_mem_head? hf)
    rw [List.append_assoc]
    refine ⟨?_, ?_⟩
    · simp only [List.forall_mem_append, List.forall_mem_cons]
      refine ⟨leads.1, leads.2.1.snoc (fun first hf => ?_) _, fun other ho =>
        leads.2.2 other (List.mem_of_mem_filter ho)⟩
      exact forall_mem_taken scope (fun other ho => own other ho first hf) (last first hf)
    · simp only [List.pairwise_append, List.pairwise_cons, List.forall_mem_cons]
      refine ⟨fronts,
        ⟨fun other ho => leads.2.1.before_snoc _ (own other (List.mem_of_mem_filter ho)) _,
          backs.filter _⟩,
        fun a ha => ⟨fun first hf => ?_,
          fun b hb => (across a ha).2 b (List.mem_of_mem_filter hb)⟩⟩
      rw [List.forall_mem_append]
      exact ⟨(across a ha).1 first hf,
        forall_mem_taken scope (fun other ho => (across a ha).2 other ho first hf)
        (late.1 a ha first (List.mem_of_mem_head? hf))⟩

theorem add {grouping : Grouping α} (ordered : Ordered r grouping.buckets)
    (late : ∀ bucket ∈ grouping.buckets, ∀ thing ∈ bucket.items, r thing item)
    (found : Option Scope) :
    Ordered r (grouping.add item found).buckets := by
  cases found with
  | none => exact ordered
  | some scope =>
    cases h : join? scope item grouping.buckets with
    | none => simpa only [Grouping.add, h, Option.getD_none] using ordered.absorb late scope
    | some joined => simpa only [Grouping.add, h, Option.getD_some] using ordered.join late h

end Ordered

theorem ordered_ofScopes (c : α → Option Scope) {things : List α} (order : things.Pairwise r) :
    Ordered r (ofScopes (things.map fun thing => (thing, c thing))).buckets := by
  induction things using List.reverseRecOn with
  | nil => exact ⟨nofun, .nil⟩
  | append_singleton things thing ih =>
    rw [List.pairwise_append] at order
    rw [List.map_append, List.map_singleton, ofScopes_snoc]
    refine (ih order.1).add (fun bucket hb other ho => ?_) _
    exact order.2.2 other ((sound_ofScopes c things).mem_of_mem_items hb ho) thing
      (List.mem_singleton_self _)

/-! Things may be told apart by numbers that are forgotten afterwards. -/

section

variable {β : Type}

def map (f : α → β) (grouping : Grouping α) : Grouping β :=
  ⟨grouping.buckets.map (Bucket.map f), grouping.loose.map f⟩

theorem join?_map (f : α → β) (scope : Scope) (item : α) (buckets : List (Bucket α)) :
    join? scope (f item) (buckets.map (Bucket.map f)) =
      (join? scope item buckets).map (List.map (Bucket.map f)) := by
  induction buckets with
  | nil => rfl
  | cons bucket rest ih =>
    rw [List.map_cons, join?, join?, ih]
    by_cases holds : bucket.scope.contains scope = true
    · simp [Bucket.map, holds]
    · simp [Bucket.map, holds, Function.comp_def]

theorem absorb_map (f : α → β) (scope : Scope) (item : α) (buckets : List (Bucket α)) :
    absorb scope (f item) (buckets.map (Bucket.map f)) =
      (absorb scope item buckets).map (Bucket.map f) := by
  unfold absorb
  simp [List.takeWhile_map, List.dropWhile_map, List.filter_map, Function.comp_def, Bucket.map,
    List.flatMap_map, List.map_flatMap]

theorem add_map (f : α → β) (grouping : Grouping α) (item : α) (found : Option Scope) :
    (grouping.map f).add (f item) found = (grouping.add item found).map f := by
  cases found with
  | none => simp [add, map]
  | some scope =>
    simp only [add, map, join?_map, absorb_map]
    cases join? scope item grouping.buckets <;> rfl

theorem ofScopes_map (f : α → β) (things : List (α × Option Scope)) :
    ofScopes (things.map fun thing => (f thing.1, thing.2)) = (ofScopes things).map f := by
  induction things using List.reverseRecOn with
  | nil => rfl
  | append_singleton things thing ih =>
    rw [List.map_append, List.map_singleton, ofScopes_snoc, ofScopes_snoc, ih]
    exact add_map ..

end

end Grouping

end ReviewContext
