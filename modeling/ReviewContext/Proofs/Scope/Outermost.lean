import ReviewContext.Proofs.Scope.HunkGrouping
import ReviewContext.Proofs.Scope.Key
import Mathlib.Data.List.Pairwise

/-! Outermost scopes: the buckets of a grouping are the largest of the scopes found, so that the
order in which things are added does not matter. -/
namespace ReviewContext

namespace Scope

def sharedLines (a b : Scope) : Nat := min a.last b.last + 1 - max a.first b.first

theorem lineCount_le_sharedLines {inner a b : Scope} (ha : a.contains inner = true)
    (hb : b.contains inner = true) : inner.lineCount ≤ a.sharedLines b := by
  have order := inner.first_le_last
  simp only [contains, Bool.and_eq_true, decide_eq_true_eq] at ha hb
  unfold lineCount sharedLines
  omega

end Scope

namespace Grouping

variable {α : Type} {c : α → Option Scope} {things : List α} {grouping : Grouping α}

/-- A scope found for some thing, in no larger one found for another. -/
def Outermost (c : α → Option Scope) (things : List α) (scope : Scope) : Prop :=
  (∃ thing ∈ things, c thing = some scope) ∧
    ∀ thing ∈ things, ∀ other, c thing = some other → other.contains scope = true →
      scope.contains other = true

/-- The scopes found have two lines or more, and two of them that are not nested share one line at
most. -/
def Laminar (c : α → Option Scope) (things : List α) : Prop :=
  (∀ thing ∈ things, ∀ scope, c thing = some scope → 2 ≤ scope.lineCount) ∧
    ∀ x ∈ things, ∀ y ∈ things, ∀ a b, c x = some a → c y = some b →
      a.contains b = true ∨ b.contains a = true ∨ a.sharedLines b ≤ 1

theorem outermost_iff_of_perm {others : List α} (order : others.Perm things) {scope : Scope} :
    Outermost c others scope ↔ Outermost c things scope := by
  simp only [Outermost, order.mem_iff]

theorem laminar_iff_of_perm {others : List α} (order : others.Perm things) :
    Laminar c others ↔ Laminar c things := by
  simp only [Laminar, order.mem_iff]

instance : Std.Symm fun a b : Bucket α => Apart a.scope b.scope := ⟨fun _ _ h => h.symm⟩

namespace Sound

theorem exists_bucket (sound : Sound c things grouping) {thing : α} (ht : thing ∈ things)
    {scope : Scope} (found : c thing = some scope) :
    ∃ bucket ∈ grouping.buckets, thing ∈ bucket.items ∧ bucket.scope.contains scope = true := by
  have member := sound.kept.mem_iff.mpr (List.mem_filter.mpr ⟨ht, by simp [found]⟩)
  obtain ⟨bucket, hb, hi⟩ := List.mem_flatMap.mp member
  obtain ⟨own, ho, holds⟩ := sound.held bucket hb thing hi
  rw [found, Option.some.injEq] at ho
  exact ⟨bucket, hb, hi, ho ▸ holds⟩

theorem eq_of_contains (sound : Sound c things grouping) {a b : Bucket α}
    (ha : a ∈ grouping.buckets) (hb : b ∈ grouping.buckets)
    (h : a.scope.contains b.scope = true) : a = b := by
  by_contra different
  have apart := sound.apart.forall ha hb different
  rw [apart.1] at h
  contradiction

theorem outermost_of_mem (sound : Sound c things grouping) {bucket : Bucket α}
    (hb : bucket ∈ grouping.buckets) : Outermost c things bucket.scope := by
  obtain ⟨opener, ho, found⟩ := sound.opened bucket hb
  refine ⟨⟨opener, sound.mem_of_mem_items hb ho, found⟩, ?_⟩
  intro thing ht other hc contains
  obtain ⟨around, ha, -, holds⟩ := sound.exists_bucket ht hc
  rw [sound.eq_of_contains ha hb (Scope.contains_trans holds contains)] at holds
  exact holds

theorem mem_keys_iff (sound : Sound c things grouping) {key : String} :
    key ∈ grouping.keys ↔ ∃ scope, Outermost c things scope ∧ scope.key = key := by
  rw [keys, List.mem_map]
  constructor
  · rintro ⟨bucket, hb, rfl⟩
    exact ⟨bucket.scope, sound.outermost_of_mem hb, rfl⟩
  · rintro ⟨scope, ⟨⟨thing, ht, found⟩, largest⟩, rfl⟩
    obtain ⟨bucket, hb, -, holds⟩ := sound.exists_bucket ht found
    obtain ⟨opener, ho, hc⟩ := sound.opened bucket hb
    have within := largest opener (sound.mem_of_mem_items hb ho) bucket.scope hc holds
    exact ⟨bucket, hb, Scope.key_eq_key_iff_contains.mpr ⟨holds, within⟩⟩

theorem nodup_keys (sound : Sound c things grouping) : grouping.keys.Nodup := by
  rw [keys, List.Nodup, List.pairwise_map]
  refine sound.apart.imp ?_
  intro a b apart same
  have both := Scope.key_eq_key_iff_contains.mp same
  rw [apart.1] at both
  exact Bool.false_ne_true both.1

theorem mem_items_of_contains (sound : Sound c things grouping) (laminar : Laminar c things)
    {bucket : Bucket α} (hb : bucket ∈ grouping.buckets) {other : Bucket α}
    (ho : other ∈ grouping.buckets) {thing : α} (ht : thing ∈ other.items) {scope : Scope}
    (found : c thing = some scope) (h : bucket.scope.contains scope = true) : other = bucket := by
  obtain ⟨own, hc, holds⟩ := sound.held other ho thing ht
  rw [found, Option.some.injEq] at hc
  subst hc
  obtain ⟨x, hx, hxc⟩ := sound.opened other ho
  obtain ⟨y, hy, hyc⟩ := sound.opened bucket hb
  have long := laminar.1 thing (sound.mem_of_mem_items ho ht) scope found
  have short := Scope.lineCount_le_sharedLines holds h
  rcases laminar.2 x (sound.mem_of_mem_items ho hx) y (sound.mem_of_mem_items hb hy) _ _ hxc
      hyc with
    around | inside | few
  · exact sound.eq_of_contains ho hb around
  · exact (sound.eq_of_contains hb ho inside).symm
  · omega

theorem any_contains (sound : Sound c things grouping) {bucket : Bucket α}
    (hb : bucket ∈ grouping.buckets) :
    ∀ thing ∈ bucket.items, (c thing).any bucket.scope.contains = true := by
  intro thing ht
  obtain ⟨scope, found, holds⟩ := sound.held bucket hb thing ht
  rw [found, Option.any_some]
  exact holds

theorem not_any_contains (sound : Sound c things grouping) (laminar : Laminar c things)
    {bucket other : Bucket α} (hb : bucket ∈ grouping.buckets) (ho : other ∈ grouping.buckets)
    (apart : Apart bucket.scope other.scope) :
    ∀ thing ∈ other.items, ¬ (c thing).any bucket.scope.contains = true := by
  intro thing ht inside
  obtain ⟨scope, found, holds⟩ := (Option.any_eq_true _ _).mp inside
  have self := apart.1
  rw [sound.mem_items_of_contains laminar hb ho ht found holds, Scope.contains_refl] at self
  contradiction

theorem items_perm (sound : Sound c things grouping) (laminar : Laminar c things)
    {bucket : Bucket α} (hb : bucket ∈ grouping.buckets) :
    bucket.items.Perm (things.filter fun thing => (c thing).any bucket.scope.contains) := by
  obtain ⟨before, after, split⟩ := List.append_of_mem hb
  have order : grouping.buckets.Perm (bucket :: (before ++ after)) := split ▸ List.perm_middle
  have apart := sound.apart
  rw [order.pairwise_iff fun h => h.symm, List.pairwise_cons] at apart
  have outside : ((before ++ after).flatMap Bucket.items).filter
      (fun thing => (c thing).any bucket.scope.contains) = [] := by
    rw [List.filter_eq_nil_iff]
    intro thing ht
    obtain ⟨other, ho, ht⟩ := List.mem_flatMap.mp ht
    have member := order.mem_iff.mpr (List.mem_cons_of_mem _ ho)
    exact sound.not_any_contains laminar hb member (apart.1 other ho) thing ht
  have placed : (things.filter fun thing => (c thing).isSome).filter
      (fun thing => (c thing).any bucket.scope.contains) =
        things.filter fun thing => (c thing).any bucket.scope.contains := by
    rw [List.filter_filter]
    refine List.filter_congr fun thing _ => ?_
    cases found : c thing <;> simp
  -- All things with a scope are in some bucket; of these the filter leaves those of this bucket.
  have kept := ((order.flatMap_right Bucket.items).symm.trans sound.kept).filter
    fun thing => (c thing).any bucket.scope.contains
  rw [List.flatMap_cons, List.filter_append, List.filter_eq_self.mpr (sound.any_contains hb),
    outside, List.append_nil, placed] at kept
  exact kept

end Sound

/-- In whatever order hunks come, the keys are those of the outermost scopes found for them; and if
scopes that are not nested hardly meet, each bucket has just the hunks whose scopes lie in its
own. -/
theorem ofHunks_order_free {text : String} {margin : SearchMargin} {find : Finder}
    {hunks others : List Diff.Hunk} {grouping : Grouping Diff.Hunk}
    (grouped : ofHunks text margin find hunks = .ok grouping) (order : others.Perm hunks) :
    ∃ regrouped, ofHunks text margin find others = .ok regrouped ∧ regrouped.keys.Nodup ∧
      (∀ key, key ∈ regrouped.keys ↔
        ∃ scope, Outermost (foundScope text margin find) hunks scope ∧ scope.key = key) ∧
      (Laminar (foundScope text margin find) hunks → ∀ bucket ∈ regrouped.buckets,
        bucket.items.Perm (hunks.filter fun hunk =>
          (foundScope text margin find hunk).any bucket.scope.contains)) := by
  obtain ⟨regrouped, again⟩ := ofHunks_of_perm order grouped
  have sound := sound_ofHunks again
  refine ⟨regrouped, again, sound.nodup_keys, ?_, ?_⟩
  · intro key
    simp only [sound.mem_keys_iff, outermost_iff_of_perm order]
  · intro laminar bucket hb
    exact (sound.items_perm ((laminar_iff_of_perm order).mpr laminar) hb).trans (order.filter _)

theorem ofHunks_order_free_nested :
    let inner : Scope := ⟨.block, "if", 2, 3, "", none, by decide, by decide⟩
    let outer : Scope := ⟨.definition, "def", 1, 5, "", none, by decide, by decide⟩
    let find : Finder := fun rows => .ok (some (if rows.first = 1 then inner else outer))
    let second : Diff.Hunk := ⟨⟨2, 0⟩, ⟨2, 1⟩, [⟨.added, "b"⟩], ["\n"]⟩
    let fifth : Diff.Hunk := ⟨⟨4, 0⟩, ⟨5, 1⟩, [⟨.added, "e"⟩], ["\n"]⟩
    let found := foundScope "a\nb\nc\nd\ne" (.whole 0) find
    (ofHunks "a\nb\nc\nd\ne" (.whole 0) find [second, fifth]).isOk = true ∧
      [fifth, second].Perm [second, fifth] ∧ Laminar found [second, fifth] ∧
      ∃ regrouped, ofHunks "a\nb\nc\nd\ne" (.whole 0) find [fifth, second] = .ok regrouped ∧
        outer.key ∈ regrouped.keys ∧ ∀ bucket ∈ regrouped.buckets,
          bucket.items.Perm ([second, fifth].filter fun hunk =>
            (found hunk).any bucket.scope.contains) := by
  -- The scope around the later of two hunks holds that of the earlier one, and they come last
  -- first.
  intro inner outer find second fifth found
  have ok : (ofHunks "a\nb\nc\nd\ne" (.whole 0) find [second, fifth]).isOk =
    true := by decide +kernel
  have foundSecond : found second = some inner := by decide +kernel
  have foundFifth : found fifth = some outer := by decide +kernel
  have order : [fifth, second].Perm [second, fifth] := .swap ..
  have laminar : Laminar found [second, fifth] := by
    simp [Laminar, foundSecond, foundFifth, Scope.contains, Scope.lineCount, inner, outer]
  have largest : Outermost found [second, fifth] outer := by
    simp [Outermost, foundSecond, foundFifth, Scope.contains, inner, outer]
  refine ⟨ok, order, laminar, ?_⟩
  cases grouped : ofHunks "a\nb\nc\nd\ne" (.whole 0) find [second, fifth] with
  | error => simp [grouped, Except.isOk, Except.toBool] at ok
  | ok grouping =>
    obtain ⟨regrouped, again, -, keys, buckets⟩ := ofHunks_order_free grouped order
    exact ⟨regrouped, again, (keys _).mpr ⟨outer, largest, rfl⟩, buckets laminar⟩

end Grouping

end ReviewContext
