import ReviewContext.Proofs.Scope.Key
import ReviewContext.Proofs.Scope.HunkGrouping
import ReviewContext.Syntax.Language

/-! Order: containment orders the stretches of lines that scopes are, and the keys tell these
stretches apart. A key can be had exactly if the number of the last line can be written. -/
namespace ReviewContext

namespace Scope

variable {a b scope : Scope}

theorem contains_eq_false_of_key_ne (holds : a.contains b = true) (differ : a.key ≠ b.key) :
    b.contains a = false :=
  Bool.eq_false_iff.mpr fun within => differ (key_eq_key_iff_contains.mpr ⟨holds, within⟩)

theorem lineCount_lt_of_contains (holds : a.contains b = true) (outer : b.contains a = false) :
    b.lineCount < a.lineCount := by
  have ordered := b.first_le_last
  simp only [contains, Bool.and_eq_true, decide_eq_true_eq] at holds
  simp only [contains, Bool.and_eq_false_iff, decide_eq_false_iff_not] at outer
  unfold lineCount
  omega

theorem isWritable_iff : scope.isWritable = true ↔
    (Text.decimal scope.last).length ≤ Text.digitLimit := by
  rw [isWritable, Bool.and_eq_true, Text.length_decimal_le (by decide), ← Text.isWritable_natCast]
  exact ⟨And.right, fun last => ⟨Text.isWritable_of_le last scope.first_le_last, last⟩⟩

theorem namedKey_of_short (short : (Text.decimal scope.last).length ≤ Text.digitLimit) :
    scope.namedKey = .ok scope.key :=
  if_pos (isWritable_iff.mpr short)

theorem namedKey_of_long (long : ¬ (Text.decimal scope.last).length ≤ Text.digitLimit) :
    scope.namedKey = .error .unwritable :=
  if_neg fun writable => long (isWritable_iff.mp writable)

theorem namedKey_eq_namedKey_iff (short : (Text.decimal a.last).length ≤ Text.digitLimit) :
    a.namedKey = b.namedKey ↔ a.key = b.key := by
  rw [namedKey_of_short short]
  constructor
  · intro same
    by_cases other : (Text.decimal b.last).length ≤ Text.digitLimit
    · rw [namedKey_of_short other] at same
      exact Except.ok.inj same
    · rw [namedKey_of_long other] at same
      contradiction
  · intro same
    have last := (spanKey_injective same).2
    rw [namedKey_of_short (last ▸ short), same]

/-- Scopes that lie in each other, and no others, have one key, and of two scopes with different
keys only the one with more lines can hold the other. A key shows both numbers in full: if the last
one is too long for that there is none. -/
theorem namedKey_identifies (a b c : Scope) :
    (a.namedKey = if (Text.decimal a.last).length ≤ Text.digitLimit then .ok a.key
      else .error .unwritable) ∧
      ((Text.decimal a.last).length ≤ Text.digitLimit →
        (a.namedKey = b.namedKey ↔ a.contains b = true ∧ b.contains a = true)) ∧
      (a.key = b.key ↔ a.contains b = true ∧ b.contains a = true) ∧
      a.contains a = true ∧
      (a.contains b = true → b.contains c = true → a.contains c = true) ∧
      (a.contains b = true → a.key ≠ b.key → b.contains a = false ∧ b.lineCount < a.lineCount) := by
  refine ⟨?_, fun short => ?_, key_eq_key_iff_contains, contains_refl a, contains_trans,
    fun holds differ => ?_⟩
  · split
    next short => exact namedKey_of_short short
    next long => exact namedKey_of_long long
  · exact (namedKey_eq_namedKey_iff short).trans key_eq_key_iff_contains
  · have outer := contains_eq_false_of_key_ne holds differ
    exact ⟨outer, lineCount_lt_of_contains holds outer⟩

theorem namedKey_identifies_nested :
    let outer : Scope :=
      ⟨.definition, "class_definition", 9, 111, "", some "C", by decide, by decide⟩
    let inner : Scope :=
      ⟨.definition, "function_definition", 91, 111, "", some "f", by decide, by decide⟩
    let core : Scope := ⟨.block, "if_statement", 91, 92, "", none, by decide, by decide⟩
    (Text.decimal outer.last).length ≤ Text.digitLimit ∧ outer.contains inner = true ∧
      inner.contains core = true ∧
      outer.key ≠ inner.key ∧ outer.namedKey = .ok "9 -> 111" ∧ outer.namedKey ≠ inner.namedKey ∧
      outer.contains core = true ∧ inner.contains outer = false ∧
        inner.lineCount < outer.lineCount := by
  -- A class, a method at its end and a block in that; the keys of the first two begin and end
  -- alike.
  intro outer inner core
  have short : (Text.decimal outer.last).length ≤ Text.digitLimit := by decide
  have differ : outer.key ≠ inner.key := by decide
  obtain ⟨named, alike, -, -, within, smaller⟩ := namedKey_identifies outer inner core
  obtain ⟨apart, fewer⟩ := smaller (by decide) differ
  refine ⟨short, by decide, by decide, differ, ?_, ?_, within (by decide) (by decide), apart, fewer⟩
  · rw [named, if_pos short]
    decide
  · intro same
    exact Bool.false_ne_true (apart.symm.trans ((alike short).mp same).2)

end Scope

theorem scopeOfHunk_of_namedKey {lastLine : Nat} {margin : SearchMargin} {find : Finder}
    {hunk : Diff.Hunk} {scope : Scope}
    (found : (searchHunk lastLine margin find hunk).scope = .ok (some scope))
    (unnamed : scope.namedKey = .error .unwritable) :
    scopeOfHunk lastLine margin find hunk = .error .unwritable := by
  have unwritable : scope.isWritable = false := by
    rw [Bool.eq_false_iff]
    intro writable
    rw [Scope.namedKey, if_pos writable] at unnamed
    contradiction
  rw [scopeOfHunk, found]
  simp only [bind, Except.bind, Option.all_some, unwritable, Bool.and_false, Bool.false_eq_true,
    if_false]
  rfl

theorem Scope.namedKey_distant :
    let text := "def f():\n    b\n"
    let body : Syntax.Tree :=
      .node ⟨"function_definition", 0, 0, Nat.pow 10 4300 - 1, 0, 15, none, {}⟩ []
    let tree : Syntax.Tree := .node ⟨"module", 0, 0, Nat.pow 10 4300 - 1, 0, 15, none, {}⟩ [body]
    let find := findScope Syntax.Language.python.profile ⟨text, .ok tree⟩
    let hunk : Diff.Hunk := ⟨⟨2, 1⟩, ⟨2, 1⟩, [⟨.removed, "    a"⟩, ⟨.added, "    b"⟩], ["\n", "\n"]⟩
    ∃ scope longer : Scope, find ⟨0, 2⟩ = .ok (some scope) ∧ scope.contains scope = true ∧
      (∀ key, scope.namedKey ≠ .ok key) ∧ longer.namedKey = scope.namedKey ∧
        scope.contains longer = false ∧
      Grouping.ofHunks text (.whole 50) find [hunk] = .error .unwritable := by
  -- A function whose last row has as many digits as can be read ends at a line with one more. It
  -- holds itself and has no key, nor has a longer one that does not lie in it, and hunks cannot be
  -- grouped by it.
  intro text body tree find hunk
  let scope : Scope :=
    ⟨.definition, "function_definition", 1, Nat.pow 10 4300, "def f():\n    b\n", none, by decide,
    by decide +kernel⟩
  let longer : Scope :=
    ⟨.definition, "function_definition", 1, Nat.pow 10 4300 + 1, "", none, by decide,
    by decide +kernel⟩
  have unnamed : scope.namedKey = .error .unwritable := by
    have long : scope.isWritable = false := by decide +kernel
    rw [namedKey, long]
    rfl
  have unnamed' : longer.namedKey = .error .unwritable := by
    have long : longer.isWritable = false := by decide +kernel
    rw [namedKey, long]
    rfl
  have answer : (searchHunk (lastLine text) (.whole 50) find hunk).scope =
    .ok (some scope) := by decide +kernel
  refine ⟨scope, longer, by decide +kernel, scope.contains_refl, fun key => ?_,
    unnamed'.trans unnamed.symm, by decide +kernel, ?_⟩
  · rw [unnamed]
    nofun
  · rw [Grouping.ofHunks, scopesOfHunks, List.mapM_cons, scopeOfHunk_of_namedKey answer unnamed]
    rfl

end ReviewContext
