import ReviewContext.Scope.Basic
import ReviewContext.Proofs.Text.Decimal

/-! Keys: the printed form of a scope tells its lines. -/
namespace ReviewContext

theorem toList_spanKey (first last : Nat) :
    (spanKey first last).toList =
      Text.decimal first ++ (' ' :: '-' :: '>' :: ' ' :: Text.decimal last) := by
  change (toString first ++ " -> " ++ toString last).toList = _
  simp [Text.decimal]

theorem spanKey_injective {a b c d : Nat} (h : spanKey a b = spanKey c d) : a = c ∧ b = d := by
  have lists := congrArg String.toList h
  rw [toList_spanKey, toList_spanKey] at lists
  have firsts := congrArg (List.takeWhile (· ≠ ' ')) lists
  have inside (n : Nat) : ∀ x ∈ Text.decimal n, decide (x ≠ ' ') = true := by
    intro x hx
    exact decide_eq_true fun blank => Text.not_blank_mem_decimal n (blank ▸ hx)
  rw [List.takeWhile_append_of_pos (inside a), List.takeWhile_append_of_pos (inside c)] at firsts
  simp only [ne_eq, not_true_eq_false, decide_false, Bool.false_eq_true, not_false_eq_true,
    List.takeWhile_cons_of_neg, List.append_nil] at firsts
  rw [firsts] at lists
  have seconds := List.append_cancel_left lists
  simp only [List.cons.injEq, true_and] at seconds
  exact ⟨Text.decimal_injective firsts, Text.decimal_injective seconds⟩

theorem Scope.key_eq_key_iff {a b : Scope} : a.key = b.key ↔ a.sameSpan b = true := by
  constructor
  · intro h
    obtain ⟨first, last⟩ := spanKey_injective h
    simp [sameSpan, first, last]
  · intro h
    simp only [sameSpan, Bool.and_eq_true, beq_iff_eq] at h
    simp only [key, h]

theorem Scope.key_eq_key_iff_contains {a b : Scope} :
    a.key = b.key ↔ a.contains b = true ∧ b.contains a = true :=
  key_eq_key_iff.trans sameSpan_iff

end ReviewContext
