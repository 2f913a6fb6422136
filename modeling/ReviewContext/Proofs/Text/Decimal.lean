import ReviewContext.Text.Integer
import ReviewContext.Text.Writable

/-! Decimals: a number that is written in ASCII digits is known by them, and it is read back unless
it is too long to be read. -/
namespace ReviewContext.Text

def decimal (n : Nat) : List Char := Nat.toDigits 10 n

@[simp] theorem toList_toString (n : Nat) : (toString n).toList = decimal n := Nat.toList_repr

theorem isDigit_of_mem_decimal {n : Nat} {c : Char} (h : c ∈ decimal n) : c.isDigit = true :=
  Nat.isDigit_of_mem_toDigits (by decide) (by decide) h

theorem not_blank_mem_decimal (n : Nat) : ' ' ∉ decimal n := fun h => by
  have digit := isDigit_of_mem_decimal h
  contradiction

theorem decimal_injective {m n : Nat} (h : decimal m = decimal n) : m = n := by
  rw [← Nat.ofDigitChars_ten_toDigits (n := m), ← Nat.ofDigitChars_ten_toDigits (n := n)]
  exact congrArg (Nat.ofDigitChars 10 · 0) h

theorem toList_toString_int (n : Int) :
    (toString n).toList = if n < 0 then '-' :: decimal n.natAbs else decimal n.natAbs := by
  cases n with
  | ofNat m => exact toList_toString m
  | negSucc m =>
    change ("-" ++ toString (m + 1)).toList = _
    rw [String.toList_append, toList_toString, if_pos (Int.negSucc_lt_zero m)]
    rfl

theorem eq_minus_or_isDigit_of_mem_int {n : Int} {c : Char} (h : c ∈ (toString n).toList) :
    c = '-' ∨ c.isDigit = true := by
  rw [toList_toString_int] at h
  split at h
  · exact (List.mem_cons.mp h).imp_right isDigit_of_mem_decimal
  · exact .inr (isDigit_of_mem_decimal h)

theorem toString_int_injective {m n : Int} (h : toString m = toString n) : m = n := by
  have lists := congrArg String.toList h
  have unsigned (n : Nat) : '-' ∉ decimal n := fun inside => by
    have digit := isDigit_of_mem_decimal inside
    contradiction
  rw [toList_toString_int, toList_toString_int] at lists
  split at lists <;> split at lists
  · have same := decimal_injective (List.cons.inj lists).2
    omega
  · exact absurd (lists ▸ List.mem_cons_self) (unsigned _)
  · exact absurd (lists.symm ▸ List.mem_cons_self) (unsigned _)
  · have same := decimal_injective lists
    omega

def EndsNumber (rest : List Char) : Prop := ∀ c ∈ rest.head?, digitValue? c = none

theorem spanDigits_append {digits rest : List Char} (hd : ∀ c ∈ digits, c.isDigit = true)
    (hr : EndsNumber rest) : spanDigits (digits ++ rest) = (digits.map (·.toNat - 48), rest) := by
  induction digits with
  | nil =>
    cases rest with
    | nil => rfl
    | cons c rest =>
      have hc := hr c rfl
      simp [spanDigits, hc]
  | cons c digits ih =>
    have hc := digitValue?_of_isDigit (hd c (List.mem_cons_self ..))
    simp [spanDigits, hc, ih fun d h => hd d (List.mem_cons_of_mem _ h)]

theorem numberOfDigits_decimal (n : Nat) : numberOfDigits ((decimal n).map (·.toNat - 48)) = n := by
  rw [numberOfDigits, List.foldl_map]
  exact Nat.ofDigitChars_ten_toDigits

theorem length_decimal_le {n k : Nat} (hk : 0 < k) : (decimal n).length ≤ k ↔ n < Nat.pow 10 k :=
  Nat.length_toDigits_le_iff (by decide) hk

theorem isWritable_natCast (n : Nat) : isWritable n = true ↔ n < Nat.pow 10 digitLimit := by
  rw [isWritable, decide_eq_true_eq, Int.natAbs_natCast]

theorem isWritable_of_le {m n : Nat} (h : isWritable n = true) (le : m ≤ n) :
    isWritable m = true := by
  rw [isWritable_natCast] at h ⊢
  exact Nat.lt_of_le_of_lt le h

theorem boundedNumber_decimal {n : Nat} (h : isWritable n = true) :
    boundedNumber ((decimal n).map (·.toNat - 48)) = .ok n := by
  rw [isWritable_natCast, ← length_decimal_le (by decide)] at h
  rw [boundedNumber, List.length_map, if_pos h, numberOfDigits_decimal]

end ReviewContext.Text
