/-! Stretches of a list between two positions that may count from its end. -/
namespace ReviewContext.Text

/-- The place in a list of `n` items that a position names: negative ones count from the end, and
what lies outside is moved to the nearer end. -/
def place (n : Nat) (position : Int) : Nat :=
  if position < 0 then (position + n).toNat else min position.toNat n

def slice (xs : List α) (first stop : Int) : List α :=
  (xs.drop (place xs.length first)).take (place xs.length stop - place xs.length first)

theorem slice_natCast (xs : List α) (first stop : Nat) :
    slice xs first stop = (xs.drop first).take (stop - first) := by
  apply List.ext_getElem?
  intro i
  simp only [slice, place, List.getElem?_take, List.getElem?_drop]
  by_cases h : first + i < xs.length
  · have hf : ¬ ((first : Int) < 0) := by omega
    have hs : ¬ ((stop : Int) < 0) := by omega
    simp only [hf, hs, if_false, Int.toNat_natCast]
    have : min first xs.length = first := by omega
    rw [this]
    by_cases hi : i < stop - first
    · simp only [hi, if_true, show i < min stop xs.length - first by omega]
    · simp only [hi, if_false, show ¬ i < min stop xs.length - first by omega]
  · have hn : xs.length ≤ first + i := by omega
    have hf : ¬ ((first : Int) < 0) := by omega
    have hs : ¬ ((stop : Int) < 0) := by omega
    simp only [hf, hs, if_false, Int.toNat_natCast, List.getElem?_eq_none hn, ite_self]
    have : xs.length ≤ min first xs.length + i ∨
      ¬ i < min stop xs.length - min first xs.length := by omega
    rcases this with h' | h'
    · rw [List.getElem?_eq_none h', ite_self]
    · rw [if_neg h']

end ReviewContext.Text
