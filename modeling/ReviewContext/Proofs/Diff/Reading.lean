import ReviewContext.Proofs.Diff.HunkRows

/-! Readings: how the rows of a diff are used up, hunk by hunk, until they are all read or one of
them is refused. -/
namespace ReviewContext.Diff

namespace Header.WrittenExtent

def first (written : WrittenExtent) : Nat := Text.numberOfDigits written.start

def declared (written : WrittenExtent) : Nat := Text.numberOfDigits (written.count.getD [1])

def Short (written : WrittenExtent) : Prop :=
  written.start.length ≤ Text.digitLimit ∧ (written.count.getD [1]).length ≤ Text.digitLimit

instance (written : WrittenExtent) : Decidable written.Short := inferInstanceAs (Decidable (_ ∧ _))

theorem read_of_short {written : WrittenExtent} (short : written.Short) :
    written.read = .ok (settled written.first written.declared) := by
  rw [read, Text.boundedNumber, if_pos short.1, Text.boundedNumber, if_pos short.2]
  rfl

theorem read_of_not_short {written : WrittenExtent} (long : ¬ written.Short) :
    ∃ excess, written.read = .error (.tooLong excess) := by
  rw [read, Text.boundedNumber, Text.boundedNumber]
  by_cases start : written.start.length ≤ Text.digitLimit
  · have count : ¬ (written.count.getD [1]).length ≤ Text.digitLimit :=
      fun count => long ⟨start, count⟩
    rw [if_pos start, if_neg count]
    exact ⟨_, rfl⟩
  · rw [if_neg start]
    exact ⟨_, rfl⟩

end Header.WrittenExtent

open Header (WrittenExtent)

theorem opensHunk_of_extents? {row : Row} {extents : WrittenExtent × WrittenExtent}
    (written : Header.extents? row.text = some extents) : row.opensHunk = true := by
  unfold Header.extents? at written
  split at written
  next cs text => rw [Row.opensHunk, startsWith_cons text "@@" '@' ['@'] rfl]; rfl
  next => contradiction

def declaredCounts (old new : WrittenExtent) : Counts := ⟨old.declared, new.declared⟩

def hunkOfRows (old new : WrittenExtent) (taken : List Row) : Hunk :=
  Hunk.ofBody (Header.settled old.first old.declared) (Header.settled new.first new.declared)
    (Body.ofRows taken)

inductive HunkOutcome (header : Row) : List Row → Except ReadError (Hunk × List Row) → Prop
  | taken (old new : WrittenExtent) (written : Header.extents? header.text = some (old, new))
    (taken skipped left : List Row) (remarks : ∀ row ∈ skipped, row.isRemark = true)
    (body : Taken (declaredCounts old new) ⟨0, 0⟩ taken (skipped ++ left)) :
    HunkOutcome header (taken ++ (skipped ++ left)) (.ok (hunkOfRows old new taken, left))
  | unknownHeader (rows : List Row) (unread : Header.extents? header.text = none) :
    HunkOutcome header rows (.error (.malformed (.unknownHeader header.text header.number)))
  | tooLong (rows : List Row) (old new : WrittenExtent)
    (written : Header.extents? header.text = some (old, new)) (long : ¬ (old.Short ∧ new.Short))
    (excess : Text.TooLong) : HunkOutcome header rows (.error (.tooLong excess))
  | refused (old new : WrittenExtent) (written : Header.extents? header.text = some (old, new))
    (before : List Row) (row : Row) (after : List Row) (fault : Malformed)
    (inside : Inside (declaredCounts old new) ⟨0, 0⟩ before row after)
    (kept : Kept (declaredCounts old new) ⟨0, 0⟩ before)
    (spoils : Spoils (declaredCounts old new) ⟨0, 0⟩ before row fault) :
    HunkOutcome header (before ++ row :: after) (.error (.malformed fault))

theorem hunkOutcome_takeHunk (header : Row) (rows : List Row) :
    HunkOutcome header rows (takeHunk header rows) := by
  unfold takeHunk
  cases written : Header.extents? header.text with
  | none => exact .unknownHeader rows written
  | some extents =>
    obtain ⟨old, new⟩ := extents
    by_cases first : old.Short
    · by_cases second : new.Short
      · have fits : (⟨0, 0⟩ : Counts).exceed (declaredCounts old new) =
          false := by simp [Counts.exceed]
        have outcome := bodyOutcome_takeBody (declaredCounts old new) fits rows
        simp only [WrittenExtent.read_of_short first, WrittenExtent.read_of_short second, bind,
          Except.bind]
        have counts : (⟨(Header.settled old.first old.declared).count,
            (Header.settled new.first new.declared).count⟩ : Counts) = declaredCounts old new := rfl
        rw [counts]
        generalize takeBody (declaredCounts old new) ⟨0, 0⟩ rows = result at outcome ⊢
        cases outcome with
        | taken taken skipped left remarks body =>
          exact .taken old new written taken skipped left remarks body
        | refused before row after fault inside kept spoils =>
          exact .refused old new written before row after fault inside kept spoils
      · obtain ⟨excess, failed⟩ := WrittenExtent.read_of_not_short second
        simp only [WrittenExtent.read_of_short first, failed, bind, Except.bind]
        exact .tooLong rows old new written (fun short => second short.2) excess
    · obtain ⟨excess, failed⟩ := WrittenExtent.read_of_not_short first
      simp only [failed, bind, Except.bind]
      exact .tooLong rows old new written (fun short => first short.1) excess

/-- How the rows of a diff are read. -/
inductive Reading : List Row → Except ReadError (List Item) → Prop
  | done : Reading [] (.ok [])
  | pass (lead rest : List Row) (items : List Item) (result : Except ReadError (List Item))
    (rows : ∀ row ∈ lead, row.opensHunk = false) (others : ∀ item ∈ items, item.hunk? = none)
    (next : Reading rest result) : Reading (lead ++ rest) (result.map (items ++ ·))
  | hunk (header : Row) (old new : WrittenExtent)
    (written : Header.extents? header.text = some (old, new)) (taken skipped left : List Row)
    (remarks : ∀ row ∈ skipped, row.isRemark = true)
    (body : Taken (declaredCounts old new) ⟨0, 0⟩ taken (skipped ++ left))
    (result : Except ReadError (List Item)) (next : Reading left result) :
    Reading (header :: (taken ++ (skipped ++ left)))
    (result.map (.hunk (hunkOfRows old new taken) :: ·))
  | failed (header : Row) (opens : header.opensHunk = true) (rows : List Row) (error : ReadError)
    (outcome : HunkOutcome header rows (.error error)) : Reading (header :: rows) (.error error)

theorem opensHunk_eq_false {row : Row} {c : Char} {cs : List Char}
    (text : row.text.toList = c :: cs) (other : (('@' : Char) == c) = false) :
    row.opensHunk = false := by
  rw [Row.opensHunk, startsWith_cons text "@@" '@' ['@'] rfl, other, Bool.false_and]

theorem opensHunk_of_opensFile {row : Row} (file : row.opensFile = true) :
    row.opensHunk = false := by
  rw [Row.opensFile, Bool.or_eq_true] at file
  rcases file with head | head
  · obtain ⟨cs, text⟩ := WrittenItem.toList_of_startsWith head
    exact opensHunk_eq_false text rfl
  · obtain ⟨cs, text⟩ := WrittenItem.toList_of_startsWith head
    exact opensHunk_eq_false text rfl

theorem opensHunk_of_isRemark {row : Row} (remark : row.isRemark = true) :
    row.opensHunk = false := by
  obtain ⟨cs, text⟩ := WrittenItem.toList_of_startsWith remark
  exact opensHunk_eq_false text rfl

theorem opensHunk_of_namePair? {row : Row} {rest : List Row} {names : String × String}
    (pair : row.namePair? rest = some names) :
    row.opensHunk = false ∧ ∃ next more, rest = next :: more ∧ next.opensHunk = false := by
  cases rest with
  | nil => contradiction
  | cons next more =>
    have both : (row.namePair? (next :: more)).isSome = true := by rw [pair]; rfl
    rw [isSome_namePair?_cons, Bool.and_eq_true] at both
    obtain ⟨cs, text⟩ := WrittenItem.toList_of_startsWith both.1
    obtain ⟨ds, text'⟩ := WrittenItem.toList_of_startsWith both.2
    exact ⟨opensHunk_eq_false text rfl, next, more, rfl, opensHunk_eq_false text' rfl⟩

theorem reading_ofRows (rows : List Row) : Reading rows (Item.ofRows rows) := by
  fun_induction Item.ofRows rows with
  | case1 => exact .done
  | case2 row rest file ih =>
    exact .pass [row] rest [_] _ (List.forall_mem_singleton.mpr (opensHunk_of_opensFile file))
      (List.forall_mem_singleton.mpr rfl) ih
  | case3 row rest file old new pair ih =>
    obtain ⟨first, next, more, rfl, second⟩ := opensHunk_of_namePair? pair
    exact .pass [row, next] more [_] _ (by simp [first, second])
      (List.forall_mem_singleton.mpr rfl) ih
  | case4 row rest file pair opens hunk left found ih =>
    have outcome := hunkOutcome_takeHunk row rest
    rw [found] at outcome
    cases outcome with
    | taken old new written taken skipped left remarks body =>
      exact .hunk row old new written taken skipped left remarks body _ ih
  | case5 row rest file pair opens error failed =>
    have outcome := hunkOutcome_takeHunk row rest
    rw [failed] at outcome
    exact .failed row opens rest error outcome
  | case6 row rest file pair other ih =>
    have passed :=
      Reading.pass [row] rest [] _ (List.forall_mem_singleton.mpr (Bool.eq_false_iff.mpr other))
      nofun ih
    cases result : Item.ofRows rest with
    | ok items => rwa [result] at passed
    | error error => rwa [result] at passed

end ReviewContext.Diff
