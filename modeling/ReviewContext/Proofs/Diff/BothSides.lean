import ReviewContext.Proofs.Diff.Merge

/-! Merges between two files: hunks that leave what stands between them as it was are merged into
one that says of both files what stands there, from the first hunk to the last. -/
namespace ReviewContext.Diff

namespace Extent

variable {file lines more gap : List String} {extent next : Extent}

/-- The lines are those that stand in a file where the extent says. -/
structure Holds (extent : Extent) (file lines : List String) : Prop where
  start_pos : 0 < extent.start
  inside : extent.start - 1 + extent.count ≤ file.length
  lines : lines = (file.drop (extent.start - 1)).take extent.count

/-- The lines of a file between the end of one extent and the start of the next, which must not be
before it. -/
def Between (extent next : Extent) (file gap : List String) : Prop :=
  file.take (next.start - 1) = file.take (extent.start - 1 + extent.count) ++ gap

theorem Between.of_end_eq {other : Extent} (between : extent.Between next file gap)
    (start_pos : 0 < extent.start) (other_pos : 0 < other.start)
    (same : extent.start + extent.count = other.start + other.count) :
    other.Between next file gap := by
  have place : other.start - 1 + other.count = extent.start - 1 + extent.count := by omega
  rw [Between, place]
  exact between

namespace Holds

theorem start_next (own : extent.Holds file lines) (other : next.Holds file more)
    (between : extent.Between next file gap) :
    next.start = extent.start + extent.count + gap.length := by
  have lengths := congrArg List.length between
  have start_pos := own.start_pos
  have next_pos := other.start_pos
  have inside := own.inside
  have after := other.inside
  rw [List.length_append, List.length_take_of_le (by omega),
    List.length_take_of_le inside] at lengths
  omega

theorem gap_eq (own : extent.Holds file lines) (other : next.Holds file more)
    (between : extent.Between next file gap) :
    gap = (file.drop (extent.start - 1 + extent.count)).take gap.length := by
  have start := own.start_next other between
  have start_pos := own.start_pos
  have length : next.start - 1 - (extent.start - 1 + extent.count) = gap.length := by omega
  have behind := congrArg (List.drop (extent.start - 1 + extent.count)) between
  rw [List.drop_left' (List.length_take_of_le own.inside), List.drop_take, length] at behind
  exact behind.symm

theorem join (own : extent.Holds file lines) (other : next.Holds file more)
    (between : extent.Between next file gap) :
    Holds ⟨extent.start, extent.count + gap.length + next.count⟩ file (lines ++ gap ++ more) := by
  have start := own.start_next other between
  have start_pos := own.start_pos
  have inside := other.inside
  have here : next.start - 1 = extent.start - 1 + (extent.count + gap.length) := by omega
  refine ⟨start_pos, by dsimp only; omega, ?_⟩
  calc lines ++ gap ++ more
    _ = (file.drop (extent.start - 1)).take extent.count ++
          (file.drop (extent.start - 1 + extent.count)).take gap.length ++
            (file.drop (extent.start - 1 + (extent.count + gap.length))).take next.count := by
      rw [← own.lines, ← own.gap_eq other between, ← here, ← other.lines]
    _ = (file.drop (extent.start - 1)).take (extent.count + gap.length + next.count) := by
      rw [Merge.take_drop_append, Merge.take_drop_append]

end Holds

end Extent

namespace Hunk

/-- What a hunk says of two files stands in them. -/
structure Fits (hunk : Hunk) (old new : List String) : Prop where
  old : hunk.old.Holds old hunk.oldContents
  new : hunk.new.Holds new hunk.newContents

structure Leads (old new : List String) (hunk next : Hunk) : Prop where
  before : hunk.new.start < next.new.start
  unchanged : ∃ gap, hunk.old.Between next.old old gap ∧ hunk.new.Between next.new new gap

theorem Fits.isWritable {hunk : Hunk} {old new : List String} (fits : hunk.Fits old new)
    (oldShort : Text.isWritable (old.length + 1 : Nat) = true)
    (newShort : Text.isWritable (new.length + 1 : Nat) = true) : hunk.isWritable = true := by
  have oldInside := fits.old.inside
  have newInside := fits.new.inside
  simp only [Hunk.isWritable, List.all_cons, List.all_nil, Bool.and_true, Bool.and_eq_true]
  exact ⟨Text.isWritable_of_le oldShort (by omega), Text.isWritable_of_le oldShort (by omega),
    Text.isWritable_of_le newShort (by omega), Text.isWritable_of_le newShort (by omega)⟩

end Hunk

namespace Merge

variable {old new : List String} {first last next : Hunk} {merge : Merge}

structure Joins (old new : List String) (first last : Hunk) (merge : Merge) : Prop where
  fits : merge.hunk.Fits old new
  oldStart : merge.hunk.old.start = first.old.start
  newStart : merge.hunk.new.start = first.new.start
  oldEnd : merge.hunk.old.start + merge.hunk.old.count = last.old.start + last.old.count
  newEnd : merge.hunk.new.start + merge.hunk.new.count = last.new.start + last.new.count
  reach : merge.reach = merge.hunk.new.start + merge.hunk.new.count

theorem oldContents_add : (merge.add new next).hunk.oldContents =
    merge.hunk.oldContents ++ merge.gap new next ++ next.oldContents := by
  have gap : ((merge.gap new next).map Line.unchanged).map Line.content = merge.gap new next := by
    rw [List.map_map]
    exact List.map_id _
  rw [Hunk.oldContents, Hunk.oldContents, Hunk.oldContents, lines_add, List.filter_append,
    List.filter_append, (quiet_unchanged _).filter_inOld, List.map_append, List.map_append, gap]

theorem joins_start (fits : first.Fits old new) : Joins old new first first (start first) :=
  ⟨fits, rfl, rfl, rfl, rfl, rfl⟩

theorem Joins.add (joins : Joins old new first last merge)
    (end_pos : 0 < last.old.start ∧ 0 < last.new.start) (other : next.Fits old new)
    (leads : last.Leads old new next) :
    Joins old new first next (merge.add new next) := by
  obtain ⟨own, oldStart, newStart, oldEnd, newEnd, reach⟩ := joins
  obtain ⟨gap, above, below⟩ := leads.unchanged
  have above := above.of_end_eq end_pos.1 own.old.start_pos oldEnd.symm
  have below := below.of_end_eq end_pos.2 own.new.start_pos newEnd.symm
  have oldNext := own.old.start_next other.old above
  have newNext := own.new.start_next other.new below
  have newPos := own.new.start_pos
  have between : merge.gap new next = gap := by
    have place : merge.reach - 1 = merge.hunk.new.start - 1 + merge.hunk.new.count := by omega
    have length : next.new.start - merge.reach = gap.length := by omega
    rw [gap_eq (by omega) (by omega), place, length]
    exact (own.new.gap_eq other.new below).symm
  have oldExtent : (merge.add new next).hunk.old =
      ⟨merge.hunk.old.start, merge.hunk.old.count + gap.length + next.old.count⟩ := by
    rw [← between]
    rfl
  have newExtent : (merge.add new next).hunk.new =
      ⟨merge.hunk.new.start, merge.hunk.new.count + gap.length + next.new.count⟩ := by
    rw [← between]
    rfl
  refine ⟨⟨?_, ?_⟩, ?_, ?_, ?_, ?_, ?_⟩
  · rw [oldExtent, oldContents_add, between]
    exact own.old.join other.old above
  · rw [newExtent, newContents_add, between]
    exact own.new.join other.new below
  · rw [oldExtent]
    exact oldStart
  · rw [newExtent]
    exact newStart
  · rw [oldExtent]
    dsimp only
    omega
  · rw [newExtent]
    dsimp only
    omega
  · rw [newExtent]
    change max _ _ = _
    dsimp only
    omega

theorem joins_foldl {rest : List Hunk} (joins : Joins old new first last merge)
    (fits : ∀ hunk ∈ last :: rest, hunk.Fits old new)
    (chain : (last :: rest).IsChain (Hunk.Leads old new)) :
    Joins old new first ((last :: rest).getLast (List.cons_ne_nil _ _))
    (rest.foldl (Merge.add new) merge) := by
  induction rest generalizing last merge with
  | nil => exact joins
  | cons next rest ih =>
    rw [List.isChain_cons_cons] at chain
    rw [List.forall_mem_cons] at fits
    have here := fits.1
    have step :=
      joins.add ⟨here.old.start_pos, here.new.start_pos⟩ (fits.2 next List.mem_cons_self) chain.1
    exact ih step fits.2 chain.2

end Merge

theorem byNewStart_eq_of_perm {hunks others : List Hunk} (order : others.Perm hunks)
    (sorted : hunks.Pairwise fun a b => a.new.start < b.new.start) : byNewStart others = hunks := by
  have strict := pairwise_byNewStart_of_subperm (fun _ _ before => before) sorted order.subperm
  refine List.Perm.eq_of_pairwise (fun a b _ _ one other => ?_) strict sorted
    ((List.mergeSort_perm others _).trans order)
  exact absurd other (Nat.lt_asymm one)

/-- Hunks that both files bear out are merged, in whatever order they come, into one from the start
of the first to the end of the last that both files bear out. -/
theorem merge_fits_of_perm {old : List String} {text : String} {hunks others : List Hunk}
    {first last : Hunk} (opens : hunks.head? = some first) (closes : hunks.getLast? = some last)
    (fits : ∀ hunk ∈ hunks, hunk.Fits old (Text.fileLines text))
    (chain : hunks.IsChain (Hunk.Leads old (Text.fileLines text))) (order : others.Perm hunks) :
    ∃ merged, merge text others = .ok merged ∧
      (Text.isWritable (old.length + 1 : Nat) = true →
        Text.isWritable ((Text.fileLines text).length + 1 : Nat) = true →
          mergeNamed text others = .ok merged) ∧
      merged.old.start = first.old.start ∧ merged.new.start = first.new.start ∧
      merged.oldContents = (old.drop (merged.old.start - 1)).take merged.old.count ∧
      merged.newContents =
        ((Text.fileLines text).drop (merged.new.start - 1)).take merged.new.count ∧
      merged.old.start + merged.old.count = last.old.start + last.old.count ∧
      merged.new.start + merged.new.count = last.new.start + last.new.count := by
  obtain ⟨rest, rfl⟩ := List.head?_eq_some_iff.mp opens
  have sorted := byNewStart_eq_of_perm order
    (List.isChain_iff_pairwise.mp (chain.imp fun _ _ leads => leads.before))
  have joins := Merge.joins_foldl (Merge.joins_start (fits first List.mem_cons_self)) fits chain
  rw [List.getLast?_eq_some_getLast (List.cons_ne_nil _ _), Option.some.injEq] at closes
  rw [closes] at joins
  have merges : merge text others =
      .ok (rest.foldl (Merge.add (Text.fileLines text)) (.start first)).hunk := by
    rw [merge, sorted]
  refine ⟨_, merges, ?_, joins.oldStart, joins.newStart, joins.fits.old.lines, joins.fits.new.lines,
    joins.oldEnd, joins.newEnd⟩
  intro oldShort newShort
  rw [mergeNamed, merges]
  simp only [bind, Except.bind, joins.fits.isWritable oldShort newShort, if_true]
  rfl

theorem merge_fits_of_perm_removal :
    let old := ["a", "b", "c", "d", "e"]
    let text := "a\nx\nc\nd"
    let second : Hunk := ⟨⟨2, 1⟩, ⟨2, 1⟩, [⟨.removed, "b"⟩, ⟨.added, "x"⟩], ["\n", "\n"]⟩
    let fifth : Hunk := ⟨⟨5, 1⟩, ⟨5, 0⟩, [⟨.removed, "e"⟩], ["\n"]⟩
    (∀ hunk ∈ [second, fifth], hunk.Fits old (Text.fileLines text)) ∧
      [second, fifth].IsChain (Hunk.Leads old (Text.fileLines text)) ∧
        [fifth, second].Perm [second, fifth] ∧
      ∃ merged, merge text [fifth, second] = .ok merged ∧
        merged.oldContents = ["b", "c", "d", "e"] ∧
        merged.newContents = ["x", "c", "d"] := by
  -- The second of two changes, which takes away the last line, comes first.
  intro old text second fifth
  have fits : ∀ hunk ∈ [second, fifth], hunk.Fits old (Text.fileLines text) := by
    rw [List.forall_mem_cons, List.forall_mem_singleton]
    exact ⟨⟨⟨by decide, by decide, by decide⟩, by decide, by decide, by decide⟩,
      ⟨by decide, by decide, by decide⟩, by decide, by decide, by decide⟩
  have chain : [second, fifth].IsChain (Hunk.Leads old (Text.fileLines text)) := by
    refine .cons_cons ⟨by decide, ["c", "d"], ?_, ?_⟩ (.singleton _)
    · rfl
    · show _ = _
      decide
  have order : [fifth, second].Perm [second, fifth] := .swap ..
  obtain ⟨merged, ok, -, oldStart, newStart, oldContents, newContents, oldEnd, newEnd⟩ :=
    merge_fits_of_perm rfl rfl fits chain order
  refine ⟨fits, chain, order, merged, ok, ?_, ?_⟩
  · have start : merged.old.start = 2 := oldStart
    have stop : merged.old.start + merged.old.count = 6 := oldEnd
    have count : merged.old.count = 4 := by omega
    rw [oldContents, start, count]
    rfl
  · have start : merged.new.start = 2 := newStart
    have stop : merged.new.start + merged.new.count = 5 := newEnd
    have count : merged.new.count = 3 := by omega
    rw [newContents, start, count]
    decide

end ReviewContext.Diff
