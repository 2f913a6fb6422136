import ReviewContext.Proofs.Diff.BothSides

/-! Well-formed hunks: the counts of a header are those of its lines, and each line has its line
ending. A merge of such hunks is one, whatever file the lines between them are taken from. -/
namespace ReviewContext.Diff

structure Hunk.WellFormed (hunk : Hunk) : Prop where
  counted : hunk.declared = hunk.counted
  delimited : hunk.delimiters.length = hunk.lines.length

/-- An order of some hunks by where they start in the new file; those that start together stay as
they came. -/
structure StableOrder (hunks ordered : List Hunk) : Prop where
  perm : ordered.Perm hunks
  sorted : ordered.Pairwise fun a b => a.new.start ≤ b.new.start
  stable : ∀ start, ordered.filter (fun hunk => hunk.new.start = start) =
    hunks.filter fun hunk => hunk.new.start = start

theorem stableOrder_byNewStart (hunks : List Hunk) : StableOrder hunks (byNewStart hunks) where
  perm := List.mergeSort_perm hunks _
  sorted := sorted_byNewStart hunks
  stable start := by
    let together := hunks.filter fun hunk => hunk.new.start = start
    have level : together.Pairwise fun a b => decide (a.new.start ≤ b.new.start) = true := by
      refine List.pairwise_of_forall_mem_list fun a ha b hb => ?_
      have first := of_decide_eq_true (List.mem_filter.mp ha).2
      have second := of_decide_eq_true (List.mem_filter.mp hb).2
      exact decide_eq_true (by omega)
    have kept : together.Sublist (byNewStart hunks) :=
      List.sublist_mergeSort (by simpa using fun a b c => Nat.le_trans)
        (by simpa using fun a b => Nat.le_total ..) level List.filter_sublist
    have within := kept.filter fun hunk => hunk.new.start = start
    rw [List.filter_filter] at within
    simp only [Bool.and_self] at within
    have size := ((List.mergeSort_perm hunks fun a b => a.new.start ≤ b.new.start).filter
      fun hunk => hunk.new.start = start).length_eq
    exact (within.eq_of_length size.symm).symm

namespace Merge

variable {file : List String} {next : Hunk} {merge : Merge}

theorem wellFormed_add (formed : merge.hunk.WellFormed) (other : next.WellFormed) :
    (merge.add file next).hunk.WellFormed where
  counted := declared_add formed.counted other.counted
  delimited := by
    have own := formed.delimited
    have more := other.delimited
    change (merge.hunk.delimiters ++ (merge.gap file next).map (fun _ => "\n") ++
      next.delimiters).length = _
    rw [lines_add]
    simp only [List.length_append, List.length_map]
    omega

theorem wellFormed_foldl (file : List String) {rest : List Hunk} (formed : merge.hunk.WellFormed)
    (others : ∀ hunk ∈ rest, hunk.WellFormed) :
    (rest.foldl (Merge.add file) merge).hunk.WellFormed := by
  induction rest generalizing merge with
  | nil => exact formed
  | cons next rest ih =>
    rw [List.forall_mem_cons] at others
    exact ih (wellFormed_add formed others.1) others.2

theorem edits_foldl (file : List String) (rest : List Hunk) (merge : Merge) :
    (rest.foldl (Merge.add file) merge).hunk.edits =
      merge.hunk.edits ++ rest.flatMap Hunk.edits := by
  induction rest generalizing merge with
  | nil => exact (List.append_nil _).symm
  | cons next rest ih => rw [List.foldl_cons, ih, edits_add, List.flatMap_cons, List.append_assoc]

theorem sublist_foldl (file : List String) (rest : List Hunk) (merge : Merge) :
    (merge.hunk.lines ++ rest.flatMap Hunk.lines).Sublist
      (rest.foldl (Merge.add file) merge).hunk.lines := by
  induction rest generalizing merge with
  | nil =>
    rw [List.flatMap_nil, List.append_nil]
    exact List.Sublist.refl _
  | cons next rest ih =>
    refine List.Sublist.trans ?_ (ih _)
    rw [List.flatMap_cons, ← List.append_assoc, lines_add]
    exact ((List.sublist_append_left ..).append_right _).append_right _

end Merge

theorem byNewStart_of_perm {hunks others : List Hunk} (order : others.Perm hunks)
    (apart : (hunks.map fun hunk => hunk.new.start).Nodup) :
    byNewStart others = byNewStart hunks := by
  have same := List.mergeSort_perm hunks fun a b => a.new.start ≤ b.new.start
  have distinct : (byNewStart hunks).Pairwise fun a b => a.new.start ≠ b.new.start :=
    List.pairwise_map.mp ((same.map _).nodup_iff.mpr apart)
  refine byNewStart_eq_of_perm (order.trans same.symm) ?_
  exact distinct.imp₂ (fun _ _ other le => Nat.lt_of_le_of_ne le other) (sorted_byNewStart hunks)

/-- Well-formed hunks are merged into a well-formed one, wherever and in whatever order they are,
and however little a file bears them out. Its edits are theirs in the order of their starts: what is
put between them is context. If they each start elsewhere the order in which they come does not
matter. -/
theorem merge_wellFormed (text : String) {hunks : List Hunk} (nonempty : hunks ≠ [])
    (formed : ∀ hunk ∈ hunks, hunk.WellFormed) :
    ∃ merged ordered, merge text hunks = .ok merged ∧ merged.WellFormed ∧
      StableOrder hunks ordered ∧
      merged.edits = ordered.flatMap Hunk.edits ∧
        (ordered.flatMap Hunk.lines).Sublist merged.lines ∧
      ((hunks.map fun hunk => hunk.new.start).Nodup →
        ∀ others, others.Perm hunks → merge text others = .ok merged ∧
          mergeNamed text others = mergeNamed text hunks) ∧
      ((∀ hunk ∈ hunks, hunk.isWritable = true) → Text.isWritable merged.lines.length = true →
        mergeNamed text hunks = .ok merged) := by
  obtain ⟨first, rest, order, merges⟩ := exists_merge_eq text nonempty
  have stable := stableOrder_byNewStart hunks
  rw [order] at stable
  have inside : ∀ hunk ∈ first :: rest, hunk ∈ hunks := fun hunk h => stable.perm.mem_iff.mp h
  have opening : (Merge.start first).hunk.WellFormed :=
    formed first (inside first List.mem_cons_self)
  have result := Merge.wellFormed_foldl (Text.fileLines text) opening fun hunk h =>
    formed hunk (inside hunk (List.mem_cons_of_mem _ h))
  have edits := Merge.edits_foldl (Text.fileLines text) rest (.start first)
  have lines := Merge.sublist_foldl (Text.fileLines text) rest (.start first)
  refine ⟨_, first :: rest, merges, result, stable, edits, lines, ?_, ?_⟩
  · intro apart others same
    have place := byNewStart_of_perm same apart
    have equal : merge text others = merge text hunks := by rw [merge, merge, place]
    exact ⟨equal.trans merges, by rw [mergeNamed, mergeNamed, equal]⟩
  · intro written short
    obtain ⟨old, new, -⟩ := Merge.foldl_add_opens (Text.fileLines text) rest (.start first)
    have starts := written first (inside first List.mem_cons_self)
    have named := Hunk.isWritable_of_starts result.counted old new starts short
    rw [mergeNamed, merges]
    simp only [bind, Except.bind, named, if_true]
    rfl

theorem merge_wellFormed_unfit :
    let behind : Hunk := ⟨⟨7, 1⟩, ⟨9, 2⟩, [⟨.context, "x"⟩, ⟨.added, "y"⟩], ["\n", "\r\n"]⟩
    let before : Hunk := ⟨⟨1, 1⟩, ⟨0, 0⟩, [⟨.removed, "z"⟩], ["\n"]⟩
    let second : Hunk := ⟨⟨3, 0⟩, ⟨2, 1⟩, [⟨.added, "b"⟩], ["\n"]⟩
    (∀ hunk ∈ [behind, before, second], hunk.WellFormed) ∧
      ([behind, before, second].map fun hunk => hunk.new.start).Nodup ∧
      [second, behind, before].Perm [behind, before, second] ∧
      ∃ merged, merge "a" [behind, before, second] = .ok merged ∧ merged.WellFormed ∧
        merge "a" [second, behind, before] = .ok merged := by
  -- The first hunk starts behind the end of the file, and the second, which only removes a line,
  -- before its first line, so that the line taken for the gap is counted from the end of the file.
  intro behind before second
  have formed : ∀ hunk ∈ [behind, before, second], hunk.WellFormed := by
    rw [List.forall_mem_cons, List.forall_mem_cons, List.forall_mem_singleton]
    exact ⟨⟨rfl, rfl⟩, ⟨rfl, rfl⟩, ⟨rfl, rfl⟩⟩
  have apart : ([behind, before, second].map fun hunk => hunk.new.start).Nodup := by decide
  have order : [second, behind, before].Perm [behind, before, second] := by decide
  obtain ⟨merged, -, merges, result, -, -, -, same, -⟩ :=
    merge_wellFormed "a" (List.cons_ne_nil _ _) formed
  exact ⟨formed, apart, order, merged, merges, result, (same apart _ order).1⟩

end ReviewContext.Diff
