import Mathlib.Data.List.Chain
import Mathlib.Data.List.Induction
import Mathlib.Data.List.Perm.Subperm
import ReviewContext.Diff.Merge
import ReviewContext.Proofs.Diff.Trim
import ReviewContext.Proofs.Text.Decimal

/-! Merges: hunks that follow each other in a file are merged into one for all of the file between
them. -/
namespace ReviewContext.Diff

/-- A hunk starts and ends before the next one starts, both in the new file. -/
def Hunk.Precedes (hunk next : Hunk) : Prop :=
  hunk.new.start < next.new.start ∧ hunk.new.start + hunk.new.count ≤ next.new.start

instance : Trans Hunk.Precedes Hunk.Precedes Hunk.Precedes where
  trans := fun first second => ⟨by have := first.1; have := second.1; omega,
    by have := first.2; have := second.1; omega⟩

theorem Hunk.isWritable_of_starts {hunk other : Hunk} (counted : hunk.declared = hunk.counted)
    (old : hunk.old.start = other.old.start) (new : hunk.new.start = other.new.start)
    (written : other.isWritable = true) (short : Text.isWritable hunk.lines.length = true) :
    hunk.isWritable = true := by
  simp only [declared, Hunk.counted, Counts.ofLines, Counts.mk.injEq] at counted
  have oldCount := Text.isWritable_of_le short (List.countP_le_length (p := Line.inOld))
  have newCount := Text.isWritable_of_le short (List.countP_le_length (p := Line.inNew))
  simp only [isWritable, List.all_cons, List.all_nil, Bool.and_true, Bool.and_eq_true] at written ⊢
  rw [old, new, counted.1, counted.2]
  exact ⟨written.1, oldCount, written.2.2.1, newCount⟩

namespace Merge

/-- The merge of some hunks: it covers the file from the first to the last of them, with their
edits. -/
structure Sound (file : List String) (hunks : List Hunk) (merge : Merge) : Prop where
  agrees : merge.hunk.Agrees file
  reach : merge.reach = merge.hunk.new.start + merge.hunk.new.count
  edits : merge.hunk.edits = hunks.flatMap Hunk.edits
  first : ∀ hunk ∈ hunks.head?, merge.hunk.new.start = hunk.new.start ∧
    merge.hunk.old.start = hunk.old.start ∧ hunk.lines <+: merge.hunk.lines
  last : ∀ hunk ∈ hunks.getLast?, merge.reach = hunk.new.start + hunk.new.count ∧
    hunk.lines <:+ merge.hunk.lines

variable {file : List String} {hunks : List Hunk} {merge : Merge} {next : Hunk}

theorem sound_start {hunk : Hunk} (agrees : hunk.Agrees file) : Sound file [hunk] (start hunk) where
  agrees := agrees
  reach := rfl
  edits := (List.flatMap_singleton ..).symm
  first _ same := Option.some.inj same ▸ ⟨rfl, rfl, List.prefix_refl _⟩
  last _ same := Option.some.inj same ▸ ⟨rfl, List.suffix_refl _⟩

theorem gap_eq (reached : 0 < merge.reach) (after : merge.reach ≤ next.new.start) :
    merge.gap file next = (file.drop (merge.reach - 1)).take (next.new.start - merge.reach) := by
  have place : (merge.reach : Int) - 1 = ((merge.reach - 1 : Nat) : Int) := by omega
  have upTo : (next.new.start : Int) - 1 = ((next.new.start - 1 : Nat) : Int) := by omega
  have length : next.new.start - 1 - (merge.reach - 1) = next.new.start - merge.reach := by omega
  unfold gap
  split
  next => rw [place, upTo, Text.slice_natCast, length]
  next late =>
    rw [show next.new.start - merge.reach = 0 by omega]
    rfl

theorem quiet_unchanged (contents : List String) : Quiet (contents.map Line.unchanged) := by
  intro line inside
  obtain ⟨content, -, rfl⟩ := List.mem_map.mp inside
  rfl

theorem lines_add : (merge.add file next).hunk.lines =
    merge.hunk.lines ++ (merge.gap file next).map Line.unchanged ++ next.lines := rfl

theorem edits_add : (merge.add file next).hunk.edits = merge.hunk.edits ++ next.edits := by
  rw [Hunk.edits, Hunk.edits, Hunk.edits, lines_add, List.filter_append, List.filter_append,
    (quiet_unchanged _).filter_isEdit, List.append_nil]

theorem newContents_add : (merge.add file next).hunk.newContents =
    merge.hunk.newContents ++ merge.gap file next ++ next.newContents := by
  have gap : ((merge.gap file next).map Line.unchanged).map Line.content = merge.gap file next := by
    rw [List.map_map]
    exact List.map_id _
  rw [Hunk.newContents, Hunk.newContents, Hunk.newContents, lines_add, List.filter_append,
    List.filter_append, (quiet_unchanged _).filter_inNew, List.map_append, List.map_append, gap]

theorem declared_add (counted : merge.hunk.declared = merge.hunk.counted)
    (other : next.declared = next.counted) :
    (merge.add file next).hunk.declared = (merge.add file next).hunk.counted := by
  have quiet (contents : List String) :
      Counts.ofLines (contents.map Line.unchanged) = ⟨contents.length, contents.length⟩ := by
    simp [Counts.ofLines, List.countP_map, Function.comp_def, Line.unchanged, Line.inOld,
      Line.inNew]
  have gap := quiet (merge.gap file next)
  simp only [Hunk.declared, Hunk.counted, Counts.ofLines, Counts.mk.injEq] at counted other gap ⊢
  rw [lines_add, List.countP_append, List.countP_append, List.countP_append, List.countP_append,
    ← counted.1, ← counted.2, ← other.1, ← other.2, gap.1, gap.2]
  exact ⟨rfl, rfl⟩

theorem take_drop_append (file : List String) (start count more : Nat) :
    (file.drop start).take count ++ (file.drop (start + count)).take more =
      (file.drop start).take (count + more) := by
  rw [List.take_add, List.drop_drop]

theorem newCount_add (sound : Sound file hunks merge) (agrees : next.Agrees file)
    (after : merge.reach ≤ next.new.start) : (merge.add file next).hunk.new.count =
      merge.hunk.new.count + (next.new.start - merge.reach) + next.new.count := by
  have reach := sound.reach
  have start_pos := sound.agrees.start_pos
  have inside := agrees.inside
  have size : (merge.gap file next).length = next.new.start - merge.reach := by
    rw [gap_eq (by omega) after]
    apply List.length_take_of_le
    rw [List.length_drop]
    omega
  rw [← size]
  rfl

theorem agrees_add (sound : Sound file hunks merge) (agrees : next.Agrees file)
    (after : merge.reach ≤ next.new.start) : (merge.add file next).hunk.Agrees file := by
  have reach := sound.reach
  have start_pos := sound.agrees.start_pos
  have inside := agrees.inside
  have here : merge.reach - 1 = merge.hunk.new.start - 1 + merge.hunk.new.count := by omega
  have there : next.new.start - 1 =
      merge.hunk.new.start - 1 + (merge.hunk.new.count + (next.new.start - merge.reach)) := by omega
  refine ⟨start_pos, declared_add sound.agrees.counted agrees.counted, ?_, ?_⟩
  · rw [newContents_add, gap_eq (by omega) after, sound.agrees.contents, agrees.contents, here,
      there, take_drop_append, take_drop_append, newCount_add sound agrees after]
    rfl
  · rw [newCount_add sound agrees after]
    change merge.hunk.new.start - 1 + _ ≤ _
    omega

theorem Sound.add (sound : Sound file hunks merge) (nonempty : hunks ≠ [])
    (agrees : next.Agrees file) (after : merge.reach ≤ next.new.start) :
    Sound file (hunks ++ [next]) (merge.add file next) where
  agrees := agrees_add sound agrees after
  reach := by
    have reach := sound.reach
    rw [newCount_add sound agrees after]
    change max _ _ = merge.hunk.new.start + _
    omega
  edits := by
    rw [edits_add, sound.edits, List.flatMap_append, List.flatMap_singleton]
  first hunk same := by
    obtain ⟨head, rest, rfl⟩ := List.exists_cons_of_ne_nil nonempty
    obtain ⟨new, old, lines⟩ := sound.first hunk same
    refine ⟨new, old, ?_⟩
    rw [lines_add, List.append_assoc]
    exact lines.trans (List.prefix_append ..)
  last hunk same := by
    rw [List.getLast?_concat, Option.mem_some_iff] at same
    subst same
    refine ⟨?_, List.suffix_append ..⟩
    change max _ _ = _
    omega

theorem sound_foldl {first : Hunk} {rest : List Hunk}
    (agree : ∀ hunk ∈ first :: rest, hunk.Agrees file)
    (ordered : (first :: rest).Pairwise Hunk.Precedes) :
    Sound file (first :: rest) (rest.foldl (Merge.add file) (.start first)) := by
  induction rest using List.reverseRecOn with
  | nil => exact sound_start (agree first List.mem_cons_self)
  | append_singleton rest next ih =>
    rw [← List.cons_append] at agree ordered ⊢
    rw [List.forall_mem_append] at agree
    rw [List.pairwise_append] at ordered
    have sound := ih agree.1 ordered.1
    rw [List.foldl_append]
    refine sound.add (List.cons_ne_nil _ _) (agree.2 next List.mem_cons_self) ?_
    have top := List.getLast?_eq_some_getLast (List.cons_ne_nil first rest)
    rw [(sound.last _ top).1]
    exact (ordered.2.2 _ (List.mem_of_getLast? top) next List.mem_cons_self).2

theorem firstEdit?_of_prefix {hunk other : Hunk} (lines : hunk.lines <+: other.lines) {n : Nat}
    (first : hunk.firstEdit? = some n) : other.firstEdit? = some n := by
  obtain ⟨more, split⟩ := lines
  rw [Hunk.firstEdit?] at first
  rw [Hunk.firstEdit?, ← split, List.findIdx?_append, first, Option.some_or]

theorem tailLength?_of_suffix {hunk other : Hunk} (lines : hunk.lines <:+ other.lines) {n : Nat}
    (last : hunk.tailLength? = some n) : other.tailLength? = some n := by
  obtain ⟨more, split⟩ := lines
  rw [Hunk.tailLength?] at last
  rw [Hunk.tailLength?, ← split, List.reverse_append, List.findIdx?_append, last, Option.some_or]

theorem exists_trim_of_prefix {hunk other own : Hunk} (lines : hunk.lines <+: other.lines)
    (start : other.new.start = hunk.new.start) (taken : hunk.trim = .ok own) :
    ∃ trimmed, other.trim = .ok trimmed ∧ trimmed.new.start = own.new.start := by
  obtain ⟨lead, _, opens⟩ := Hunk.trims_of_trim taken
  have foremost := firstEdit?_of_prefix lines opens.first
  have any : other.hasEdits = true := by rw [Hunk.hasEdits_eq, foremost, Option.isSome_some]
  obtain ⟨trimmed, cut⟩ := Hunk.exists_trim any
  obtain ⟨front, _, trims⟩ := Hunk.trims_of_trim cut
  have leads : front.length = lead.length := Option.some.inj (trims.first.symm.trans foremost)
  exact ⟨trimmed, cut, by rw [trims.start, opens.start, start, leads]⟩

theorem Sound.trim (sound : Sound file hunks merge) (agree : ∀ hunk ∈ hunks, hunk.Agrees file)
    (edited : ∀ hunk ∈ hunks, hunk.hasEdits = true) (nonempty : hunks ≠ []) :
    ∃ trimmed first last, merge.hunk.trim = .ok trimmed ∧ trimmed.Agrees file ∧
      trimmed.edits = hunks.flatMap Hunk.edits ∧
      (∃ hunk ∈ hunks, hunk.trim = .ok first ∧ trimmed.new.start = first.new.start) ∧
      ∃ hunk ∈ hunks, hunk.trim = .ok last ∧
        trimmed.new.start + trimmed.new.count = last.new.start + last.new.count := by
  have head := List.head?_eq_some_head nonempty
  have top := List.getLast?_eq_some_getLast nonempty
  have member := List.head_mem nonempty
  have endmost := List.getLast_mem nonempty
  obtain ⟨new, -, start⟩ := sound.first _ head
  obtain ⟨reach, stop⟩ := sound.last _ top
  obtain ⟨first, opened⟩ := Hunk.exists_trim (edited _ member)
  obtain ⟨last, closed⟩ := Hunk.exists_trim (edited _ endmost)
  obtain ⟨_, tail, closes⟩ := Hunk.trims_of_trim closed
  obtain ⟨trimmed, taken, begins⟩ := exists_trim_of_prefix start new opened
  obtain ⟨front, back, trims⟩ := Hunk.trims_of_trim taken
  have hindmost := tailLength?_of_suffix stop closes.last
  have tails : back.length = tail.length := Option.some.inj (trims.last.symm.trans hindmost)
  have mergedEnd := sound.agrees.trimmed_end trims
  have lastEnd := (agree _ endmost).trimmed_end closes
  refine ⟨trimmed, first, last, taken, sound.agrees.trim trims, trims.edits.trans sound.edits,
    ⟨_, member, opened, begins⟩, _, endmost, closed, ?_⟩
  rw [← sound.reach, reach] at mergedEnd
  omega

theorem Sound.isWritable (sound : Sound file hunks merge) (nonempty : hunks ≠ [])
    (written : ∀ hunk ∈ hunks, hunk.isWritable = true)
    (short : Text.isWritable merge.hunk.lines.length = true) : merge.hunk.isWritable = true := by
  obtain ⟨new, old, -⟩ := sound.first _ (List.head?_eq_some_head nonempty)
  exact Hunk.isWritable_of_starts sound.agrees.counted old new
    (written _ (List.head_mem nonempty)) short

end Merge

theorem sorted_byNewStart (hunks : List Hunk) :
    (byNewStart hunks).Pairwise fun a b => a.new.start ≤ b.new.start := by
  have pairs : (byNewStart hunks).Pairwise fun a b => decide (a.new.start ≤ b.new.start) = true :=
    List.pairwise_mergeSort (fun a b c => by simpa using Nat.le_trans)
      (fun a b => by simpa using Nat.le_total ..) hunks
  exact pairs.imp of_decide_eq_true

theorem pairwise_byNewStart_of_subperm {r : Hunk → Hunk → Prop} {hunks others : List Hunk}
    (before : ∀ a b, r a b → a.new.start < b.new.start) (ordered : hunks.Pairwise r)
    (within : others.Subperm hunks) : (byNewStart others).Pairwise r := by
  -- That one of two hunks comes before the other does not depend on their order, and can be told of
  -- fewer hunks.
  let apart : Hunk → Hunk → Prop := fun a b => r a b ∨ r b a
  have symm {a b : Hunk} (h : apart a b) : apart b a := h.symm
  have filled : (byNewStart others).Pairwise apart := by
    obtain ⟨chosen, order, sub⟩ := within
    refine ((List.mergeSort_perm others _).trans order.symm).pairwise_iff symm |>.mpr ?_
    exact (ordered.imp Or.inl).sublist sub
  refine List.Pairwise.imp₂ ?_ filled (sorted_byNewStart others)
  rintro a b (first | second) le
  · exact first
  · exact absurd (before b a second) (Nat.not_lt.mpr le)

theorem pairwise_byNewStart {hunks others : List Hunk}
    (ordered : (byNewStart hunks).IsChain Hunk.Precedes) (within : others.Subperm hunks) :
    (byNewStart others).Pairwise Hunk.Precedes :=
  pairwise_byNewStart_of_subperm (fun _ _ precedes => precedes.1)
    (List.isChain_iff_pairwise.mp ordered)
    (within.trans (List.mergeSort_perm hunks _).symm.subperm)

theorem Merge.foldl_add_opens (file : List String) (rest : List Hunk) (merge : Merge) :
    (rest.foldl (Merge.add file) merge).hunk.old.start = merge.hunk.old.start ∧
      (rest.foldl (Merge.add file) merge).hunk.new.start = merge.hunk.new.start ∧
      merge.hunk.lines <+: (rest.foldl (Merge.add file) merge).hunk.lines := by
  induction rest generalizing merge with
  | nil => exact ⟨rfl, rfl, List.prefix_refl _⟩
  | cons next rest ih =>
    obtain ⟨old, new, lines⟩ := ih (merge.add file next)
    have before : merge.hunk.lines <+: (merge.add file next).hunk.lines := by
      rw [Merge.lines_add, List.append_assoc]
      exact List.prefix_append ..
    exact ⟨old, new, before.trans lines⟩

theorem exists_merge_eq (text : String) {hunks : List Hunk} (nonempty : hunks ≠ []) :
    ∃ first rest, byNewStart hunks = first :: rest ∧
      merge text hunks =
        .ok (rest.foldl (Merge.add (Text.fileLines text)) (.start first)).hunk := by
  unfold merge
  split
  next none =>
    have same := List.mergeSort_perm hunks fun a b => a.new.start ≤ b.new.start
    rw [byNewStart] at none
    rw [none] at same
    exact absurd same.symm.eq_nil nonempty
  next first rest order => exact ⟨first, rest, order, rfl⟩

/-- Any hunks are merged, into a hunk that opens with one of them. -/
theorem exists_merge_opens (text : String) {hunks : List Hunk} (nonempty : hunks ≠ []) :
    ∃ merged, merge text hunks = .ok merged ∧
      ∃ first ∈ hunks, merged.new.start = first.new.start ∧ first.lines <+: merged.lines := by
  obtain ⟨first, rest, order, merged⟩ := exists_merge_eq text nonempty
  have member : first ∈ byNewStart hunks := order ▸ List.mem_cons_self
  exact ⟨_, merged, first, List.mem_mergeSort.mp member,
    (Merge.foldl_add_opens _ rest (.start first)).2⟩

theorem exists_merge {text : String} {hunks : List Hunk} (nonempty : hunks ≠ [])
    (agree : ∀ hunk ∈ hunks, hunk.Agrees (Text.fileLines text))
    (ordered : (byNewStart hunks).Pairwise Hunk.Precedes) :
    ∃ done : Merge, merge text hunks = .ok done.hunk ∧
      done.Sound (Text.fileLines text) (byNewStart hunks) := by
  obtain ⟨first, rest, order, merged⟩ := exists_merge_eq text nonempty
  have member {hunk : Hunk} : hunk ∈ byNewStart hunks ↔ hunk ∈ hunks := List.mem_mergeSort
  rw [order] at ordered member ⊢
  exact ⟨_, merged, Merge.sound_foldl (fun hunk inside => agree hunk (member.mp inside)) ordered⟩

end ReviewContext.Diff
