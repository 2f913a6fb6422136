import ReviewContext.Proofs.Diff.Merge
import ReviewContext.Proofs.Diff.Restriction
import ReviewContext.Proofs.Outcome

/-! Trimmed merges: hunks may be trimmed before they are merged as well as after, since the context
that trimming takes off them is read again from the file between them. -/
namespace ReviewContext.Diff

theorem Quiet.map_unchanged {lines : List Line} (quiet : Quiet lines) :
    (lines.map Line.content).map Line.unchanged = lines := by
  rw [List.map_map]
  refine (List.map_congr_left fun line inside => ?_).trans (List.map_id lines)
  obtain ⟨kind, content⟩ := line
  have context := quiet _ inside
  cases kind with
  | context => rfl
  | added | removed => contradiction

theorem take_drop_middle {α : Type} {front middle back : List α} {start count : Nat}
    (place : front.length = start) (size : middle.length = count) :
    ((front ++ middle ++ back).drop start).take count = middle := by
  rw [List.append_assoc, List.drop_left' place, List.take_left' size]

namespace Hunk

variable {file : List String} {hunk trimmed other : Hunk} {lead tail : List Line}

namespace Trims

theorem lead_eq (trims : hunk.Trims trimmed lead tail) (agrees : hunk.Agrees file) :
    lead.map Line.content = (file.drop (hunk.new.start - 1)).take lead.length := by
  have split := agrees.split
  rw [trims.newContents] at split
  rw [split, List.append_assoc (lead.map _), List.append_assoc, List.append_assoc,
    ← List.append_assoc]
  exact (take_drop_middle agrees.length_take_start (List.length_map _)).symm

theorem tail_eq (trims : hunk.Trims trimmed lead tail) (agrees : hunk.Agrees file) :
    tail.map Line.content =
      (file.drop (trimmed.new.start + trimmed.new.count - 1)).take tail.length := by
  have split := agrees.split
  have start_pos := agrees.start_pos
  have start := trims.start
  have size := newCount_of_counted trims.counted
  rw [trims.newContents, ← List.append_assoc] at split
  rw [split]
  refine (take_drop_middle ?_ (List.length_map _)).symm
  simp only [List.length_append, List.length_map, agrees.length_take_start]
  omega

theorem eq_of_trim (trims : hunk.Trims trimmed lead tail)
    (oldStart : trimmed.old.start = hunk.old.start + lead.length) (taken : hunk.trim = .ok other) :
    trimmed.old = other.old ∧ trimmed.new = other.new ∧ trimmed.lines = other.lines := by
  obtain ⟨front, back, others⟩ := trims_of_trim taken
  have leads : lead.length = front.length := Option.some.inj (trims.first.symm.trans others.first)
  have tails : tail.length = back.length := Option.some.inj (trims.last.symm.trans others.last)
  have whole := trims.lines.symm.trans others.lines
  obtain ⟨inner, -⟩ := List.append_inj' whole tails
  obtain ⟨-, lines⟩ := List.append_inj inner leads
  have counts : trimmed.declared = other.declared := by
    rw [trims.counted, others.counted, Hunk.counted, Hunk.counted, lines]
  obtain ⟨oldCount, newCount⟩ := Counts.mk.inj counts
  have newStart := trims.start
  have otherNew := others.start
  have otherOld := (others.restrict_eq taken).1
  have sameOld : trimmed.old.start = other.old.start := by omega
  have sameNew : trimmed.new.start = other.new.start := by omega
  exact ⟨congrArg₂ Extent.mk sameOld oldCount, congrArg₂ Extent.mk sameNew newCount, lines⟩

end Trims

end Hunk

namespace Merge

variable {file : List String} {hunks cuts rest trims : List Hunk} {done cut : Merge}
    {last next trimmed : Hunk}
  {lead tail front back : List Line}

/-- A merge of hunks beside the merge of what trimming leaves of each of them. -/
structure Beside (done cut : Merge) (lead tail : List Line) : Prop where
  trims : done.hunk.Trims cut.hunk lead tail
  oldStart : cut.hunk.old.start = done.hunk.old.start + lead.length

theorem beside_start (taken : next.trim = .ok trimmed) :
    ∃ lead tail, Beside (start next) (start trimmed) lead tail := by
  obtain ⟨lead, tail, trims⟩ := Hunk.trims_of_trim taken
  exact ⟨lead, tail, trims, (trims.restrict_eq taken).1⟩

namespace Beside

theorem reach_eq (beside : Beside done cut lead tail) (whole : Sound file hunks done)
    (short : Sound file cuts cut) :
    cut.reach + tail.length = done.reach := by
  rw [whole.reach, short.reach]
  exact whole.agrees.trimmed_end beside.trims

theorem gap_eq (beside : Beside done cut lead tail) (whole : Sound file hunks done)
    (short : Sound file cuts cut) (agrees : next.Agrees file)
    (others : next.Trims trimmed front back) (after : done.reach ≤ next.new.start) :
    cut.gap file trimmed = tail.map Line.content ++ done.gap file next ++
      front.map Line.content := by
  have start_pos := short.agrees.start_pos
  have reach := beside.reach_eq whole short
  have cutReach := short.reach
  have start := others.start
  have here : done.reach - 1 = cut.reach - 1 + tail.length := by omega
  have there : next.new.start - 1 =
    cut.reach - 1 + (tail.length + (next.new.start - done.reach)) := by omega
  have size : trimmed.new.start - cut.reach =
    tail.length + (next.new.start - done.reach) + front.length := by omega
  rw [Merge.gap_eq (by omega) (by omega), Merge.gap_eq (by omega) after,
    beside.trims.tail_eq whole.agrees, others.lead_eq agrees, ← cutReach, here, there,
    take_drop_append, take_drop_append, size]

theorem add (beside : Beside done cut lead tail) (whole : Sound file hunks done)
    (short : Sound file cuts cut) (agrees : next.Agrees file)
    (others : next.Trims trimmed front back) (after : done.reach ≤ next.new.start) :
    Beside (done.add file next) (cut.add file trimmed) lead back where
  trims := by
    refine ⟨?_, beside.trims.quietLead, others.quietTail, ?_, ?_, beside.trims.start, ?_⟩
    · rw [lines_add, lines_add, beside.gap_eq whole short agrees others after, beside.trims.lines,
        others.lines, List.map_append, List.map_append, beside.trims.quietTail.map_unchanged,
        others.quietLead.map_unchanged]
      simp only [List.append_assoc]
    · refine firstEdit?_of_prefix ?_ beside.trims.first
      rw [lines_add, List.append_assoc]
      exact List.prefix_append ..
    · exact tailLength?_of_suffix (List.suffix_append ..) others.last
    · exact declared_add beside.trims.counted others.counted
  oldStart := beside.oldStart

end Beside

theorem beside_foldl {hunks cuts : List Hunk} (beside : Beside done cut lead tail)
    (whole : Sound file hunks done) (short : Sound file cuts cut) (some : cuts ≠ [])
    (top : last ∈ hunks.getLast?)
    (pairs : List.Forall₂ (fun hunk trimmed => hunk.trim = .ok trimmed) rest trims)
    (agree : ∀ hunk ∈ rest, hunk.Agrees file) (chain : (last :: rest).IsChain Hunk.Precedes) :
    ∃ tail,
      Beside (rest.foldl (Merge.add file) done) (trims.foldl (Merge.add file) cut) lead tail := by
  induction pairs generalizing done cut tail last hunks cuts with
  | nil => exact ⟨tail, beside⟩
  | @cons next trimmed rest trims taken pairs ih =>
    rw [List.forall_mem_cons] at agree
    rw [List.isChain_cons_cons] at chain
    obtain ⟨front, back, others⟩ := Hunk.trims_of_trim taken
    have nonempty : hunks ≠ [] := fun empty => by simp [empty] at top
    have after : done.reach ≤ next.new.start := (whole.last last top).1.trans_le chain.1.2
    have reach := beside.reach_eq whole short
    have start := others.start
    have sound := short.add some (agree.1.trim others) (by omega)
    exact ih (beside.add whole short agree.1 others after) (whole.add nonempty agree.1 after) sound
      (by simp) (by simp)
      agree.2 chain.2

end Merge

def Hunk.StartsBy (hunk other : Hunk) : Prop := hunk.new.start ≤ other.new.start

theorem byNewStart_of_isChain {hunks : List Hunk} (chain : hunks.IsChain Hunk.StartsBy) :
    byNewStart hunks = hunks := by
  have sorted : hunks.Pairwise fun a b => a.new.start ≤ b.new.start :=
    List.isChain_iff_pairwise.mp chain
  exact List.mergeSort_of_pairwise (by simpa using sorted)

/-- Hunks of which each precedes the next one are still in order when they are trimmed, although two
of them may then start at the same line. -/
theorem isChain_of_trims {file : List String} {hunks trims : List Hunk}
    (pairs : List.Forall₂ (fun hunk trimmed => hunk.trim = .ok trimmed) hunks trims)
    (agree : ∀ hunk ∈ hunks, hunk.Agrees file) (chain : hunks.IsChain Hunk.Precedes) :
    trims.IsChain Hunk.StartsBy := by
  induction pairs with
  | nil => exact .nil
  | @cons hunk trimmed hunks trims taken pairs ih =>
    rw [List.forall_mem_cons] at agree
    cases pairs with
    | nil => exact .singleton _
    | cons other pairs =>
      rw [List.isChain_cons_cons] at chain
      refine .cons_cons ?_ (ih agree.2 chain.2)
      obtain ⟨lead, tail, own⟩ := Hunk.trims_of_trim taken
      obtain ⟨front, back, others⟩ := Hunk.trims_of_trim other
      have stop := agree.1.trimmed_end own
      have start := others.start
      have before := chain.1.2
      rw [Hunk.StartsBy]
      omega

theorem mergeNamed_eq {text : String} {hunks : List Hunk} {merged : Hunk}
    (merges : merge text hunks = .ok merged) :
    mergeNamed text hunks = if merged.isWritable then .ok merged else .error .unwritable := by
  simp only [mergeNamed, merges, bind, Except.bind]
  split <;> rfl

theorem Hunk.trimNamed_eq_ok_iff {hunk trimmed : Hunk} :
    hunk.trimNamed = .ok trimmed ↔ hunk.trim = .ok trimmed :=
  Outcome.mapError_eq_ok_iff

/-- Hunks that follow each other in a file and have edits may be trimmed before they are merged as
well as after: what comes of both starts at the same lines and has the same lines. A merge whose
header cannot be written is refused. -/
theorem trim_merge_comm {text : String} {hunks : List Hunk} (nonempty : hunks ≠ [])
    (agree : ∀ hunk ∈ hunks, hunk.Agrees (Text.fileLines text))
    (edited : ∀ hunk ∈ hunks, hunk.hasEdits = true) (chain : hunks.IsChain Hunk.Precedes) :
    ∃ merged trimmed trims joined,
      merge text hunks = .ok merged ∧ merged.trimNamed = .ok trimmed ∧
      hunks.mapM Hunk.trimNamed = .ok trims ∧ merge text trims = .ok joined ∧
      joined.old = trimmed.old ∧ joined.new = trimmed.new ∧ joined.lines = trimmed.lines ∧
      mergeNamed text hunks = (if merged.isWritable then .ok merged else .error .unwritable) ∧
      mergeNamed text trims = (if trimmed.isWritable then .ok joined else .error .unwritable) := by
  have each : ∀ hunk ∈ hunks, ∃ trimmed, hunk.trimNamed = .ok trimmed := by
    intro hunk inside
    obtain ⟨trimmed, taken⟩ := Hunk.exists_trim (edited hunk inside)
    exact ⟨trimmed, Hunk.trimNamed_eq_ok_iff.mpr taken⟩
  obtain ⟨trims, walk⟩ := Outcome.exists_mapM_eq_ok each
  have pairs := (Outcome.mapM_eq_ok_iff.mp walk).imp fun _ _ => Hunk.trimNamed_eq_ok_iff.mp
  have place := byNewStart_of_isChain (chain.imp fun _ _ before => Nat.le_of_lt before.1)
  have places := byNewStart_of_isChain (isChain_of_trims pairs agree chain)
  cases pairs with
  | nil => contradiction
  | @cons first opening rest others taken pairs =>
    rw [List.forall_mem_cons] at agree
    obtain ⟨lead, tail, beside⟩ := Merge.beside_start taken
    obtain ⟨_, _, opens⟩ := Hunk.trims_of_trim taken
    obtain ⟨tail, beside⟩ := Merge.beside_foldl beside (Merge.sound_start agree.1)
      (Merge.sound_start (agree.1.trim opens)) (List.cons_ne_nil _ _) rfl pairs agree.2 chain
    have merges : merge text (first :: rest) =
        .ok (rest.foldl (Merge.add (Text.fileLines text)) (.start first)).hunk := by
      rw [merge, place]
    have joins : merge text (opening :: others) =
        .ok (others.foldl (Merge.add (Text.fileLines text)) (.start opening)).hunk := by
      rw [merge, places]
    obtain ⟨trimmed, cut⟩ := Hunk.exists_trim beside.trims.hasEdits
    obtain ⟨old, new, lines⟩ := beside.trims.eq_of_trim beside.oldStart cut
    refine ⟨_, trimmed, _, _, merges, Hunk.trimNamed_eq_ok_iff.mpr cut, walk, joins, old, new,
      lines, mergeNamed_eq merges, ?_⟩
    rw [mergeNamed_eq joins, Hunk.isWritable, Hunk.isWritable, old, new]

theorem trim_merge_comm_removal :
    let text := "a\nb\nc\nd\nx"
    let first : Hunk := ⟨⟨1, 2⟩, ⟨1, 1⟩, [⟨.context, "a"⟩, ⟨.removed, "r"⟩], ["\n", "\n"]⟩
    let second : Hunk := ⟨⟨3, 1⟩, ⟨2, 2⟩, [⟨.added, "b"⟩, ⟨.context, "c"⟩], ["\n", "\n"]⟩
    let fifth : Hunk := ⟨⟨5, 0⟩, ⟨5, 1⟩, [⟨.added, "x"⟩], ["\n"]⟩
    let hunks := [first, second, fifth]
    (∀ hunk ∈ hunks, hunk.Agrees (Text.fileLines text)) ∧ (∀ hunk ∈ hunks, hunk.hasEdits = true) ∧
      hunks.IsChain Hunk.Precedes ∧
      ∃ merged trimmed trims joined, merge text hunks = .ok merged ∧
        merged.trimNamed = .ok trimmed ∧
        hunks.mapM Hunk.trimNamed = .ok trims ∧ merge text trims = .ok joined ∧
        joined.old = trimmed.old ∧ joined.new = trimmed.new ∧ joined.lines = trimmed.lines := by
  -- The first hunk takes away a line behind all that it shows of the new file, so that two of the
  -- hunks start at the same line when they are trimmed.
  intro text first second fifth hunks
  have agree : ∀ hunk ∈ hunks, hunk.Agrees (Text.fileLines text) := by
    rw [List.forall_mem_cons, List.forall_mem_cons, List.forall_mem_singleton]
    exact ⟨⟨by decide, by decide, by decide, by decide⟩,
      ⟨by decide, by decide, by decide, by decide⟩, ⟨by decide, by decide, by decide, by decide⟩⟩
  have edited : ∀ hunk ∈ hunks, hunk.hasEdits = true := by decide
  have chain : hunks.IsChain Hunk.Precedes :=
    .cons_cons ⟨by decide, by decide⟩ (.cons_cons ⟨by decide, by decide⟩ (.singleton _))
  obtain ⟨merged, trimmed, trims, joined, merges, cut, walk, joins, old, new, lines, -⟩ :=
    trim_merge_comm (List.cons_ne_nil _ _) agree edited chain
  exact ⟨agree, edited, chain, merged, trimmed, trims, joined, merges, cut, walk, joins, old,
    new, lines⟩

end ReviewContext.Diff
