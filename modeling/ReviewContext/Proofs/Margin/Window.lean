import Mathlib.Data.List.Basic
import ReviewContext.Proofs.Diff.Merge
import ReviewContext.Proofs.Margin
import ReviewContext.Text.Slice

/-! Windows: what a hunk and its margins show of the old file stands there in one piece, which ends
where the margins or the file do. -/
namespace ReviewContext.Margin

open Diff (Hunk Line)

section Positions

variable {α : Type} [DecidableEq α]

/-- The items of a list that are wanted, each once and in the order in which they first occur. -/
structure FirstOf (wanted : α → Prop) (items listed : List α) : Prop where
  mem : ∀ item, item ∈ listed ↔ item ∈ items ∧ wanted item
  ordered : listed.Pairwise fun item later => items.idxOf item < items.idxOf later

theorem firstOf_eraseDups (p : α → Bool) (items : List α) :
    FirstOf (fun item => p item = true) items (items.filter p).eraseDups where
  mem item := by rw [List.mem_eraseDups, List.mem_filter]
  ordered := by
    refine (pairwise_eraseDups (items.filter p)).imp_of_mem fun inside after before => ?_
    rw [List.mem_eraseDups, List.mem_filter] at inside after
    exact idxOf_lt_of_filter inside.2 after.2 before

end Positions

/-- The position in the old file from which on a hunk changes it. It is below zero if the hunk
starts at no line. -/
def beginOf (hunk : Hunk) : Int := (hunk.old.start : Int) - 1

def endOf (hunk : Hunk) : Int := beginOf hunk + hunk.old.count

/-- What lines of a hunk show of the old file: those that are not added, without their markers. -/
def unmarked (shown : List String) : List String :=
  (shown.filter fun line => !Text.startsWith line "+").map fun line =>
    String.ofList (line.toList.drop 1)

/-- A hunk of a file between the file's lines above it and below it. If it tells what the file has
in its place, and hides nothing of that by a line that is shown already, all of this is one stretch
of the file. -/
structure Windowed (above below : Nat) (file : List String) (hunk : Hunk)
    (lead body tail : List String) : Prop where
  lead_eq : lead = Text.slice file (max 0 (beginOf hunk - above)) (beginOf hunk)
  lead_length : (lead.length : Int) = min (above : Int) (beginOf hunk)
  tail_eq : tail = Text.slice file (endOf hunk) (min (file.length : Int) (endOf hunk + below))
  tail_length : (tail.length : Int) = min (below : Int) (file.length - endOf hunk)
  listed : FirstOf (fun line => line ≠ hunk.header ∧ line ∉ lead) hunk.rawLines body
  whole : hunk.oldContents = Text.slice file (beginOf hunk) (endOf hunk) → hunk.rawLines.Nodup →
    (∀ line ∈ hunk.rawLines, line ≠ hunk.header ∧ line ∉ lead) →
    lead ++ unmarked body ++ tail =
      Text.slice file (max 0 (beginOf hunk - above)) (min (file.length : Int) (endOf hunk + below))

variable {file : List String} {hunk : Hunk}

theorem fits_eq_false_iff :
    fits file hunk = false ↔ beginOf hunk < 0 ∨ endOf hunk > file.length := by
  simp only [fits, Bool.and_eq_false_iff, decide_eq_false_iff_not, endOf, beginOf]
  omega

theorem startsWith_added_raw (line : Line) : (!Text.startsWith line.raw "+") = line.inOld := by
  obtain ⟨kind, content⟩ := line
  cases kind <;> simp [Text.startsWith, Line.raw, Line.inOld, Diff.LineKind.marker, List.isPrefixOf]

theorem unmarked_rawLines (hunk : Hunk) : unmarked hunk.rawLines = hunk.oldContents := by
  have old : hunk.rawLines.filter (fun line => !Text.startsWith line "+") =
      (hunk.lines.filter Line.inOld).map Line.raw := by
    rw [Hunk.rawLines, List.filter_map]
    congr 1
    exact List.filter_congr fun line _ => startsWith_added_raw line
  rw [unmarked, old, Hunk.oldContents, List.map_map]
  refine List.map_congr_left fun line _ => ?_
  simp [Line.raw]

theorem firstOf_bodyOf (lead : List String) (hunk : Hunk) :
    FirstOf (fun line => line ≠ hunk.header ∧ line ∉ lead) hunk.rawLines (bodyOf lead hunk) := by
  have listed := firstOf_eraseDups (fun line => decide (line ∉ lead ++ [hunk.header])) hunk.rawLines
  refine ⟨fun line => (listed.mem line).trans (and_congr_right fun _ => ?_), listed.ordered⟩
  simp [and_comm]

theorem bodyOf_eq_rawLines {lead : List String} (distinct : hunk.rawLines.Nodup)
    (unseen : ∀ line ∈ hunk.rawLines, line ≠ hunk.header ∧ line ∉ lead) :
    bodyOf lead hunk = hunk.rawLines := by
  rw [bodyOf, eraseDups_filter_eq_self_iff]
  refine ⟨distinct, fun line inside => ?_⟩
  simpa [and_comm] using unseen line inside

theorem upperEnd_eq (first above : Nat) :
    max 0 ((first : Int) - above) = ((first - above : Nat) : Int) := by omega

theorem lowerEnd_eq (length last below : Nat) :
    min (length : Int) (last + below) = ((min length (last + below) : Nat) : Int) := by omega

section Inside

variable (above below : Nat) (inside : fits file hunk = true)
include inside

theorem positions : ∃ first last : Nat, hunk.old.start - 1 = first ∧
    hunk.old.start - 1 + hunk.old.count = last ∧
    beginOf hunk = first ∧ endOf hunk = last ∧ first ≤ last ∧ last ≤ file.length := by
  simp only [fits, Bool.and_eq_true, decide_eq_true_eq] at inside
  refine ⟨_, _, rfl, rfl, ?_⟩
  simp only [beginOf, endOf]
  omega

theorem linesAbove_eq_slice :
    linesAbove above file hunk = Text.slice file (max 0 (beginOf hunk - above)) (beginOf hunk) := by
  obtain ⟨first, last, place, -, begins, -⟩ := positions inside
  rw [begins, upperEnd_eq, Text.slice_natCast, linesAbove, place, List.drop_take]

theorem linesBelow_eq_slice :
    linesBelow below file hunk =
      Text.slice file (endOf hunk) (min (file.length : Int) (endOf hunk + below)) := by
  obtain ⟨first, last, -, place, -, ends, -, reach⟩ := positions inside
  rw [ends, lowerEnd_eq, Text.slice_natCast, linesBelow, place, List.take_eq_take_iff,
    List.length_drop]
  omega

theorem length_linesAbove :
    ((linesAbove above file hunk).length : Int) = min (above : Int) (beginOf hunk) := by
  obtain ⟨first, last, place, -, begins, -, ordered, reach⟩ := positions inside
  rw [linesAbove, place, begins, List.length_drop, List.length_take]
  omega

theorem length_linesBelow :
    ((linesBelow below file hunk).length : Int) = min (below : Int) (file.length - endOf hunk) := by
  obtain ⟨first, last, -, place, -, ends, -, reach⟩ := positions inside
  rw [linesBelow, place, ends, List.length_take, List.length_drop]
  omega

theorem slices_append :
    linesAbove above file hunk ++ Text.slice file (beginOf hunk) (endOf hunk) ++
      linesBelow below file hunk =
      Text.slice file (max 0 (beginOf hunk - above))
      (min (file.length : Int) (endOf hunk + below)) := by
  rw [linesAbove_eq_slice above inside, linesBelow_eq_slice below inside]
  obtain ⟨first, last, -, -, begins, ends, ordered, reach⟩ := positions inside
  rw [begins, ends, upperEnd_eq, lowerEnd_eq, Text.slice_natCast, Text.slice_natCast,
    Text.slice_natCast, Text.slice_natCast]
  have upToEnd :=
    Diff.Merge.take_drop_append file (first - above) (first - (first - above)) (last - first)
  have upToStop := Diff.Merge.take_drop_append file (first - above) (last - (first - above))
    (min file.length (last + below) - last)
  rw [show first - above + (first - (first - above)) = first by omega,
    show first - (first - above) + (last - first) = last - (first - above) by omega] at upToEnd
  rw [show first - above + (last - (first - above)) = last by omega,
    show last - (first - above) + (min file.length (last + below) - last) =
      min file.length (last + below) - (first - above) by omega] at upToStop
  rw [upToEnd, upToStop]

theorem windowed_linesAbove_linesBelow : Windowed above below file hunk (linesAbove above file hunk)
    (bodyOf (linesAbove above file hunk) hunk) (linesBelow below file hunk) where
  lead_eq := linesAbove_eq_slice above inside
  lead_length := length_linesAbove above inside
  tail_eq := linesBelow_eq_slice below inside
  tail_length := length_linesBelow below inside
  listed := firstOf_bodyOf _ hunk
  whole told distinct unseen := by
    rw [bodyOf_eq_rawLines distinct unseen, unmarked_rawLines, told,
      slices_append above below inside]

end Inside

theorem expand_of_outside (margin : Margin) {text : String}
    (outside : fits (Text.fileLines text) hunk = false) :
    expand margin text hunk =
      if hunk.isWritable then .error (.outside hunk.header (Text.fileLines text).length)
      else .error .unwritable := by
  rw [expand, namedLines, expandLines]
  cases hunk.isWritable with
  | true =>
    simp only [outside, Bool.not_true, Bool.false_eq_true, if_false, if_true]
    rfl
  | false =>
    simp only [outside, Bool.not_false, Bool.false_eq_true, if_false, if_true]
    rfl

/-- A hunk is refused, by its header, exactly if it starts at no line or ends behind the last one.
Otherwise it is shown in a window of its file. Only numbers that cannot be written keep it from
being told, wherever it lies. -/
theorem expand_window (above below : Nat) (text : String) (hunk : Hunk) :
    let file := Text.fileLines text
    let outcome := expand ⟨.whole above, .whole below⟩ text hunk
    (hunk.isWritable = true →
      ((∃ error, outcome = .error error) ↔ beginOf hunk < 0 ∨ endOf hunk > file.length) ∧
      (beginOf hunk < 0 ∨ endOf hunk > file.length →
        outcome = .error (.outside hunk.header file.length)) ∧
      (¬ (beginOf hunk < 0 ∨ endOf hunk > file.length) → ∃ lead body tail,
        outcome = .ok (Text.unlines (lead ++ [hunk.header] ++ body ++ tail)) ∧
        Windowed above below file hunk lead body tail)) ∧
    (hunk.isWritable = false → outcome = .error .unwritable) := by
  intro file outcome
  rw [← @fits_eq_false_iff file]
  cases inside : fits file hunk with
  | true =>
    have shown : outcome = _ := expand_eq above below inside
    rw [expandLines_eq_ok above below inside] at shown
    refine ⟨fun written => ?_, fun long => ?_⟩
    · rw [if_pos written] at shown
      rw [shown]
      refine ⟨⟨nofun, nofun⟩, nofun, fun _ => ⟨_, _, _, rfl, ?_⟩⟩
      exact windowed_linesAbove_linesBelow above below inside
    · rw [shown, if_neg (ne_true_of_eq_false long)]
  | false =>
    have refused : outcome = _ := expand_of_outside _ inside
    refine ⟨fun written => ?_, fun long => ?_⟩
    · rw [refused, if_pos written]
      exact ⟨⟨fun _ => rfl, fun _ => ⟨_, rfl⟩⟩, fun _ => rfl, fun other => absurd rfl other⟩
    · rw [refused, if_neg (ne_true_of_eq_false long)]

theorem expand_window_clamped :
    let lines : List Line := [⟨.context, "b"⟩, ⟨.removed, "c"⟩, ⟨.added, "y"⟩]
    let hunk : Hunk := ⟨⟨2, 2⟩, ⟨2, 2⟩, lines, ["\n", "\n", "\n"]⟩
    hunk.isWritable = true ∧ ∃ lead body tail,
      expand ⟨.whole 5, .whole 1⟩ "a\nb\nc\nd\ne" hunk =
        .ok (Text.unlines (lead ++ [hunk.header] ++ body ++ tail)) ∧
      lead ++ unmarked body ++ tail = ["a", "b", "c", "d"] := by
  -- The margin above is cut by the start of the file, the one below is not.
  intro lines hunk
  have written : hunk.isWritable = true := by decide +kernel
  have inside : ¬ (beginOf hunk < 0 ∨
    endOf hunk > (Text.fileLines "a\nb\nc\nd\ne").length) := by decide
  obtain ⟨lead, body, tail, shown, window⟩ :=
    ((expand_window 5 1 "a\nb\nc\nd\ne" hunk).1 written).2.2 inside
  have unseen : ∀ line ∈ hunk.rawLines, line ≠ hunk.header ∧ line ∉ lead := by
    rw [window.lead_eq]
    decide
  refine ⟨written, lead, body, tail, shown, ?_⟩
  rw [window.whole (by decide) (by decide) unseen]
  decide

theorem expand_distant :
    let hunk : Hunk := ⟨⟨1, 1⟩, ⟨Nat.pow 10 4300, 0⟩, [⟨.removed, "a"⟩], ["\n"]⟩
    ¬ (beginOf hunk < 0 ∨ endOf hunk > (Text.fileLines "a").length) ∧
      ∃ error, expand ⟨.whole 5, .whole 5⟩ "a" hunk = .error error := by
  -- A hunk with a number that can be had but not written is refused though it lies in its file.
  intro hunk
  have long : hunk.isWritable = false := by decide +kernel
  have inside : fits (Text.fileLines "a") hunk = true := by decide +kernel
  refine ⟨?_, .unwritable, ?_⟩
  · rw [← fits_eq_false_iff, inside]
    exact Bool.noConfusion
  · rw [expand_eq 5 5 inside, if_neg (ne_true_of_eq_false long)]

end ReviewContext.Margin
