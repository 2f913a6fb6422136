import ReviewContext.Proofs.Diff.Refusal

/-! Edits: which of the edits behind the header of a hunk become lines of it. An edit is lost where
the hunk is full before the edit comes, and refused where it is one too many for a hunk that is
not. -/
namespace ReviewContext.Diff

open Header (WrittenExtent)

def Row.isEdit (row : Row) : Bool := Text.startsWith row.text "+" || Text.startsWith row.text "-"

/-- An edit that stands behind a header, before any section opens. -/
structure EditBehind (following before : List Row) (row : Row) (after : List Row) : Prop where
  split : following = before ++ row :: after
  unbroken : Unbroken (before ++ [row]) after
  edit : row.isEdit = true

def Hunk.Shows (hunk : Hunk) (before : List Row) (row : Row) : Prop :=
  (lineRows before).map Row.shown ++ [row.text] <+: hunk.rawLines

/-- An edit is shown exactly where the rows before it leave a count of the header open; if one is
not, the hunk has all the lines that its header declares. -/
def TreatsEdits (opening : Row × List Row) (hunk : Hunk) : Prop :=
  ∃ old new, Header.extents? opening.1.text = some (old, new) ∧
    ∀ before row after, EditBehind opening.2 before row after →
      (hunk.Shows before row ↔ ((⟨0, 0⟩ : Counts).after before).reach (declaredCounts old new) =
        false) ∧
        (¬ hunk.Shows before row → hunk.counted = declaredCounts old new)

def KeepsEdits (opening : Row × List Row) (hunk : Hunk) : Prop :=
  ∀ before row after, EditBehind opening.2 before row after → row.text ∈ hunk.rawLines

/-- An edit is one too many for a hunk that still has a count open. -/
def Surplus (opening : Row × List Row) : Prop :=
  ∃ old new, Header.extents? opening.1.text = some (old, new) ∧
    ∃ before row after, EditBehind opening.2 before row after ∧
      ((⟨0, 0⟩ : Counts).after before).reach (declaredCounts old new) = false ∧
      ((⟨0, 0⟩ : Counts).after (before ++ [row])).exceed (declaredCounts old new) = true

theorem Row.exists_line_of_isEdit {row : Row} (edit : row.isEdit = true) :
    ∃ line, row.line? = some line ∧ row.shown = row.text := by
  rw [Row.isEdit, Bool.or_eq_true] at edit
  have text : ∃ kind cs, row.text.toList = LineKind.marker kind :: cs := by
    rcases edit with added | removed
    · exact ⟨.added, WrittenItem.toList_of_startsWith added⟩
    · exact ⟨.removed, WrittenItem.toList_of_startsWith removed⟩
  obtain ⟨kind, cs, text⟩ := text
  have read : row.line? = some ⟨kind, String.ofList cs⟩ := by
    rw [Row.line?, Line.ofRaw?, text]
    cases kind <;> rfl
  refine ⟨_, read, if_neg fun empty => ?_⟩
  simp [empty] at text

theorem lineRows_append (first second : List Row) :
    lineRows (first ++ second) = lineRows first ++ lineRows second :=
  List.filter_append ..

theorem lineRows_cons_of_line {row : Row} {line : Line} (read : row.line? = some line)
    (rows : List Row) :
    lineRows (row :: rows) = row :: lineRows rows := by
  simp [lineRows, isRemark_of_line? read]

namespace Accounted

variable {header : Row} {following taken left before after : List Row} {row : Row} {hunk : Hunk}
  {old new : WrittenExtent}

theorem counted_of_reach (facts : Accounted header following hunk old new taken left)
    (reach : ((⟨0, 0⟩ : Counts).after taken).reach (declaredCounts old new) = true) :
    hunk.counted = declaredCounts old new := by
  rw [← facts.counts, Counts.reach, Bool.and_eq_true, decide_eq_true_eq, decide_eq_true_eq] at reach
  exact congrArg₂ Counts.mk (Nat.le_antisymm facts.oldCovered reach.1)
    (Nat.le_antisymm facts.newCovered reach.2)

theorem treatsEdits (facts : Accounted header following hunk old new taken left) :
    TreatsEdits (header, following) hunk := by
  refine ⟨old, new, facts.written, ?_⟩
  rintro before row after ⟨split, unbroken, edit⟩
  obtain ⟨line, read, shown⟩ := Row.exists_line_of_isEdit edit
  have place : taken ++ left = before ++ row :: after := facts.split.symm.trans split
  rcases split_append place with ⟨more, rfl, rfl⟩ | ⟨more, rfl, rfl⟩
  · -- the body takes the edit
    have kept : hunk.Shows before row := by
      rw [Hunk.Shows, facts.lines, lineRows_append, lineRows_cons_of_line read, List.map_append,
        List.map_cons, shown]
      exact ⟨(lineRows more).map Row.shown, by rw [List.append_assoc, List.singleton_append]⟩
    have wanting := fun reach => facts.first before (row :: more) rfl (by simp) (.inl reach)
    exact ⟨⟨fun _ => Bool.eq_false_iff.mpr wanting, fun _ => kept⟩, fun lost => absurd kept lost⟩
  · -- the body has ended before the edit
    have reach : ((⟨0, 0⟩ : Counts).after taken).reach (declaredCounts old new) = true := by
      rw [List.append_assoc] at unbroken
      exact facts.ends.reach_of_unbroken unbroken
    have lost : ¬ hunk.Shows (taken ++ more) row := by
      intro kept
      have short := kept.length_le
      rw [facts.lines, lineRows_append] at short
      simp only [List.length_append, List.length_map, List.length_singleton] at short
      omega
    have full : ((⟨0, 0⟩ : Counts).after (taken ++ more)).reach (declaredCounts old new) =
        true := by
      rw [Counts.after_append]
      exact Counts.reach_after reach more
    exact ⟨⟨fun kept => absurd kept lost,
      fun wanting => absurd full (Bool.eq_false_iff.mp wanting)⟩, fun _ =>
      facts.counted_of_reach reach⟩

end Accounted

theorem Surplus.exists_faultAt {rows : List Row} {opening : Row × List Row}
    (among : opening ∈ openings rows) (surplus : Surplus opening) :
    ∃ place fault, FaultAt rows place fault := by
  obtain ⟨old, new, written, before, row, after, ⟨split, unbroken, edit⟩, wanting, exceed⟩ :=
    surplus
  obtain ⟨line, read, -⟩ := Row.exists_line_of_isEdit edit
  obtain ⟨earlier, whole⟩ := isSuffix_of_mem_openings among
  refine ⟨_, _, earlier ++ opening.1 :: before, row, after, ?_, rfl,
    .body earlier opening.1 before rfl old new written ⟨unbroken, wanting⟩ _
      (.overrun line read exceed)⟩
  rw [← whole, split, List.append_assoc, List.cons_append]

/-- The edits of a diff that is read are treated as the counts of their headers say, and a diff with
an edit too many for a hunk with an open count is refused. -/
theorem parse_treats_edits (text : String) :
    (∀ patches, parse text = .ok patches →
        List.Forall₂ TreatsEdits (openings (Row.ofText text)) (allHunks patches)) ∧
      ((∃ opening ∈ openings (Row.ofText text), Surplus opening) →
        (∀ patches, parse text ≠ .ok patches) ∧
          (ShortHeaders (Row.ofText text) → ∃ fault, parse text = .error (.malformed fault))) := by
  have reading := reading_ofRows (Row.ofText text)
  refine ⟨fun patches read => ?_, ?_⟩
  · obtain ⟨items, found, same⟩ := parse_eq_ok read
    rw [same]
    refine List.Forall₂.imp ?_ (reading.accounted found)
    rintro opening hunk ⟨old, new, taken, left, facts⟩
    exact facts.treatsEdits
  · rintro ⟨opening, among, surplus⟩
    obtain ⟨place, fault, faulty⟩ := surplus.exists_faultAt among
    constructor
    · intro patches read
      obtain ⟨items, found, -⟩ := parse_eq_ok read
      rw [found] at reading
      cases reading.verdict with
      | sound items faultless => exact faultless place fault faulty
    · intro short
      have outcome := parseOutcome_parse short
      generalize parse text = result at outcome
      cases outcome with
      | sound patches opens faultless => exact absurd faulty (faultless place fault)
      | hunkless fault => exact ⟨fault, rfl⟩
      | faulty place fault => exact ⟨fault, rfl⟩

def removalLast : String := "@@ -1,1 +1,1 @@\n-a\n+c\n-b\n"

def additionLast : String := "@@ -1,1 +1,1 @@\n-a\n-b\n+c\n"

theorem openings_removalLast :
    openings (Row.ofText removalLast) =
      [(⟨1, "@@ -1,1 +1,1 @@", "\n"⟩, [⟨2, "-a", "\n"⟩, ⟨3, "+c", "\n"⟩, ⟨4, "-b", "\n"⟩])] := by
  decide +kernel

theorem openings_additionLast :
    openings (Row.ofText additionLast) =
      [(⟨1, "@@ -1,1 +1,1 @@", "\n"⟩, [⟨2, "-a", "\n"⟩, ⟨3, "-b", "\n"⟩, ⟨4, "+c", "\n"⟩])] := by
  decide +kernel

theorem parse_removalLast :
    parse removalLast =
      .ok [{ hunks := [⟨⟨1, 1⟩, ⟨1, 1⟩, [⟨.removed, "a"⟩, ⟨.added, "c"⟩], ["\n", "\n"]⟩] }] := by
  decide +kernel

theorem surplus_additionLast : ∃ opening ∈ openings (Row.ofText additionLast), Surplus opening := by
  rw [openings_additionLast]
  have unbroken : Unbroken [⟨2, "-a", "\n"⟩, ⟨3, "-b", "\n"⟩] [⟨4, "+c", "\n"⟩] :=
    unbroken_cons.mpr ⟨by decide, unbroken_cons.mpr ⟨by decide, unbroken_nil _⟩⟩
  refine ⟨_, List.mem_singleton_self _, ⟨[1], some [1]⟩, ⟨[1], some [1]⟩, by decide,
    [⟨2, "-a", "\n"⟩], ⟨3, "-b", "\n"⟩, [⟨4, "+c", "\n"⟩],
    ⟨rfl, unbroken, by decide⟩, by decide, by decide⟩

theorem parse_treats_edits_order :
    List.Forall₂ TreatsEdits (openings (Row.ofText removalLast))
        [⟨⟨1, 1⟩, ⟨1, 1⟩, [⟨.removed, "a"⟩, ⟨.added, "c"⟩], ["\n", "\n"]⟩] ∧
      ∃ fault, parse additionLast = .error (.malformed fault) :=
  ⟨(parse_treats_edits removalLast).1 _ parse_removalLast,
    ((parse_treats_edits additionLast).2 surplus_additionLast).2 (by decide +kernel)⟩

theorem parse_loses_edit :
    ∃ patches, parse removalLast = .ok patches ∧
      ¬ List.Forall₂ KeepsEdits (openings (Row.ofText removalLast)) (allHunks patches) := by
  -- An edit behind a full hunk is neither refused nor kept.
  refine ⟨_, parse_removalLast, ?_⟩
  rw [openings_removalLast]
  rintro (_ | ⟨keeps, -⟩)
  have unbroken : Unbroken [⟨2, "-a", "\n"⟩, ⟨3, "+c", "\n"⟩, ⟨4, "-b", "\n"⟩] [] :=
    unbroken_cons.mpr ⟨by decide,
      unbroken_cons.mpr ⟨by decide, unbroken_cons.mpr ⟨by decide, unbroken_nil _⟩⟩⟩
  have kept :=
    keeps [⟨2, "-a", "\n"⟩, ⟨3, "+c", "\n"⟩] ⟨4, "-b", "\n"⟩ [] ⟨rfl, unbroken, by decide⟩
  exact absurd kept (by decide)

end ReviewContext.Diff
