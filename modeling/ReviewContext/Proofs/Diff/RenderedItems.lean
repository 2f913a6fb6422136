import ReviewContext.Proofs.Diff.Body
import ReviewContext.Proofs.Outcome

/-! Items of a rendering: each head, pair of name lines and hunk of a written diff is read as one
item. -/
namespace ReviewContext.Diff

def Item.hunk? : Item → Option Hunk
  | .hunk found => some found
  | _ => none

inductive WrittenItem
  | head (line : WrittenLine)
  | names (old new : WrittenLine)
  | hunk (written : WrittenHunk)

namespace WrittenItem

def lines : WrittenItem → List WrittenLine
  | head line => [line]
  | names old new => [⟨"--- " ++ old.text, old.delimiter⟩, ⟨"+++ " ++ new.text, new.delimiter⟩]
  | hunk written => written.lines

def item : WrittenItem → Item
  | head line => .file (Header.fileNames? line.text)
  | names old new => .names old.text new.text
  | hunk written => .hunk written.hunk

def Valid : WrittenItem → Prop
  | head line => Text.startsWith line.text "diff --git " = true
  | names _ _ => True
  | hunk written => written.Valid

/-- A hunk in whose body nothing looks like name lines; other items are always plain. -/
def Plain : WrittenItem → Prop
  | hunk written => ¬ Ambiguous written.body
  | _ => True

theorem toList_of_startsWith {text lead : String} (h : Text.startsWith text lead = true) :
    ∃ rest, text.toList = lead.toList ++ rest := by
  rw [Text.startsWith, List.isPrefixOf_iff_prefix] at h
  obtain ⟨rest, split⟩ := h
  exact ⟨rest, split.symm⟩

theorem toList_header (written : WrittenHunk) : written.header.text.toList =
    '@' :: '@' :: ' ' :: '-' :: (written.old.text.toList ++ ' ' :: '+' ::
      (written.new.text.toList ++ ' ' :: '@' :: '@' :: written.trailing.toList)) := by
  simp [WrittenHunk.header]

theorem extents?_header (written : WrittenHunk) :
    Header.extents? written.header.text = some (written.old.extent, written.new.extent) := by
  have closing : Header.skipBlanks (' ' :: '@' :: '@' :: written.trailing.toList) =
      '@' :: '@' :: written.trailing.toList := by
    simp [Header.skipBlanks, show Text.isBlank ' ' = true by decide,
      show Text.isBlank '@' = false by decide]
  unfold Header.extents?
  rw [toList_header]
  simp only [written.old.extent?_text '-' (by decide), written.new.extent?_text '+' (by decide),
    Option.bind_eq_bind, Option.bind_some, closing]

theorem room_zero {written : WrittenHunk} (valid : written.Valid) :
    (⟨0, 0⟩ : Counts).Room ⟨written.old.count, written.new.count⟩ (written.body.map Prod.fst) := by
  simpa [Counts.Room] using ⟨valid.old_covers, valid.new_covers⟩

theorem takeHunk_numbered {written : WrittenHunk} (valid : written.Valid) (number following : Nat)
    {rest : List Row} (opens : Opens rest) :
    ∃ left, takeHunk ⟨number, written.header.text, written.delimiter⟩
        (WrittenLine.numbered following (written.body.map WrittenHunk.bodyLine) ++ rest) =
      .ok (Hunk.ofBody ⟨written.old.start, written.old.count⟩ ⟨written.new.start, written.new.count⟩
        (untilNames written.body), left) ∧
          (untilNames written.body = written.body → left = rest) := by
  obtain ⟨left, taken, whole⟩ := takeBody_numbered following (room_zero valid) opens
  refine ⟨left, ?_, whole⟩
  unfold takeHunk
  simp only [extents?_header, WrittenSide.read_extent valid.old, WrittenSide.read_extent valid.new]
  simp only [bind, Except.bind, taken, pure, Except.pure]

theorem namePair?_eq_none (row : Row) (h : Text.startsWith row.text "--- " = false)
    (rest : List Row) :
    row.namePair? rest = none := by
  cases rest with
  | nil => rfl
  | cons next more => simp [Row.namePair?, h]

theorem dropFirst_append (lead text : String) :
    Text.dropFirst lead.toList.length (lead ++ text) = text := by
  rw [Text.dropFirst, String.toList_append, List.drop_left, String.ofList_toList]

theorem namePair?_names (old new : String) (number following : Nat) (delimiter ending : String)
    (rest : List Row) :
    (⟨number, "--- " ++ old, delimiter⟩ : Row).namePair?
      (⟨following, "+++ " ++ new, ending⟩ :: rest) =
      some (old, new) := by
  have first := dropFirst_append "--- " old
  have second := dropFirst_append "+++ " new
  change Text.dropFirst 4 _ = _ at first second
  simp [Row.namePair?, Text.startsWith, first, second]

theorem opens_lines {written : WrittenItem} (valid : written.Valid) (number : Nat)
    (rest : List Row) :
    Opens (WrittenLine.numbered number written.lines ++ rest) := by
  cases written with
  | head line =>
    obtain ⟨more, text⟩ := toList_of_startsWith valid
    refine ⟨startsWith_cons text "\\" '\\' [] rfl, ?_,
      startsWith_cons text "+++ " '+' "++ ".toList rfl⟩
    have file : (⟨number, line.text, line.delimiter⟩ : Row).opensFile = true := by
      rw [Row.opensFile]
      simp only [show Text.startsWith line.text "diff --git " = true from valid, Bool.true_or]
    rw [Row.opensSection, file, Bool.or_true, Bool.true_or]
  | names old new =>
    have text : ("--- " ++ old.text).toList = '-' :: ("-- ".toList ++ old.text.toList) := by simp
    refine ⟨startsWith_cons text "\\" '\\' [] rfl, ?_,
      startsWith_cons text "+++ " '+' "++ ".toList rfl⟩
    rw [Row.opensSection]
    simp [WrittenLine.numbered, namePair?_names]
  | hunk written =>
    have text := toList_header written
    refine ⟨startsWith_cons text "\\" '\\' [] rfl, ?_,
      startsWith_cons text "+++ " '+' "++ ".toList rfl⟩
    rw [Row.opensSection, Row.opensHunk, startsWith_cons text "@@" '@' ['@'] rfl]
    rfl

theorem ofRows_of_takeHunk {row : Row} {rest left : List Row} {hunk : Hunk}
    (file : row.opensFile = false) (names : row.namePair? rest = none)
    (opens : row.opensHunk = true) (taken : takeHunk row rest = .ok (hunk, left)) :
    Item.ofRows (row :: rest) = (Item.ofRows left).map (.hunk hunk :: ·) := by
  rw [Item.ofRows, file, names, opens]
  simp only [Bool.false_eq_true, if_false, if_true]
  split
  next found left' read =>
    rw [taken, Except.ok.injEq, Prod.mk.injEq] at read
    rw [read.1, read.2]
  next error read =>
    rw [taken] at read
    contradiction

theorem hunk_ofBody {written : WrittenHunk} (whole : untilNames written.body = written.body) :
    Hunk.ofBody ⟨written.old.start, written.old.count⟩ ⟨written.new.start, written.new.count⟩
      (untilNames written.body) = written.hunk := by
  rw [whole]
  rfl

theorem hunk_ofBody_ne {written : WrittenHunk} (cut : untilNames written.body ≠ written.body) :
    Hunk.ofBody ⟨written.old.start, written.old.count⟩ ⟨written.new.start, written.new.count⟩
      (untilNames written.body) ≠ written.hunk := by
  intro same
  have shorter := length_untilNames_lt cut
  have lines := congrArg (fun hunk => hunk.lines.length) same
  simp only [Hunk.ofBody, Hunk.recounted, WrittenHunk.hunk, List.length_map] at lines
  omega

/-- A written item is read as it was written, or it is a hunk that is read as another. -/
theorem ofRows_lines {written : WrittenItem} (valid : written.Valid) (number : Nat)
    {rest : List Row} (opens : Opens rest) :
    ∃ found left, Item.ofRows (WrittenLine.numbered number written.lines ++ rest) =
        (Item.ofRows left).map (found :: ·) ∧
      ((written.Plain ∧ found = written.item ∧ left = rest) ∨
        (¬ written.Plain ∧
          ∃ hunk other, written.item = .hunk hunk ∧ found = .hunk other ∧ other ≠ hunk)) := by
  cases written with
  | head line =>
    have file : (⟨number, line.text, line.delimiter⟩ : Row).opensFile = true := by
      rw [Row.opensFile]
      simp only [show Text.startsWith line.text "diff --git " = true from valid, Bool.true_or]
    refine ⟨_, rest, ?_, .inl ⟨trivial, rfl, rfl⟩⟩
    change Item.ofRows (_ :: rest) = _
    rw [Item.ofRows, file]
    rfl
  | names old new =>
    have text : ("--- " ++ old.text).toList = '-' :: ("-- ".toList ++ old.text.toList) := by simp
    have file : (⟨number, "--- " ++ old.text, old.delimiter⟩ : Row).opensFile = false := by
      rw [Row.opensFile, startsWith_cons text "diff --git " 'd' "iff --git ".toList rfl,
        startsWith_cons text "Index: " 'I' "ndex: ".toList rfl]
      rfl
    refine ⟨_, rest, ?_, .inl ⟨trivial, rfl, rfl⟩⟩
    change Item.ofRows (_ :: _ :: rest) = _
    rw [Item.ofRows, file, namePair?_names]
    rfl
  | hunk written =>
    have text := toList_header written
    obtain ⟨left, taken, whole⟩ := takeHunk_numbered valid number (number + 1) opens
    have file : (⟨number, written.header.text, written.delimiter⟩ : Row).opensFile = false := by
      rw [Row.opensFile, startsWith_cons text "diff --git " 'd' "iff --git ".toList rfl,
        startsWith_cons text "Index: " 'I' "ndex: ".toList rfl]
      rfl
    have names := namePair?_eq_none ⟨number, written.header.text, written.delimiter⟩
      (startsWith_cons text "--- " '-' "-- ".toList rfl)
    have marked := startsWith_cons text "@@" '@' ['@'] rfl
    refine ⟨_, left, ofRows_of_takeHunk file (names _) marked taken, ?_⟩
    by_cases ambiguous : Ambiguous written.body
    · have cut : untilNames written.body ≠ written.body :=
        fun same => untilNames_eq_self_iff.mp same ambiguous
      exact .inr ⟨fun plain => plain ambiguous, _, _, rfl, rfl, hunk_ofBody_ne cut⟩
    · have same := untilNames_eq_self_iff.mpr ambiguous
      exact .inl ⟨ambiguous, congrArg Item.hunk (hunk_ofBody same), whole same⟩

theorem opens_flatMap {items : List WrittenItem} (valid : ∀ item ∈ items, item.Valid)
    (number : Nat) :
    Opens (WrittenLine.numbered number (items.flatMap lines)) := by
  cases items with
  | nil => trivial
  | cons first items =>
    rw [List.flatMap_cons, WrittenLine.numbered_append]
    exact opens_lines (valid first List.mem_cons_self) _ _

theorem ofRows_of_plain {items : List WrittenItem} (valid : ∀ item ∈ items, item.Valid)
    (plain : ∀ item ∈ items, item.Plain) (number : Nat) :
    Item.ofRows (WrittenLine.numbered number (items.flatMap lines)) = .ok (items.map item) := by
  induction items generalizing number with
  | nil => rw [List.flatMap_nil, WrittenLine.numbered, Item.ofRows, List.map_nil]
  | cons first items ih =>
    rw [List.forall_mem_cons] at valid plain
    rw [List.flatMap_cons, WrittenLine.numbered_append]
    obtain ⟨found, left, read, same | other⟩ :=
      ofRows_lines valid.1 number (opens_flatMap valid.2 _)
    · obtain ⟨-, rfl, rfl⟩ := same
      rw [read, ih valid.2 plain.2, List.map_cons]
      rfl
    · exact absurd plain.1 other.1

theorem plain_of_hunks {items : List WrittenItem} (valid : ∀ item ∈ items, item.Valid)
    {number : Nat} {found : List Item}
    (read : Item.ofRows (WrittenLine.numbered number (items.flatMap lines)) = .ok found)
    (same : found.filterMap Item.hunk? = (items.map item).filterMap Item.hunk?) :
    ∀ item ∈ items, item.Plain := by
  induction items generalizing number found with
  | nil => intro item inside; contradiction
  | cons first items ih =>
    rw [List.forall_mem_cons] at valid ⊢
    rw [List.flatMap_cons, WrittenLine.numbered_append] at read
    obtain ⟨head, left, step, cases⟩ := ofRows_lines valid.1 number (opens_flatMap valid.2 _)
    rw [step, Outcome.map_eq_ok_iff] at read
    obtain ⟨more, read, rfl⟩ := read
    rw [List.map_cons, List.filterMap_cons, List.filterMap_cons] at same
    obtain ⟨plain, rfl, rfl⟩ | ⟨-, hunk, other, shown, rfl, differ⟩ := cases
    · refine ⟨plain, ih valid.2 read ?_⟩
      cases kind : first.item.hunk? <;> simpa [kind] using same
    · -- The first hunk that is not read as it was written stands at the same place in both lists.
      rw [shown] at same
      exact absurd (List.cons.inj same).1 differ

end WrittenItem

end ReviewContext.Diff
