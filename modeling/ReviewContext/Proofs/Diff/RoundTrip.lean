import Mathlib.Data.List.TakeWhile
import ReviewContext.Proofs.Diff.RenderedItems

/-! Round trip: a written diff is read back as the sections it was written from, exactly if no body
of a hunk has lines that look like name lines. -/
namespace ReviewContext.Diff

theorem IsName.toList_ne_nil {name : String} (valid : IsName name) : name.toList ≠ [] :=
  fun empty => valid.nonempty (String.toList_eq_nil_iff.mp empty)

theorem trimList_eq_self {cs : List Char} (first : ∀ c ∈ cs.head?, Text.isBlank c = false)
    (last : ∀ c ∈ cs.getLast?, Text.isBlank c = false) : Text.trimList cs = cs := by
  have kept (cs : List Char) (first : ∀ c ∈ cs.head?, Text.isBlank c = false) :
      cs.dropWhile Text.isBlank = cs := by
    cases cs with
    | nil => rfl
    | cons c cs => rw [List.dropWhile_cons, first c rfl, if_neg Bool.false_ne_true]
  rw [Text.trimList, kept cs first, kept, List.reverse_reverse]
  rw [List.head?_reverse]
  exact last

theorem pathName?_name {name : String} (valid : IsName name) {side : Char}
    (sides : side = 'a' ∨ side = 'b') :
    Header.pathName? (String.ofList (side :: '/' :: name.toList)) = some name := by
  have bare : name.toList ≠ [] := valid.toList_ne_nil
  have whole : (side :: '/' :: name.toList).takeWhile (· ≠ '\t') = side :: '/' :: name.toList := by
    rw [List.takeWhile_eq_self_iff]
    intro c inside
    rw [List.mem_cons, List.mem_cons] at inside
    rw [decide_eq_true_eq]
    rintro rfl
    rcases inside with tab | tab | tab
    · rcases sides with rfl | rfl <;> contradiction
    · contradiction
    · exact valid.tab tab
  have trimmed : Text.trimList (side :: '/' :: name.toList) = side :: '/' :: name.toList := by
    apply trimList_eq_self
    · intro c hc
      rw [← Option.some.inj hc]
      rcases sides with rfl | rfl <;> decide
    · rw [List.getLast?_cons_cons, List.getLast?_cons_of_ne_nil bare]
      exact valid.last
  rw [Header.pathName?, String.toList_ofList, whole, trimmed]
  rcases sides with rfl | rfl <;> simp [bare]

namespace Patch

theorem allHunks_take (patches : List Patch) (item : Item) :
    allHunks (take patches item).reverse = allHunks patches.reverse ++ item.hunk?.toList := by
  cases item with
  | file names => simp [take, allHunks, Item.hunk?]
  | names old new =>
    cases patches with
    | nil => rfl
    | cons current done =>
      rw [take]
      split <;> simp [allHunks, Item.hunk?, named]
  | hunk found =>
    cases patches with
    | nil => rfl
    | cons current done => simp [take, allHunks, Item.hunk?]

theorem allHunks_ofItems (items : List Item) :
    allHunks (ofItems items) = items.filterMap Item.hunk? := by
  have steps (patches : List Patch) :
      allHunks (items.foldl take patches).reverse =
        allHunks patches.reverse ++ items.filterMap Item.hunk? := by
    induction items generalizing patches with
    | nil => simp
    | cons item items ih =>
      rw [List.foldl_cons, ih, allHunks_take, List.append_assoc]
      cases kind : item.hunk? <;> simp [kind]
  exact steps []

theorem foldl_take_hunks (current : Patch) (done : List Patch) (hunks : List Hunk) :
    (hunks.map Item.hunk).foldl take (current :: done) =
      { current with hunks := current.hunks ++ hunks } :: done := by
  induction hunks generalizing current with
  | nil => simp
  | cons hunk hunks ih =>
    rw [List.map_cons, List.foldl_cons, take, ih]
    simp

end Patch

namespace WrittenSection

def items (written : WrittenSection) : List WrittenItem :=
  written.head.toList.map .head ++
    .names ⟨"a/" ++ written.oldName, written.oldDelimiter⟩
      ⟨"b/" ++ written.newName, written.newDelimiter⟩ ::
      written.hunks.map .hunk

theorem flatMap_items (written : WrittenSection) :
    written.items.flatMap WrittenItem.lines = written.lines := by
  have marked (mark side name : String) : mark ++ (side ++ name) = mark ++ side ++ name :=
    String.append_assoc.symm
  cases head : written.head <;>
    simp [items, lines, head, WrittenItem.lines, oldLine, newLine, List.flatMap_map, marked]

theorem valid_items {written : WrittenSection} (valid : written.Valid) :
    ∀ item ∈ written.items, item.Valid := by
  intro item inside
  rw [items, List.mem_append, List.mem_map, List.mem_cons, List.mem_map] at inside
  rcases inside with ⟨line, inside, rfl⟩ | rfl | ⟨hunk, inside, rfl⟩
  · exact (valid.head line (Option.mem_toList.mp inside)).1
  · trivial
  · exact valid.hunks hunk inside

theorem plain_items_iff {written : WrittenSection} :
    (∀ item ∈ written.items, item.Plain) ↔ ∀ hunk ∈ written.hunks, ¬ Ambiguous hunk.body := by
  simp [items, WrittenItem.Plain, or_imp, forall_and]

theorem pathName?_old {written : WrittenSection} (valid : written.Valid) :
    Header.pathName? ("a/" ++ written.oldName) = some written.oldName := by
  rw [← pathName?_name valid.oldName (.inl rfl)]
  congr 1
  simp [← String.toList_inj]

theorem pathName?_new {written : WrittenSection} (valid : written.Valid) :
    Header.pathName? ("b/" ++ written.newName) = some written.newName := by
  rw [← pathName?_name valid.newName (.inr rfl)]
  congr 1
  simp [← String.toList_inj]

theorem named_names {written : WrittenSection} (valid : written.Valid) {patch : Patch}
    (bare : patch.hunks = []) :
    patch.named ("a/" ++ written.oldName) ("b/" ++ written.newName) =
      { written.patch with hunks := [] } := by
  rw [Patch.named, pathName?_old valid, pathName?_new valid, bare]
  rfl

theorem take_names {written : WrittenSection} (valid : written.Valid) {done : List Patch}
    (settled : ∀ patch ∈ done.head?, patch.awaitsNames = false) :
    Patch.take
      (((written.head.toList.map WrittenItem.head).map WrittenItem.item).foldl Patch.take done)
        (.names ("a/" ++ written.oldName) ("b/" ++ written.newName)) =
      { written.patch with hunks := [] } :: done := by
  cases written.head with
  | some line => exact congrArg (· :: done) (named_names valid rfl)
  | none =>
    cases done with
    | nil => exact congrArg (· :: []) (named_names valid rfl)
    | cons current done =>
      change Patch.take (current :: done) _ = _
      rw [Patch.take, settled current rfl, if_neg Bool.false_ne_true, named_names valid rfl]

theorem foldl_take_items {written : WrittenSection} (valid : written.Valid) {done : List Patch}
    (settled : ∀ patch ∈ done.head?, patch.awaitsNames = false) :
    (written.items.map WrittenItem.item).foldl Patch.take done = written.patch :: done := by
  have hunks : (written.hunks.map WrittenItem.hunk).map WrittenItem.item =
      (written.hunks.map WrittenHunk.hunk).map Item.hunk := by
    rw [List.map_map, List.map_map]
    rfl
  rw [items, List.map_append, List.foldl_append, List.map_cons, List.foldl_cons, hunks]
  change List.foldl _ (Patch.take _ (.names _ _)) _ = _
  rw [take_names valid settled, Patch.foldl_take_hunks]
  rfl

theorem ofItems_flatMap {sections : List WrittenSection}
    (valid : ∀ written ∈ sections, written.Valid) :
    Patch.ofItems ((sections.flatMap items).map WrittenItem.item) = sections.map patch := by
  have steps (done : List Patch) (settled : ∀ patch ∈ done.head?, patch.awaitsNames = false) :
      ((sections.flatMap items).map WrittenItem.item).foldl Patch.take done =
        (sections.map patch).reverse ++ done := by
    induction sections generalizing done with
    | nil => rfl
    | cons first sections ih =>
      rw [List.forall_mem_cons] at valid
      have named : ∀ patch ∈ (first.patch :: done).head?, patch.awaitsNames = false := by
        intro patch top
        rw [← Option.some.inj top, Patch.awaitsNames]
        exact Bool.and_false _
      rw [List.flatMap_cons, List.map_append, List.foldl_append, foldl_take_items valid.1 settled,
        ih valid.2 _ named, List.map_cons, List.reverse_cons, List.append_assoc]
      rfl
  rw [Patch.ofItems, steps [] (by simp), List.append_nil, List.reverse_reverse]

end WrittenSection

namespace WrittenLine

theorem whole_append {lead text delimiter : String} (clean : '\n' ∉ lead.toList)
    (closed : Text.endsInReturn lead = false) (whole : (⟨text, delimiter⟩ : WrittenLine).Whole) :
    (⟨lead ++ text, delimiter⟩ : WrittenLine).Whole := by
  refine ⟨?_, whole.2.imp_right fun ⟨ending, bare⟩ => ⟨ending, ?_⟩⟩
  · rw [String.toList_append, List.mem_append]
    exact fun inside => inside.elim clean whole.1
  · rw [Text.endsInReturn, String.toList_append]
    cases chars : text.toList with
    | nil => rw [List.append_nil]; exact closed
    | cons c cs =>
      rw [List.getLast?_append_cons, ← chars]
      exact bare

end WrittenLine

theorem WrittenSide.feed_notMem_text (side : WrittenSide) : '\n' ∉ side.text.toList := by
  have clean (n : Nat) : '\n' ∉ Text.decimal n := fun inside => by
    simpa using Text.isDigit_of_mem_decimal inside
  rw [toList_text, List.mem_append]
  split <;> simp [clean]

namespace WrittenHunk

theorem whole_header {written : WrittenHunk} (valid : written.Valid) : written.header.Whole := by
  refine WrittenLine.whole_append ?_ ?_ valid.trailing
  · simp [WrittenSide.feed_notMem_text]
  · rw [Text.endsInReturn, String.toList_append, show " @@".toList = [' ', '@', '@'] from rfl,
      List.getLast?_append_cons]
    rfl

theorem whole_bodyLine {entry : Line × String}
    (whole : (⟨entry.1.content, entry.2⟩ : WrittenLine).Whole) :
    (bodyLine entry).Whole := by
  have marked : entry.1.raw = String.ofList [entry.1.kind.marker] ++ entry.1.content := by
    simp [← String.toList_inj, toList_raw]
  rw [bodyLine, marked]
  refine WrittenLine.whole_append ?_ ?_ whole <;> cases entry.1.kind <;> decide

theorem whole_lines {written : WrittenHunk} (valid : written.Valid) :
    ∀ line ∈ written.lines, line.Whole := by
  rw [lines, List.forall_mem_cons]
  refine ⟨whole_header valid, ?_⟩
  intro line inside
  obtain ⟨entry, member, rfl⟩ := List.mem_map.mp inside
  exact whole_bodyLine (valid.body entry member)

end WrittenHunk

namespace WrittenSection

theorem whole_lines {written : WrittenSection} (valid : written.Valid) :
    ∀ line ∈ written.lines, line.Whole := by
  rw [lines, List.forall_mem_append, List.forall_mem_cons, List.forall_mem_cons]
  refine ⟨fun line inside => (valid.head line (Option.mem_toList.mp inside)).2,
    WrittenLine.whole_append (by decide) (by decide) valid.oldLine,
    WrittenLine.whole_append (by decide) (by decide) valid.newLine, ?_⟩
  intro line inside
  obtain ⟨hunk, member, inside⟩ := List.mem_flatMap.mp inside
  exact WrittenHunk.whole_lines (valid.hunks hunk member) line inside

end WrittenSection

theorem ofText_render {sections : List WrittenSection}
    (valid : ∀ written ∈ sections, written.Valid) :
    Row.ofText (render sections) =
      WrittenLine.numbered 1
        ((sections.flatMap WrittenSection.items).flatMap WrittenItem.lines) := by
  have whole : ∀ line ∈ sections.flatMap WrittenSection.lines, line.Whole := by
    intro line inside
    obtain ⟨written, member, inside⟩ := List.mem_flatMap.mp inside
    exact WrittenSection.whole_lines (valid written member) line inside
  rw [render, WrittenLine.ofText_join whole, List.flatMap_assoc]
  congr 2
  funext written
  exact written.flatMap_items.symm

theorem isBlankText_render {sections : List WrittenSection} {written : WrittenSection}
    (inside : written ∈ sections) : Text.isBlankText (render sections) = false := by
  have visible : '-' ∈ (render sections).toList := by
    rw [render, WrittenLine.join, String.toList_join, List.flatMap_map, List.mem_flatMap]
    refine ⟨written.oldLine, List.mem_flatMap.mpr ⟨written, inside, ?_⟩, ?_⟩
    · simp [WrittenSection.lines]
    · simp [WrittenLine.written, WrittenSection.oldLine]
  rw [Text.isBlankText, List.all_eq_false]
  exact ⟨'-', visible, by decide⟩

theorem allHunks_patches_ne_nil {sections : List WrittenSection} {written : WrittenSection}
    (inside : written ∈ sections) (hunks : written.hunks ≠ []) :
    allHunks (sections.map WrittenSection.patch) ≠ [] := by
  intro none
  rw [allHunks, List.flatMap_eq_nil_iff] at none
  have empty := none written.patch (List.mem_map_of_mem inside)
  exact hunks (List.map_eq_nil_iff.mp empty)

/-- A diff is read back as it was written, exactly if no two lines in a body look like the names of
a file. -/
theorem parse_render_eq_ok_iff {sections : List WrittenSection}
    (valid : ∀ written ∈ sections, written.Valid)
    (full : ∃ written ∈ sections, written.hunks ≠ []) :
    parse (render sections) = .ok (sections.map WrittenSection.patch) ↔
      ∀ written ∈ sections, ∀ hunk ∈ written.hunks, ¬ Ambiguous hunk.body := by
  obtain ⟨first, inside, hunks⟩ := full
  have items : ∀ item ∈ sections.flatMap WrittenSection.items, item.Valid := by
    intro item member
    obtain ⟨written, among, member⟩ := List.mem_flatMap.mp member
    exact WrittenSection.valid_items (valid written among) item member
  have plain : (∀ item ∈ sections.flatMap WrittenSection.items, item.Plain) ↔
      ∀ written ∈ sections, ∀ hunk ∈ written.hunks, ¬ Ambiguous hunk.body := by
    simp only [List.forall_mem_flatMap, WrittenSection.plain_items_iff]
  have taken := WrittenSection.ofItems_flatMap valid
  rw [parse, isBlankText_render inside, ofText_render valid, if_neg Bool.false_ne_true, ← plain]
  constructor
  · intro read
    obtain ⟨found, read, made⟩ := Outcome.bind_eq_ok_iff.mp read
    have same : Patch.ofItems found = sections.map WrittenSection.patch := by
      dsimp only at made
      split at made
      · contradiction
      · exact Except.ok.inj made
    apply WrittenItem.plain_of_hunks items read
    rw [← Patch.allHunks_ofItems, same, ← taken, Patch.allHunks_ofItems]
  · intro plain
    have kept : (allHunks (sections.map WrittenSection.patch)).isEmpty = false :=
      List.isEmpty_eq_false_iff.mpr (allHunks_patches_ne_nil inside hunks)
    rw [WrittenItem.ofRows_of_plain items plain]
    change (if (allHunks (Patch.ofItems _)).isEmpty then _ else Except.ok (Patch.ofItems _)) = _
    rw [taken, kept, if_neg Bool.false_ne_true]

def cutShort (removed added : String) : WrittenSection where
  head := some ⟨"diff --git a/x.py b/y.py", "\r\n"⟩
  oldName := "x.py"
  newName := "y.py"
  hunks := [{
    old := ⟨4, 2, false⟩
    new := ⟨4, 2, false⟩
    trailing := " def f():"
    body := [(⟨.removed, removed⟩, "\n"), (⟨.added, added⟩, "\r\n")] }]

theorem valid_cutShort {removed added : String} (first : (⟨removed, "\n"⟩ : WrittenLine).Whole)
    (second : (⟨added, "\r\n"⟩ : WrittenLine).Whole) : (cutShort removed added).Valid := by
  have side : (⟨4, 2, false⟩ : WrittenSide).Valid :=
    ⟨by decide, by decide +kernel, by decide +kernel⟩
  have oldName : IsName "x.py" := by
    refine ⟨by decide, by decide, ?_, ?_⟩ <;> (intro c hc; rw [← Option.some.inj hc]; decide)
  have newName : IsName "y.py" := by
    refine ⟨by decide, by decide, ?_, ?_⟩ <;> (intro c hc; rw [← Option.some.inj hc]; decide)
  have trailing : (⟨" def f():", "\n"⟩ : WrittenLine).Whole := by decide
  have head : ∀ line ∈ (cutShort removed added).head,
      Text.startsWith line.text "diff --git " = true ∧ line.Whole := by
    intro line inside
    rw [← Option.some.inj inside]
    decide
  have oldLine : (⟨"x.py", "\n"⟩ : WrittenLine).Whole := by decide
  have newLine : (⟨"y.py", "\n"⟩ : WrittenLine).Whole := by decide
  refine ⟨head, oldName, newName, oldLine, newLine, ?_⟩
  intro hunk inside
  rw [List.mem_singleton.mp inside]
  refine ⟨side, side, Nat.le_of_lt (Nat.lt_succ_self 1), Nat.le_of_lt (Nat.lt_succ_self 1),
    trailing, ?_⟩
  simpa using ⟨first, second⟩

theorem parse_render_cutShort :
    parse (render [cutShort "a" "b"]) = .ok [(cutShort "a" "b").patch] ∧
      parse (render [cutShort "-- a" "++ b"]) ≠ .ok [(cutShort "-- a" "++ b").patch] := by
  have plain : ∀ written ∈ [cutShort "a" "b"], written.Valid := by
    simpa using valid_cutShort (by decide) (by decide)
  have marked : ∀ written ∈ [cutShort "-- a" "++ b"], written.Valid := by
    simpa using valid_cutShort (by decide) (by decide)
  refine ⟨(parse_render_eq_ok_iff plain (by simp [cutShort])).mpr ?_, fun read => ?_⟩
  · simpa [cutShort] using untilNames_eq_self_iff.mp rfl
  · have names := (parse_render_eq_ok_iff marked (by simp [cutShort])).mp read
    simp only [List.forall_mem_singleton, cutShort] at names
    exact absurd (untilNames_eq_self_iff.mpr names) (by decide)

end ReviewContext.Diff
