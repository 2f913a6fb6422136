import ReviewContext.Margin
import ReviewContext.Proofs.Outcome

/-! Margins: of the marked lines of a hunk those are shown that are not shown above it or before it
in the hunk, so that all edits are shown, each as often as it is made, if they differ from each
other and from the lines above. -/
namespace ReviewContext.Margin

open Diff (Hunk Line)

section FirstOccurrences

variable {α : Type} [DecidableEq α]

theorem filter_eraseDups (p : α → Bool) (items : List α) :
    items.eraseDups.filter p = (items.filter p).eraseDups := by
  match items with
  | [] => rfl
  | item :: rest =>
    have shorter := List.length_filter_le (fun other => !other == item) rest
    have ih := filter_eraseDups p (rest.filter fun other => !other == item)
    rw [List.eraseDups_cons, List.filter_cons, List.filter_cons]
    split
    · rw [List.eraseDups_cons, ih, List.filter_comm]
    · next out =>
      -- what is filtered out anyway need not be erased
      have same : rest.filter p = (rest.filter fun other => !other == item).filter p := by
        rw [List.filter_filter]
        refine List.filter_congr fun other _ => ?_
        by_cases equal : other = item <;> simp [equal, out]
      rw [ih, same]
termination_by items.length
decreasing_by simp only [List.length_cons]; omega

theorem idxOf_lt_of_filter {p : α → Bool} {item later : α} (kept : p item = true)
    (other : p later = true) :
    ∀ {items : List α}, (items.filter p).idxOf item < (items.filter p).idxOf later →
      items.idxOf item < items.idxOf later
  | [], before => before
  | first :: rest, before => by
    by_cases left : p first = true
    · rw [List.filter_cons_of_pos left] at before
      by_cases here : first = item
      · subst here
        have apart : first ≠ later := by
          rintro rfl
          exact Nat.lt_irrefl _ before
        rw [List.idxOf_cons_self, List.idxOf_cons_ne _ apart]
        exact Nat.succ_pos _
      · by_cases there : first = later
        · subst there
          rw [List.idxOf_cons_self] at before
          contradiction
        · rw [List.idxOf_cons_ne _ here, List.idxOf_cons_ne _ there] at before ⊢
          exact Nat.succ_lt_succ (idxOf_lt_of_filter kept other (Nat.lt_of_succ_lt_succ before))
    · rw [List.filter_cons_of_neg left] at before
      have here : first ≠ item := fun same => left (same ▸ kept)
      have there : first ≠ later := fun same => left (same ▸ other)
      rw [List.idxOf_cons_ne _ here, List.idxOf_cons_ne _ there]
      exact Nat.succ_lt_succ (idxOf_lt_of_filter kept other before)

theorem pairwise_eraseDups (items : List α) :
    items.eraseDups.Pairwise fun item later => items.idxOf item < items.idxOf later := by
  match items with
  | [] => exact List.Pairwise.nil
  | first :: rest =>
    have shorter := List.length_filter_le (fun other => !other == first) rest
    have apart {item : α} (inside : item ∈ (rest.filter fun other => !other == first).eraseDups) :
        first ≠ item := by
      rw [List.mem_eraseDups, List.mem_filter] at inside
      rintro rfl
      simp at inside
    rw [List.eraseDups_cons, List.pairwise_cons]
    constructor
    · intro later inside
      rw [List.idxOf_cons_self, List.idxOf_cons_ne _ (apart inside)]
      exact Nat.succ_pos _
    · refine (pairwise_eraseDups (rest.filter fun other => !other == first)).imp_of_mem ?_
      intro item later inside after before
      rw [List.idxOf_cons_ne _ (apart inside), List.idxOf_cons_ne _ (apart after)]
      refine Nat.succ_lt_succ (idxOf_lt_of_filter ?_ ?_ before)
      · simpa using (apart inside).symm
      · simpa using (apart after).symm
termination_by items.length
decreasing_by simp only [List.length_cons]; omega

theorem nodup_eraseDups (items : List α) : items.eraseDups.Nodup := by
  refine (pairwise_eraseDups items).imp fun before same => ?_
  rw [same] at before
  exact Nat.lt_irrefl _ before

theorem eraseDups_eq_self {items : List α} (distinct : items.Nodup) : items.eraseDups = items := by
  induction items with
  | nil => rfl
  | cons item rest ih =>
    rw [List.nodup_cons] at distinct
    have kept : (rest.filter fun other => !other == item) = rest := by
      rw [List.filter_eq_self]
      intro other inside
      simpa using fun same : other = item => distinct.1 (same ▸ inside)
    rw [List.eraseDups_cons, kept, ih distinct.2]

/-- Nothing of a list is lost if what is shown already is left out and the rest is shown once,
exactly if it has nothing that is shown already and nothing twice. -/
theorem eraseDups_filter_eq_self_iff {items shown : List α} :
    (items.filter fun item => item ∉ shown).eraseDups = items ↔
      items.Nodup ∧ ∀ item ∈ items, item ∉ shown := by
  constructor
  · intro whole
    refine ⟨whole ▸ nodup_eraseDups _, fun item inside => ?_⟩
    rw [← whole, List.mem_eraseDups, List.mem_filter] at inside
    exact of_decide_eq_true inside.2
  · rintro ⟨distinct, unseen⟩
    have kept : (items.filter fun item => item ∉ shown) = items :=
      List.filter_eq_self.mpr fun item inside => decide_eq_true (unseen item inside)
    rw [kept, eraseDups_eq_self distinct]

end FirstOccurrences

theorem showOnce_eq (shown lines : List String) :
    showOnce shown lines = shown ++ (lines.filter fun line => line ∉ shown).eraseDups := by
  induction lines generalizing shown with
  | nil => exact (List.append_nil _).symm
  | cons line lines ih =>
    change showOnce (if shown.contains line then shown else shown ++ [line]) lines = _
    rw [ih]
    by_cases known : line ∈ shown
    · simp [known]
    · have rest : (lines.filter fun other => other ∉ shown ++ [line]) =
          (lines.filter fun other => other ∉ shown).filter fun other => !other == line := by
        rw [List.filter_filter]
        refine List.filter_congr fun other _ => ?_
        by_cases equal : other = line <;> simp [equal]
      simp only [List.contains_eq_mem, known, decide_false, Bool.false_eq_true, if_false, rest]
      simp [known, List.eraseDups_cons]

def showsEdit (text : String) : Bool := Text.startsWith text "+" || Text.startsWith text "-"

theorem showsEdit_raw (line : Line) : showsEdit line.raw = line.isEdit := by
  obtain ⟨kind, content⟩ := line
  cases kind <;> simp [showsEdit, Text.startsWith, Line.raw, Line.isEdit, Diff.LineKind.marker,
    List.isPrefixOf]

theorem showsEdit_header (hunk : Hunk) : showsEdit hunk.header = false := by
  unfold showsEdit Text.startsWith Hunk.header
  simp only [String.toList_append]
  rfl

theorem filter_rawLines (hunk : Hunk) :
    hunk.rawLines.filter showsEdit = hunk.edits.map Line.raw := by
  rw [Hunk.rawLines, Hunk.edits, List.filter_map]
  congr 1
  exact List.filter_congr fun line _ => showsEdit_raw line

def linesAbove (above : Nat) (file : List String) (hunk : Hunk) : List String :=
  (file.take (hunk.old.start - 1)).drop (hunk.old.start - 1 - above)

def linesBelow (below : Nat) (file : List String) (hunk : Hunk) : List String :=
  (file.drop (hunk.old.start - 1 + hunk.old.count)).take below

def bodyOf (lead : List String) (hunk : Hunk) : List String :=
  (hunk.rawLines.filter fun line => line ∉ lead ++ [hunk.header]).eraseDups

variable {file : List String} {hunk : Hunk}

theorem expandLines_eq_ok (above below : Nat) (inside : fits file hunk = true) :
    expandLines ⟨.whole above, .whole below⟩ file hunk =
      .ok (linesAbove above file hunk ++ [hunk.header] ++
        bodyOf (linesAbove above file hunk) hunk ++
        linesBelow below file hunk) := by
  rw [expandLines]
  simp only [inside, if_true]
  rw [bodyOf, ← showOnce_eq]
  rfl

theorem expand_eq (above below : Nat) {text : String}
    (inside : fits (Text.fileLines text) hunk = true) :
    expand ⟨.whole above, .whole below⟩ text hunk =
      if hunk.isWritable then
        (expandLines ⟨.whole above, .whole below⟩ (Text.fileLines text) hunk).map Text.unlines
      else .error .unwritable := by
  rw [expand, namedLines]
  cases hunk.isWritable with
  | true => rfl
  | false =>
    simp only [inside, Bool.not_false, if_true]
    rfl

theorem filter_bodyOf (lead : List String) (hunk : Hunk) :
    (bodyOf lead hunk).filter showsEdit =
      ((hunk.edits.map Line.raw).filter fun line => line ∉ lead).eraseDups := by
  rw [bodyOf, filter_eraseDups, List.filter_comm, filter_rawLines]
  congr 1
  refine List.filter_congr fun text inside => ?_
  -- a header is no edit, so that only the lines above the hunk can show one already
  have other : text ≠ hunk.header := by
    obtain ⟨line, edit, rfl⟩ := List.mem_map.mp inside
    intro same
    have shows := showsEdit_raw line
    rw [same, showsEdit_header, (List.mem_filter.mp edit).2] at shows
    contradiction
  simp [other]

/-- A hunk of a file is shown between the lines above and below it. Its edits stand there in their
order, but for those that the lines above show already and for all but the first of those that are
alike; so all of them do exactly if they differ from each other and from the lines above. Only a
number that cannot be written keeps the hunk from being told. -/
theorem expand_shows_edits (above below : Nat) {text : String}
    (inside : fits (Text.fileLines text) hunk = true) :
    ∃ lead body tail,
      expandLines ⟨.whole above, .whole below⟩ (Text.fileLines text) hunk =
        .ok (lead ++ [hunk.header] ++ body ++ tail) ∧
      expand ⟨.whole above, .whole below⟩ text hunk =
        (if hunk.isWritable then .ok (Text.unlines (lead ++ [hunk.header] ++ body ++ tail))
        else .error .unwritable) ∧
      lead = linesAbove above (Text.fileLines text) hunk ∧
        tail = linesBelow below (Text.fileLines text) hunk ∧
      body.filter showsEdit = ((hunk.edits.map Line.raw).filter fun line => line ∉ lead).eraseDups ∧
      (body.filter showsEdit = hunk.edits.map Line.raw ↔
        (hunk.edits.map Line.raw).Nodup ∧ ∀ line ∈ hunk.edits, line.raw ∉ lead) := by
  have shown := expandLines_eq_ok above below inside
  have edits := filter_bodyOf (linesAbove above (Text.fileLines text) hunk) hunk
  refine ⟨_, _, _, shown, ?_, rfl, rfl, edits, ?_⟩
  · rw [expand_eq above below inside, shown]
    rfl
  · rw [edits, eraseDups_filter_eq_self_iff, List.forall_mem_map]

theorem expand_shows_edits_distinct :
    let lines : List Line := [⟨.removed, "b"⟩, ⟨.added, "y"⟩, ⟨.added, "z"⟩]
    let hunk : Hunk := ⟨⟨2, 1⟩, ⟨2, 2⟩, lines, ["\n", "\n", "\n"]⟩
    fits (Text.fileLines "b\nb") hunk = true ∧ (hunk.edits.map Line.raw).Nodup ∧
      ∃ body, expandLines ⟨.whole 5, .whole 0⟩ (Text.fileLines "b\nb") hunk =
        .ok (["b"] ++ [hunk.header] ++ body) ∧ body.filter showsEdit = ["-b", "+y", "+z"] := by
  -- Two changes behind one like the first of them are both shown.
  intro lines hunk
  have inside : fits (Text.fileLines "b\nb") hunk = true := by decide
  have distinct : (hunk.edits.map Line.raw).Nodup := by decide
  obtain ⟨lead, body, tail, shown, -, rfl, rfl, -, all⟩ := expand_shows_edits 5 0 inside
  refine ⟨inside, distinct, body, ?_, all.mpr ⟨distinct, by decide⟩⟩
  have above : linesAbove 5 (Text.fileLines "b\nb") hunk = ["b"] := by decide
  have below : linesBelow 0 (Text.fileLines "b\nb") hunk = [] := by decide
  rw [shown, above, below, List.append_nil]

theorem expand_drops_edits :
    let lines : List Line := [⟨.removed, "b"⟩, ⟨.added, "y"⟩, ⟨.added, "y"⟩]
    let hunk : Hunk := ⟨⟨2, 1⟩, ⟨2, 2⟩, lines, ["\n", "\n", "\n"]⟩
    fits (Text.fileLines "-b\nb") hunk = true ∧
      expandLines ⟨.whole 5, .whole 5⟩ (Text.fileLines "-b\nb") hunk =
        .ok (["-b"] ++ [hunk.header] ++ ["+y"]) ∧
      ["+y"].filter showsEdit ≠ hunk.edits.map Line.raw := by
  -- Of a removal that the line above shows and of an addition made twice only one line is shown.
  decide +kernel

end ReviewContext.Margin
