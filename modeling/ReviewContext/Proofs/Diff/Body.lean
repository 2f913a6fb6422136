import ReviewContext.Proofs.Diff.Rendering

/-! Bodies of hunks: they are read back up to the first two lines that read as the names of a file
section. -/
namespace ReviewContext.Diff

/-- A removed line and an added one that read as the name lines of a file section. -/
def Line.looksNamed (removed added : Line) : Bool :=
  removed.kind == .removed && Text.startsWith removed.content "-- "
    && added.kind == .added && Text.startsWith added.content "++ "

/-- Two lines in a row look like name lines. -/
def Ambiguous (body : Body) : Prop :=
  ∃ removed added, [removed, added] <:+: body ∧ removed.1.looksNamed added.1 = true

def untilNames : Body → Body
  | [] => []
  | entry :: rest =>
    if rest.head?.any fun next => entry.1.looksNamed next.1 then [] else entry :: untilNames rest

theorem length_untilNames_lt {body : Body} (cut : untilNames body ≠ body) :
    (untilNames body).length < body.length := by
  induction body with
  | nil => contradiction
  | cons entry rest ih =>
    rw [untilNames] at cut ⊢
    split
    next => exact Nat.zero_lt_succ _
    next plain =>
      rw [if_neg plain] at cut
      exact Nat.succ_lt_succ (ih fun same => cut (congrArg (entry :: ·) same))

theorem untilNames_eq_self_iff {body : Body} : untilNames body = body ↔ ¬ Ambiguous body := by
  induction body with
  | nil => simp [untilNames, Ambiguous]
  | cons entry rest ih =>
    have step : Ambiguous (entry :: rest) ↔
        (rest.head?.any fun next => entry.1.looksNamed next.1) = true ∨ Ambiguous rest := by
      simp only [Ambiguous, List.infix_cons_iff]
      constructor
      · rintro ⟨removed, added, first | later, names⟩
        · obtain ⟨rfl, tail⟩ := List.cons_prefix_cons.mp first
          obtain ⟨more, rfl⟩ := tail
          exact .inl names
        · exact .inr ⟨removed, added, later, names⟩
      · rintro (names | ⟨removed, added, later, names⟩)
        · cases rest with
          | nil => contradiction
          | cons next more => exact ⟨entry, next, .inl ⟨more, rfl⟩, names⟩
        · exact ⟨removed, added, .inr later, names⟩
    rw [step, untilNames]
    split
    next names => simp [names]
    next plain => simp [plain, ih]

theorem startsWith_cons {text : String} {c : Char} {cs : List Char} (ht : text.toList = c :: cs)
    (lead : String) (d : Char) (ds : List Char) (hl : lead.toList = d :: ds) :
    Text.startsWith text lead = (d == c && ds.isPrefixOf cs) := by
  rw [Text.startsWith, ht, hl, List.isPrefixOf]

@[simp] theorem toList_raw (line : Line) :
    line.raw.toList = line.kind.marker :: line.content.toList :=
  String.toList_ofList

theorem isSome_namePair?_cons (row next : Row) (more : List Row) :
    (row.namePair? (next :: more)).isSome =
      (Text.startsWith row.text "--- " && Text.startsWith next.text "+++ ") := by
  simp only [Row.namePair?]
  cases Text.startsWith row.text "--- " && Text.startsWith next.text "+++ " <;> rfl

theorem namePair?_raw (line next : Line) (number other : Nat) (delimiter ending : String)
    (more : List Row) :
    ((⟨number, line.raw, delimiter⟩ : Row).namePair? (⟨other, next.raw, ending⟩ :: more)).isSome =
      line.looksNamed next := by
  rw [isSome_namePair?_cons, startsWith_cons (toList_raw line) "--- " '-' ['-', '-', ' '] rfl,
    startsWith_cons (toList_raw next) "+++ " '+' ['+', '+', ' '] rfl, Line.looksNamed,
    Text.startsWith, Text.startsWith]
  cases line.kind <;> cases next.kind <;> simp [LineKind.marker]

def Opens : List Row → Prop
  | [] => True
  | row :: rest =>
    row.isRemark = false ∧ row.opensSection rest = true ∧ Text.startsWith row.text "+++ " = false

theorem isRemark_raw (line : Line) (number : Nat) (delimiter : String) :
    (⟨number, line.raw, delimiter⟩ : Row).isRemark = false := by
  rw [Row.isRemark, startsWith_cons (toList_raw line) "\\" '\\' [] rfl]
  cases line.kind <;> rfl

theorem opensHunk_raw (line : Line) (number : Nat) (delimiter : String) :
    (⟨number, line.raw, delimiter⟩ : Row).opensHunk = false := by
  rw [Row.opensHunk, startsWith_cons (toList_raw line) "@@" '@' ['@'] rfl]
  cases line.kind <;> rfl

theorem opensFile_raw (line : Line) (number : Nat) (delimiter : String) :
    (⟨number, line.raw, delimiter⟩ : Row).opensFile = false := by
  rw [Row.opensFile, startsWith_cons (toList_raw line) "diff --git " 'd' "iff --git ".toList rfl,
    startsWith_cons (toList_raw line) "Index: " 'I' "ndex: ".toList rfl]
  cases line.kind <;> rfl

namespace Counts

def Room (seen declared : Counts) (lines : List Line) : Prop :=
  seen.old + (ofLines lines).old ≤ declared.old ∧ seen.new + (ofLines lines).new ≤ declared.new

theorem room_cons {seen declared : Counts} {line : Line} {lines : List Line} :
    seen.Room declared (line :: lines) ↔ (seen.add line).Room declared lines := by
  simp only [Room, ofLines, add, List.countP_cons]
  cases line.inOld <;> cases line.inNew <;> simp <;> omega

theorem reach_of_room {seen declared : Counts} {line : Line} {lines : List Line}
    (room : seen.Room declared (line :: lines)) : seen.reach declared = false := by
  simp only [Room, ofLines, List.countP_cons] at room
  simp only [reach, Bool.and_eq_false_iff, decide_eq_false_iff_not]
  cases h : line.kind <;> simp [Line.inOld, Line.inNew, h] at room <;> omega

theorem exceed_of_room {seen declared : Counts} {lines : List Line}
    (room : seen.Room declared lines) :
    seen.exceed declared = false := by
  simp only [Room] at room
  simp only [exceed, Bool.or_eq_false_iff, decide_eq_false_iff_not]
  omega

end Counts

theorem opensSection_raw (line : Line) (number following : Nat) (delimiter : String) (body : Body)
    {rest : List Row} (opens : Opens rest) :
    (⟨number, line.raw, delimiter⟩ : Row).opensSection
        (WrittenLine.numbered following (body.map WrittenHunk.bodyLine) ++ rest) =
      body.head?.any fun next => line.looksNamed next.1 := by
  rw [Row.opensSection, opensHunk_raw, opensFile_raw, Bool.false_or, Bool.false_or]
  cases body with
  | cons next body => exact namePair?_raw ..
  | nil =>
    cases rest with
    | nil => rfl
    | cons row rest =>
      change (Row.namePair? _ (row :: rest)).isSome = false
      rw [isSome_namePair?_cons, opens.2.2, Bool.and_false]

theorem takeBody_numbered {declared seen : Counts} {body : Body} {rest : List Row} (number : Nat)
    (room : seen.Room declared (body.map Prod.fst)) (opens : Opens rest) :
    ∃ left,
      takeBody declared seen (WrittenLine.numbered number (body.map WrittenHunk.bodyLine) ++ rest) =
      .ok (untilNames body, left) ∧ (untilNames body = body → left = rest) := by
  -- Each line leaves room for those behind it, so that the counts are not reached before the body
  -- ends.
  induction body generalizing seen number with
  | nil =>
    cases rest with
    | nil => exact ⟨[], rfl, fun _ => rfl⟩
    | cons row rest =>
      refine ⟨row :: rest, ?_, fun _ => rfl⟩
      obtain ⟨remark, opened, -⟩ := opens
      simp [WrittenLine.numbered, takeBody, remark, opened, untilNames]
  | cons entry body ih =>
    obtain ⟨line, delimiter⟩ := entry
    rw [List.map_cons] at room
    have next := Counts.room_cons.mp room
    rw [List.map_cons, WrittenLine.numbered, List.cons_append, WrittenHunk.bodyLine, takeBody,
      isRemark_raw, Counts.reach_of_room room, opensSection_raw _ _ _ _ _ opens, untilNames]
    cases names : body.head?.any fun next => line.looksNamed next.1 with
    | true => exact ⟨_, rfl, fun h => absurd h (by simp)⟩
    | false =>
      obtain ⟨left, taken, whole⟩ := ih (number + 1) next
      refine ⟨left, ?_, fun h => whole (List.cons.inj h).2⟩
      simp [Counts.exceed_of_room next, taken, Except.map]

end ReviewContext.Diff
