import ReviewContext.Proofs.Diff.RenderedItems

/-! Rows of hunks: a body takes the rows behind its header up to the first place where both counts
are reached, a section opens or the text ends. A row among them that is no line or one line too many
is refused. -/
namespace ReviewContext.Diff

def Row.line? (row : Row) : Option Line := Line.ofRaw? row.text

def Unbroken (rows rest : List Row) : Prop :=
  ∀ before row after, rows = before ++ row :: after → row.opensSection (after ++ rest) = false

section

variable {row : Row} {rows rest before after : List Row}

theorem unbroken_nil (rest : List Row) : Unbroken [] rest := by simp [Unbroken]

theorem unbroken_cons :
    Unbroken (row :: rows) rest ↔ row.opensSection (rows ++ rest) = false ∧ Unbroken rows rest := by
  constructor
  · intro unbroken
    exact ⟨unbroken [] row rows rfl, fun before other after split =>
      unbroken (row :: before) other after (congrArg (row :: ·) split)⟩
  · rintro ⟨own, others⟩ before other after split
    cases before with
    | nil =>
      obtain ⟨rfl, rfl⟩ := List.cons.inj split
      exact own
    | cons head before => exact others before other after (List.cons.inj split).2

theorem unbroken_append {first second : List Row} :
    Unbroken (first ++ second) rest ↔ Unbroken first (second ++ rest) ∧ Unbroken second rest := by
  induction first with
  | nil => simp [unbroken_nil]
  | cons row first ih =>
    rw [List.cons_append, unbroken_cons, unbroken_cons, ih, List.append_assoc, and_assoc]

theorem Unbroken.opensHunk (unbroken : Unbroken rows rest) :
    ∀ row ∈ rows, row.opensHunk = false := by
  intro row among
  obtain ⟨before, after, split⟩ := List.append_of_mem among
  have plain := unbroken before row after split
  rw [Row.opensSection, Bool.or_eq_false_iff, Bool.or_eq_false_iff] at plain
  exact plain.1.1

end

namespace Counts

variable {seen declared : Counts} {row : Row} {line : Line}

def after (seen : Counts) (rows : List Row) : Counts := (rows.filterMap Row.line?).foldl add seen

theorem after_append (seen : Counts) (first second : List Row) :
    seen.after (first ++ second) = (seen.after first).after second := by
  simp [after]

theorem after_cons (seen : Counts) (row : Row) (rows : List Row) :
    seen.after (row :: rows) = (seen.after [row]).after rows := after_append seen [row] rows

theorem after_of_line (seen : Counts) (read : row.line? = some line) :
    seen.after [row] = seen.add line := by
  simp [after, read]

theorem after_of_none (seen : Counts) (unread : row.line? = none) : seen.after [row] = seen := by
  simp [after, unread]

theorem foldl_add (seen : Counts) (lines : List Line) :
    lines.foldl add seen = ⟨seen.old + (ofLines lines).old, seen.new + (ofLines lines).new⟩ := by
  induction lines generalizing seen with
  | nil => rfl
  | cons line lines ih =>
    rw [List.foldl_cons, ih]
    simp only [add, ofLines, List.countP_cons, mk.injEq]
    cases line.inOld <;> cases line.inNew <;> simp <;> omega

theorem after_zero (rows : List Row) :
    (⟨0, 0⟩ : Counts).after rows = ofLines (rows.filterMap Row.line?) := by
  simp [after, foldl_add]

theorem reach_after (reach : seen.reach declared = true) (rows : List Row) :
    (seen.after rows).reach declared = true := by
  simp only [after, foldl_add, Counts.reach, Bool.and_eq_true, decide_eq_true_eq] at reach ⊢
  omega

theorem exceed_after (exceed : seen.exceed declared = true) (rows : List Row) :
    (seen.after rows).exceed declared = true := by
  simp only [after, foldl_add, Counts.exceed, Bool.or_eq_true, decide_eq_true_eq] at exceed ⊢
  omega

end Counts

/-- A row stands in a body: no section opens from the first row of the body up to it, and the rows
before it have not reached the counts. -/
structure Inside (declared seen : Counts) (before : List Row) (row : Row)
    (after : List Row) : Prop where
  unbroken : Unbroken (before ++ [row]) after
  wanting : (seen.after before).reach declared = false

def Ends (declared seen : Counts) (taken left : List Row) : Prop :=
  (seen.after taken).reach declared = true ∨ left = [] ∨
    ∃ row rest, left = row :: rest ∧ row.opensSection rest = true

def Body.ofRows (rows : List Row) : Body :=
  rows.filterMap fun row => row.line?.map fun line => (line, row.delimiter)

/-- Each of some rows is a remark or a line, and no line is one too many. -/
structure Kept (declared seen : Counts) (rows : List Row) : Prop where
  read : ∀ row ∈ rows, row.isRemark = true ∨ row.line?.isSome = true
  fits : (seen.after rows).exceed declared = false

structure Taken (declared seen : Counts) (taken left : List Row) : Prop where
  inside : ∀ before row after, taken = before ++ row :: after →
    Inside declared seen before row (after ++ left)
  ends : Ends declared seen taken left
  kept : Kept declared seen taken

inductive Spoils (declared seen : Counts) (before : List Row) (row : Row) : Malformed → Prop
  | unknown (c : Char) (cs : List Char) (text : row.text.toList = c :: cs)
    (strange : c ∉ [' ', '+', '-', '\\']) :
    Spoils declared seen before row (.unknownLine row.text row.number)
  | overrun (line : Line) (read : row.line? = some line)
    (exceed : (seen.after (before ++ [row])).exceed declared = true) :
    Spoils declared seen before row (.overrun declared (seen.after (before ++ [row])) row.number)

/-- What comes of some rows as a body: it is taken up to its end, and remarks behind it are skipped,
or the first row of it that is wrong is refused. -/
inductive BodyOutcome (declared seen : Counts) :
    List Row → Except Malformed (Body × List Row) → Prop
  | taken (taken skipped left : List Row) (remarks : ∀ row ∈ skipped, row.isRemark = true)
    (body : Taken declared seen taken (skipped ++ left)) :
    BodyOutcome declared seen (taken ++ (skipped ++ left)) (.ok (Body.ofRows taken, left))
  | refused (before : List Row) (row : Row) (after : List Row) (fault : Malformed)
    (inside : Inside declared seen before row after) (kept : Kept declared seen before)
    (spoils : Spoils declared seen before row fault) :
    BodyOutcome declared seen (before ++ row :: after) (.error fault)

section

variable {declared seen : Counts} {first row : Row} {before after rows taken left : List Row}
    {fault : Malformed}

theorem line?_of_isRemark (remark : row.isRemark = true) : row.line? = none := by
  obtain ⟨cs, text⟩ := WrittenItem.toList_of_startsWith remark
  rw [Row.line?, Line.ofRaw?, text]
  rfl

theorem exists_strange (remark : row.isRemark = false) (unread : row.line? = none) :
    ∃ c cs, row.text.toList = c :: cs ∧ c ∉ [' ', '+', '-', '\\'] := by
  rw [Row.line?, Line.ofRaw?] at unread
  split at unread
  next => contradiction
  next c cs text =>
    refine ⟨c, cs, text, ?_⟩
    rw [Option.map_eq_none_iff] at unread
    simp only [List.mem_cons, List.not_mem_nil, or_false]
    rintro (rfl | rfl | rfl | rfl)
    · contradiction
    · contradiction
    · contradiction
    · rw [Row.isRemark, startsWith_cons text "\\" '\\' [] rfl] at remark
      contradiction

theorem opensSection_of_isRemark (remark : row.isRemark = true) (rest : List Row) :
    row.opensSection rest = false := by
  obtain ⟨cs, text⟩ := WrittenItem.toList_of_startsWith remark
  have names :=
    WrittenItem.namePair?_eq_none row (startsWith_cons text "--- " '-' "-- ".toList rfl) rest
  rw [Row.opensSection, Row.opensHunk, Row.opensFile, names,
    startsWith_cons text "@@" '@' ['@'] rfl,
    startsWith_cons text "diff --git " 'd' "iff --git ".toList rfl,
    startsWith_cons text "Index: " 'I' "ndex: ".toList rfl]
  rfl

namespace Inside

theorem wanting_start (inside : Inside declared seen before row after) :
    seen.reach declared = false :=
  Bool.eq_false_iff.mpr fun reach =>
    Bool.eq_false_iff.mp inside.wanting (Counts.reach_after reach before)

theorem nil_iff : Inside declared seen [] row after ↔
    row.opensSection after = false ∧ seen.reach declared = false := by
  constructor
  · rintro ⟨unbroken, wanting⟩
    exact ⟨unbroken [] row [] rfl, wanting⟩
  · rintro ⟨own, wanting⟩
    exact ⟨unbroken_cons.mpr ⟨own, unbroken_nil _⟩, wanting⟩

theorem cons_iff : Inside declared seen (first :: before) row after ↔
    first.opensSection (before ++ row :: after) = false ∧
      Inside declared (seen.after [first]) before row after := by
  constructor
  · rintro ⟨unbroken, wanting⟩
    rw [List.cons_append, unbroken_cons, List.append_assoc] at unbroken
    rw [Counts.after_cons] at wanting
    exact ⟨unbroken.1, unbroken.2, wanting⟩
  · rintro ⟨own, unbroken, wanting⟩
    refine ⟨?_, ?_⟩
    · rw [List.cons_append, unbroken_cons, List.append_assoc]
      exact ⟨own, unbroken⟩
    · rw [Counts.after_cons]
      exact wanting

end Inside

theorem Ends.reach_of_unbroken {between : List Row}
    (ends : Ends declared seen taken (between ++ row :: after))
    (unbroken : Unbroken (taken ++ (between ++ [row])) after) :
    (seen.after taken).reach declared = true := by
  rcases ends with reach | none | ⟨first, rest, place, opens⟩
  · exact reach
  · simp at none
  · -- the row that opens the section is the one given or stands before it
    rw [unbroken_append] at unbroken
    cases between with
    | nil =>
      obtain ⟨rfl, rfl⟩ := List.cons.inj place
      have own := unbroken.2 [] row [] rfl
      exact absurd opens (Bool.eq_false_iff.mp own)
    | cons head between =>
      obtain ⟨rfl, rfl⟩ := List.cons.inj place
      have own := unbroken.2 [] head (between ++ [row]) rfl
      rw [List.append_assoc, List.singleton_append] at own
      exact absurd opens (Bool.eq_false_iff.mp own)

theorem Ends.not_inside {between : List Row}
    (ends : Ends declared seen taken (between ++ row :: after)) :
    ¬ Inside declared seen (taken ++ between) row after := by
  rintro ⟨unbroken, wanting⟩
  rw [List.append_assoc] at unbroken
  rw [Counts.after_append, Counts.reach_after (ends.reach_of_unbroken unbroken)] at wanting
  contradiction

theorem Kept.cons (kept : Kept declared (seen.after [row]) rows)
    (read : row.isRemark = true ∨ row.line?.isSome = true) : Kept declared seen (row :: rows) where
  read := List.forall_mem_cons.mpr ⟨read, kept.read⟩
  fits := by
    rw [Counts.after_cons]
    exact kept.fits

namespace Taken

theorem nil (ends : Ends declared seen [] left) (fits : seen.exceed declared = false) :
    Taken declared seen [] left where
  inside := fun before row after split => absurd split (by simp)
  ends := ends
  kept := ⟨nofun, fits⟩

theorem unbroken (body : Taken declared seen taken left) : Unbroken taken left :=
  fun before row after split =>
  (body.inside before row after split).unbroken before row [] rfl

theorem eq_nil_of_reach (body : Taken declared seen taken left)
    (reach : seen.reach declared = true) :
    taken = [] := by
  cases taken with
  | nil => rfl
  | cons row taken =>
    have wanting := (body.inside [] row taken rfl).wanting_start
    rw [reach] at wanting
    contradiction

theorem cons (body : Taken declared (seen.after [row]) taken left)
    (own : row.opensSection (taken ++ left) = false) (wanting : seen.reach declared = false)
    (read : row.isRemark = true ∨ row.line?.isSome = true) :
    Taken declared seen (row :: taken) left where
  inside := by
    intro before other after split
    cases before with
    | nil =>
      obtain ⟨rfl, rfl⟩ := List.cons.inj split
      exact Inside.nil_iff.mpr ⟨own, wanting⟩
    | cons head before =>
      obtain ⟨rfl, rfl⟩ := List.cons.inj split
      refine Inside.cons_iff.mpr ⟨?_, body.inside before other after rfl⟩
      simpa using own
  ends := by
    have ends := body.ends
    rw [Ends, ← Counts.after_cons] at ends
    exact ends
  kept := body.kept.cons read

end Taken

theorem Spoils.cons (spoils : Spoils declared (seen.after [first]) before row fault) :
    Spoils declared seen (first :: before) row fault := by
  cases spoils with
  | unknown c cs text strange => exact .unknown c cs text strange
  | overrun line read exceed =>
    rw [← Counts.after_cons, ← List.cons_append] at exceed ⊢
    exact .overrun line read exceed

theorem Spoils.row?_eq (spoils : Spoils declared seen before row fault) :
    fault.row? = some row.number := by
  cases spoils <;> rfl

theorem Body.ofRows_cons (row : Row) (rows : List Row) :
    Body.ofRows (row :: rows) = Body.ofRows [row] ++ Body.ofRows rows := by
  rw [Body.ofRows, Body.ofRows, Body.ofRows, ← List.filterMap_append, List.singleton_append]

theorem BodyOutcome.cons {result : Except Malformed (Body × List Row)}
    (outcome : BodyOutcome declared (seen.after [row]) rows result)
    (own : row.opensSection rows = false) (wanting : seen.reach declared = false)
    (read : row.isRemark = true ∨ row.line?.isSome = true) :
    BodyOutcome declared seen (row :: rows) (result.map fun r =>
      (Body.ofRows [row] ++ r.1, r.2)) := by
  cases outcome with
  | taken taken skipped left remarks body =>
    have whole := BodyOutcome.taken (row :: taken) skipped left remarks (body.cons own wanting read)
    rwa [Body.ofRows_cons] at whole
  | refused before bad after fault inside kept spoils =>
    exact .refused (row :: before) bad after fault (Inside.cons_iff.mpr ⟨own, inside⟩)
      (kept.cons read) spoils.cons

theorem BodyOutcome.skip {result : Except Malformed (Body × List Row)}
    (outcome : BodyOutcome declared seen rows result) (remark : row.isRemark = true)
    (fits : seen.exceed declared = false) (reach : seen.reach declared = true) :
    BodyOutcome declared seen (row :: rows) result := by
  cases outcome with
  | taken taken skipped left remarks body =>
    obtain rfl := body.eq_nil_of_reach reach
    exact .taken [] (row :: skipped) left (List.forall_mem_cons.mpr ⟨remark, remarks⟩)
      (.nil (.inl reach) fits)
  | refused before bad after fault inside kept spoils =>
    have wanting := inside.wanting_start
    rw [reach] at wanting
    contradiction

/-- The rows of a body are taken up to its end, or the first that is wrong is refused. -/
theorem bodyOutcome_takeBody (declared : Counts) {seen : Counts}
    (fits : seen.exceed declared = false) (rows : List Row) :
    BodyOutcome declared seen rows (takeBody declared seen rows) := by
  -- on the rows, for whatever has been seen: a line that is taken changes what the rows behind it
  -- may add
  induction rows generalizing seen with
  | nil => exact .taken [] [] [] nofun (.nil (.inr (.inl rfl)) fits)
  | cons row rows ih =>
    cases remark : row.isRemark with
    | true =>
      have unread := line?_of_isRemark remark
      have same := Counts.after_of_none seen unread
      rw [takeBody, if_pos remark]
      -- a remark belongs to the body only while a count is open
      cases reach : seen.reach declared with
      | true => exact (ih fits).skip remark fits reach
      | false =>
        have outcome := ih (same.symm ▸ fits)
        have whole := outcome.cons (opensSection_of_isRemark remark rows) reach (.inl remark)
        have nothing : Body.ofRows [row] = [] := by simp [Body.ofRows, unread]
        rw [nothing, same] at whole
        cases result : takeBody declared seen rows with
        | ok r => rwa [result] at whole
        | error fault => rwa [result] at whole
    | false =>
      cases stop : seen.reach declared || row.opensSection rows with
      | true =>
        have ends : Ends declared seen [] (row :: rows) := by
          rw [Bool.or_eq_true] at stop
          exact stop.imp_right fun opens => .inr ⟨row, rows, rfl, opens⟩
        rw [takeBody, remark, stop]
        exact .taken [] [] (row :: rows) nofun (.nil ends fits)
      | false =>
        rw [takeBody, remark, stop]
        rw [Bool.or_eq_false_iff] at stop
        obtain ⟨wanting, own⟩ := stop
        have inside : Inside declared seen [] row rows := Inside.nil_iff.mpr ⟨own, wanting⟩
        simp only [Bool.false_eq_true, if_false]
        split
        next unread =>
          obtain ⟨c, cs, text, strange⟩ := exists_strange remark unread
          exact .refused [] row rows _ inside ⟨nofun, fits⟩ (.unknown c cs text strange)
        next line found =>
          have read : row.line? = some line := found
          have same := Counts.after_of_line seen read
          rw [← same]
          split
          next exceed =>
            exact .refused [] row rows _ inside ⟨nofun, fits⟩ (.overrun line read exceed)
          next below =>
            have outcome := ih (Bool.eq_false_iff.mpr below)
            have whole := outcome.cons own wanting (.inr (by rw [read]; rfl))
            have single : Body.ofRows [row] = [(line, row.delimiter)] := by simp [Body.ofRows, read]
            rwa [single] at whole

end

end ReviewContext.Diff
