import ReviewContext.Proofs.Diff.Accounting

/-! Refusals: a diff is refused exactly when nothing in it opens a hunk or one of its rows is at
fault, and the first row at fault is the one reported. -/
namespace ReviewContext.Diff

open Header (WrittenExtent)

/-- What is wrong with a row, given the rows around it. -/
inductive Faulty (before : List Row) (row : Row) (after : List Row) : Malformed → Prop
  | header (opens : row.opensHunk = true) (unread : Header.extents? row.text = none) :
    Faulty before row after (.unknownHeader row.text row.number)
  | body (earlier : List Row) (header : Row) (between : List Row)
    (split : before = earlier ++ header :: between) (old new : WrittenExtent)
    (written : Header.extents? header.text = some (old, new))
    (inside : Inside (declaredCounts old new) ⟨0, 0⟩ between row after) (fault : Malformed)
    (spoils : Spoils (declaredCounts old new) ⟨0, 0⟩ between row fault) :
    Faulty before row after fault

def FaultAt (rows : List Row) (place : Nat) (fault : Malformed) : Prop :=
  ∃ before row after, rows = before ++ row :: after ∧ before.length = place ∧
    Faulty before row after fault

def FirstFault (rows : List Row) (place : Nat) (fault : Malformed) : Prop :=
  FaultAt rows place fault ∧ ∀ earlier < place, ∀ other, ¬ FaultAt rows earlier other

section

variable {lead rest rows before after between : List Row} {row header : Row}
    {old new : WrittenExtent}
  {fault : Malformed} {place : Nat}

theorem split_append (split : lead ++ rest = before ++ row :: after) :
    (∃ more, lead = before ++ row :: more ∧ after = more ++ rest) ∨
      ∃ more, before = lead ++ more ∧ rest = more ++ row :: after := by
  rcases List.append_eq_append_iff.mp split with ⟨more, front, back⟩ | ⟨more, front, back⟩
  · exact .inr ⟨more, front, back⟩
  · cases more with
    | nil => exact .inr ⟨[], by simpa using front.symm, by simpa using back.symm⟩
    | cons head more =>
      obtain ⟨rfl, rfl⟩ := List.cons.inj back
      exact .inl ⟨more, front, rfl⟩

theorem eq_header_of_split {other : Row} {earlier : List Row}
    {extents : WrittenExtent × WrittenExtent} (quiet : ∀ row ∈ rows, row.opensHunk = false)
    (split : header :: rows = earlier ++ other :: between)
    (written : Header.extents? other.text = some extents) : other = header ∧ between = rows := by
  cases earlier with
  | nil =>
    obtain ⟨rfl, rfl⟩ := List.cons.inj split
    exact ⟨rfl, rfl⟩
  | cons first earlier =>
    obtain ⟨-, rfl⟩ := List.cons.inj split
    have plain := quiet other (by simp)
    rw [opensHunk_of_extents? written] at plain
    contradiction

namespace Faulty

theorem row?_eq (faulty : Faulty before row after fault) : fault.row? = some row.number := by
  cases faulty with
  | header => rfl
  | body _ _ _ _ _ _ _ _ _ spoils => exact spoils.row?_eq

theorem opens (faulty : Faulty before row after fault) :
    ∃ opening ∈ before ++ [row], opening.opensHunk = true := by
  cases faulty with
  | header opens => exact ⟨row, by simp, opens⟩
  | body earlier header between split old new written =>
    exact ⟨header, by simp [split], opensHunk_of_extents? written⟩

theorem behind (faulty : Faulty before row after fault) (lead : List Row) :
    Faulty (lead ++ before) row after fault := by
  cases faulty with
  | header opens unread => exact .header opens unread
  | body earlier header between split old new written inside fault spoils =>
    refine .body (lead ++ earlier) header between ?_ old new written inside fault spoils
    rw [split, List.append_assoc]

end Faulty

theorem Kept.not_spoils {declared seen : Counts} (kept : Kept declared seen rows)
    (split : rows = before ++ row :: after) : ¬ Spoils declared seen before row fault := by
  intro spoils
  have fits := kept.fits
  rw [split, List.append_cons, Counts.after_append] at fits
  cases spoils with
  | unknown c cs text strange =>
    rcases kept.read row (by simp [split]) with remark | read
    · obtain ⟨ds, mark⟩ := WrittenItem.toList_of_startsWith remark
      obtain ⟨rfl, -⟩ := List.cons.inj (text.symm.trans mark)
      exact strange (by decide)
    · rw [Row.line?, Line.ofRaw?, text] at read
      simp only [List.mem_cons, List.not_mem_nil, or_false, not_or] at strange
      simp [LineKind.ofMarker?, strange] at read
  | overrun line read exceed =>
    rw [Counts.exceed_after exceed] at fits
    contradiction

theorem Kept.append_remarks {declared seen : Counts} {taken skipped : List Row}
    (kept : Kept declared seen taken) (remarks : ∀ row ∈ skipped, row.isRemark = true) :
    Kept declared seen (taken ++ skipped) where
  read := by
    intro row among
    rcases List.mem_append.mp among with first | second
    · exact kept.read row first
    · exact .inl (remarks row second)
  fits := by
    have nothing : skipped.filterMap Row.line? = [] :=
      List.filterMap_eq_nil_iff.mpr fun row among => line?_of_isRemark (remarks row among)
    have same : (seen.after taken).after skipped =
      seen.after taken := by rw [Counts.after, nothing, List.foldl_nil]
    rw [Counts.after_append, same]
    exact kept.fits

theorem not_faulty_of_kept (written : Header.extents? header.text = some (old, new))
    (quiet : ∀ row ∈ rows, row.opensHunk = false) (kept : Kept (declaredCounts old new) ⟨0, 0⟩ rows)
    (split : header :: rows = before ++ row :: after) (rest : List Row) :
    ¬ Faulty before row rest fault := by
  intro faulty
  cases before with
  | nil =>
    obtain ⟨rfl, rfl⟩ := List.cons.inj split
    cases faulty with
    | header opens unread => simp [written] at unread
    | body _ _ _ none => simp at none
  | cons head before =>
    obtain ⟨rfl, rfl⟩ := List.cons.inj split
    cases faulty with
    | header opens unread =>
      rw [quiet row (by simp)] at opens
      contradiction
    | body earlier other between place old' new' written' inside fault spoils =>
      have calm : ∀ row ∈ before, row.opensHunk = false := fun row among =>
        quiet row (List.mem_append_left _ among)
      obtain ⟨rfl, rfl⟩ := eq_header_of_split calm place written'
      obtain ⟨rfl, rfl⟩ := Prod.mk.inj (Option.some.inj (written.symm.trans written'))
      exact kept.not_spoils rfl spoils

/-- Some rows have been read: none of them is at fault, and no hunk that they open goes on behind
them. -/
structure Passed (lead rest : List Row) : Prop where
  sound : ∀ before row after, lead = before ++ row :: after →
    ∀ fault, ¬ Faulty before row (after ++ rest) fault
  closed : ∀ earlier header between, lead = earlier ++ header :: between →
    ∀ old new, Header.extents? header.text = some (old, new) →
      ∀ before row after, rest = before ++ row :: after →
      ¬ Inside (declaredCounts old new) ⟨0, 0⟩ (between ++ before) row after

namespace Passed

theorem of_quiet (quiet : ∀ row ∈ lead, row.opensHunk = false) (rest : List Row) :
    Passed lead rest where
  sound := by
    intro before row after split fault faulty
    obtain ⟨opening, among, opens⟩ := faulty.opens
    have inLead : opening ∈ lead := by
      rw [split, List.append_cons]
      exact List.mem_append_left _ among
    rw [quiet opening inLead] at opens
    contradiction
  closed := by
    intro earlier header between split old new written
    have plain := quiet header (by simp [split])
    rw [opensHunk_of_extents? written] at plain
    contradiction

theorem of_taken (written : Header.extents? header.text = some (old, new))
    {taken skipped left : List Row} (remarks : ∀ row ∈ skipped, row.isRemark = true)
    (body : Taken (declaredCounts old new) ⟨0, 0⟩ taken (skipped ++ left)) :
    Passed (header :: (taken ++ skipped)) left := by
  have quiet : ∀ row ∈ taken ++ skipped, row.opensHunk = false := by
    intro row among
    rcases List.mem_append.mp among with first | second
    · exact body.unbroken.opensHunk row first
    · exact opensHunk_of_isRemark (remarks row second)
  refine ⟨fun before row after split fault =>
    not_faulty_of_kept written quiet (body.kept.append_remarks remarks) split _, ?_⟩
  intro earlier other between split old' new' written' before row after behind inside
  obtain ⟨rfl, rfl⟩ := eq_header_of_split quiet split written'
  obtain ⟨rfl, rfl⟩ := Prod.mk.inj (Option.some.inj (written.symm.trans written'))
  have ends := body.ends
  rw [behind, ← List.append_assoc] at ends
  rw [List.append_assoc] at inside
  exact ends.not_inside inside

theorem faultAt_iff (passed : Passed lead rest) :
    FaultAt (lead ++ rest) place fault ↔ lead.length ≤ place ∧
      FaultAt rest (place - lead.length) fault := by
  constructor
  · rintro ⟨before, row, after, split, rfl, faulty⟩
    rcases split_append split with ⟨more, within, rfl⟩ | ⟨more, rfl, within⟩
    · exact absurd faulty (passed.sound before row more within fault)
    · refine ⟨by simp, more, row, after, within, by simp, ?_⟩
      cases faulty with
      | header opens unread => exact .header opens unread
      | body earlier header between split old new written inside fault spoils =>
        -- the header stands among the rows read, where its hunk is closed, or in the rest
        rcases split_append split with ⟨between, opened, rfl⟩ | ⟨skipped, -, opened⟩
        · exact absurd inside
            (passed.closed earlier header between opened old new written more row after within)
        · exact .body skipped header between opened old new written inside fault spoils
  · rintro ⟨late, before, row, after, rfl, place, faulty⟩
    refine ⟨lead ++ before, row, after, by rw [List.append_assoc], ?_, faulty.behind lead⟩
    rw [List.length_append, place]
    omega

theorem firstFault (passed : Passed lead rest) (first : FirstFault rest place fault) :
    FirstFault (lead ++ rest) (lead.length + place) fault := by
  constructor
  · rw [passed.faultAt_iff, Nat.add_sub_cancel_left]
    exact ⟨Nat.le_add_right .., first.1⟩
  · intro earlier sooner other faulty
    obtain ⟨late, within⟩ := passed.faultAt_iff.mp faulty
    exact first.2 _ (by omega) other within

end Passed

theorem firstFault_of_spoils (written : Header.extents? header.text = some (old, new))
    (inside : Inside (declaredCounts old new) ⟨0, 0⟩ before row after)
    (kept : Kept (declaredCounts old new) ⟨0, 0⟩ before)
    (spoils : Spoils (declaredCounts old new) ⟨0, 0⟩ before row fault) :
    FirstFault (header :: (before ++ row :: after)) (before.length + 1) fault := by
  refine ⟨⟨header :: before, row, after, rfl, rfl,
    .body [] header before rfl old new written inside fault spoils⟩, ?_⟩
  -- an earlier row is the header, which is read, or one that the hunk keeps
  rintro earlier sooner other ⟨front, bad, back, split, rfl, faulty⟩
  have quiet := (unbroken_append.mp inside.unbroken).1.opensHunk
  have parted : (header :: before) ++ row :: after = front ++ bad :: back := split
  rcases split_append parted with ⟨more, within, -⟩ | ⟨more, rfl, -⟩
  · exact not_faulty_of_kept written quiet kept within back faulty
  · simp only [List.length_append, List.length_cons] at sooner
    omega

end

/-- What a reading comes to: the rows are sound, or the first at fault is reported, or a number of a
header is too long. -/
inductive Verdict (rows : List Row) : Except ReadError (List Item) → Prop
  | sound (items : List Item)
    (faultless : ∀ place fault, ¬ FaultAt rows place fault) : Verdict rows (.ok items)
  | faulty (place : Nat) (fault : Malformed) (first : FirstFault rows place fault) :
    Verdict rows (.error (.malformed fault))
  | tooLong (header : Row) (among : header ∈ rows) (old new : WrittenExtent)
    (written : Header.extents? header.text = some (old, new)) (long : ¬ (old.Short ∧ new.Short))
    (excess : Text.TooLong) : Verdict rows (.error (.tooLong excess))

theorem Verdict.behind {lead rest : List Row} {result : Except ReadError (List Item)}
    (verdict : Verdict rest result) (passed : Passed lead rest) (items : List Item → List Item) :
    Verdict (lead ++ rest) (result.map items) := by
  cases verdict with
  | sound found faultless =>
    exact .sound _ fun place fault faulty => faultless _ fault (passed.faultAt_iff.mp faulty).2
  | faulty place fault first => exact .faulty _ fault (passed.firstFault first)
  | tooLong header among old new written long excess =>
    exact .tooLong header (List.mem_append_right _ among) old new written long excess

theorem Reading.verdict {rows : List Row} {result : Except ReadError (List Item)}
    (reading : Reading rows result) :
    Verdict rows result := by
  -- what a step uses up has passed, so that its verdict is the one on the rest
  induction reading with
  | done => exact .sound [] fun place fault ⟨before, row, after, split, _⟩ => by simp at split
  | pass lead rest items result quiet others next ih => exact ih.behind (.of_quiet quiet rest) _
  | hunk header old new written taken skipped left remarks body result next ih =>
    have verdict :=
      ih.behind (.of_taken written remarks body) (.hunk (hunkOfRows old new taken) :: ·)
    rwa [List.cons_append, List.append_assoc] at verdict
  | failed header opens rows error outcome =>
    cases outcome with
    | unknownHeader rows unread =>
      refine .faulty 0 _ ⟨⟨[], header, rows, rfl, rfl, .header opens unread⟩, ?_⟩
      intro earlier sooner
      exact absurd sooner (Nat.not_lt_zero _)
    | tooLong rows old new written long excess =>
      exact .tooLong header (List.mem_cons_self ..) old new written long excess
    | refused old new written before row after fault inside kept spoils =>
      exact .faulty _ fault (firstFault_of_spoils written inside kept spoils)

namespace FaultAt

variable {rows : List Row} {text : String} {place : Nat} {fault : Malformed}

theorem row?_eq (faulty : FaultAt (Row.ofText text) place fault) :
    fault.row? = some (place + 1) := by
  obtain ⟨before, row, after, split, rfl, faulty⟩ := faulty
  rw [faulty.row?_eq, Row.number_of_split split]

theorem exists_opensHunk (faulty : FaultAt rows place fault) :
    ∃ row ∈ rows, row.opensHunk = true := by
  obtain ⟨before, row, after, split, -, faulty⟩ := faulty
  obtain ⟨opening, among, opens⟩ := faulty.opens
  refine ⟨opening, ?_, opens⟩
  rw [split, List.append_cons]
  exact List.mem_append_left _ among

theorem not_of_quiet (quiet : ∀ row ∈ rows, row.opensHunk = false) :
    ¬ FaultAt rows place fault := by
  intro faulty
  obtain ⟨row, among, opens⟩ := faulty.exists_opensHunk
  rw [quiet row among] at opens
  contradiction

end FaultAt

theorem Reading.hunkless_iff {rows : List Row} {items : List Item}
    (reading : Reading rows (.ok items)) :
    items.filterMap Item.hunk? = [] ↔ ∀ row ∈ rows, row.opensHunk = false := by
  have paired := (reading.accounted rfl).length_eq
  have named := congrArg List.length (map_fst_openings rows)
  rw [List.length_map, paired] at named
  rw [← List.length_eq_zero_iff, named, List.length_eq_zero_iff, List.filter_eq_nil_iff]
  simp only [Bool.not_eq_true]

/-- A diff is read if its rows can be read as items and one of these is a hunk; a blank text has
none. -/
theorem parse_eq_ok_iff {text : String} {patches : List Patch} : parse text = .ok patches ↔
    ∃ items, Item.ofRows (Row.ofText text) = .ok items ∧ Patch.ofItems items = patches ∧
      allHunks patches ≠ [] := by
  rw [parse]
  cases blank : Text.isBlankText text with
  | true =>
    constructor
    · intro read
      contradiction
    · rintro ⟨items, found, rfl, hunks⟩
      have reading := reading_ofRows (Row.ofText text)
      rw [found] at reading
      rw [Patch.allHunks_ofItems] at hunks
      exact absurd (reading.hunkless_iff.mpr fun row => Row.opensHunk_of_isBlankText blank) hunks
  | false =>
    simp only [Bool.false_eq_true, if_false, Outcome.bind_eq_ok_iff]
    refine exists_congr fun items => and_congr_right fun found => ?_
    split
    next empty =>
      constructor
      · intro read
        contradiction
      · rintro ⟨rfl, hunks⟩
        exact absurd (List.isEmpty_iff.mp empty) hunks
    next filled =>
      constructor
      · intro same
        obtain rfl := Except.ok.inj same
        exact ⟨rfl, fun none => filled (List.isEmpty_iff.mpr none)⟩
      · rintro ⟨rfl, -⟩
        rfl

/-- What comes of a diff whose numbers can be read. -/
inductive ParseOutcome (rows : List Row) : Except ReadError (List Patch) → Prop
  | sound (patches : List Patch) (opens : ∃ row ∈ rows, row.opensHunk = true)
    (faultless : ∀ place fault, ¬ FaultAt rows place fault) : ParseOutcome rows (.ok patches)
  | hunkless (fault : Malformed) (unplaced : fault.row? = none)
    (quiet : ∀ row ∈ rows, row.opensHunk = false) :
    ParseOutcome rows (.error (.malformed fault))
  | faulty (place : Nat) (fault : Malformed) (first : FirstFault rows place fault) :
    ParseOutcome rows (.error (.malformed fault))

def ShortHeaders (rows : List Row) : Prop :=
  ∀ row ∈ rows, ∀ written ∈ Header.extents? row.text, written.1.Short ∧ written.2.Short

instance (rows : List Row) : Decidable (ShortHeaders rows) :=
  inferInstanceAs (Decidable (∀ row ∈ rows, ∀ written ∈ Header.extents? row.text, _))

theorem parseOutcome_parse {text : String} (short : ShortHeaders (Row.ofText text)) :
    ParseOutcome (Row.ofText text) (parse text) := by
  rw [parse]
  cases blank : Text.isBlankText text with
  | true => exact .hunkless .emptyText rfl fun row => Row.opensHunk_of_isBlankText blank
  | false =>
    have reading := reading_ofRows (Row.ofText text)
    have verdict := reading.verdict
    generalize Item.ofRows (Row.ofText text) = result at reading verdict
    cases verdict with
    | sound items faultless =>
      have hunks := Patch.allHunks_ofItems items
      have hunkless := reading.hunkless_iff
      rw [← hunks] at hunkless
      simp only [Bool.false_eq_true, if_false, bind, Except.bind]
      split
      next empty => exact .hunkless .noHunks rfl (hunkless.mp (List.isEmpty_iff.mp empty))
      next filled =>
        refine .sound _ ?_ faultless
        rw [List.isEmpty_iff, hunkless] at filled
        simpa using filled
    | faulty place fault first => exact .faulty place fault first
    | tooLong header among old new written long =>
      exact absurd (short header among (old, new) written) long

/-- A diff whose numbers can be read is refused as malformed exactly where nothing in it opens a
hunk or a row is at fault, and the fault reported is that of the first such row, or none with a
row. -/
theorem parse_refuses_first {text : String} (short : ShortHeaders (Row.ofText text)) :
    (∀ error, parse text = .error error → ∃ fault, error = .malformed fault) ∧
      ((∃ error, parse text = .error error) ↔
        (∀ row ∈ Row.ofText text, row.opensHunk = false) ∨
          ∃ place fault, FaultAt (Row.ofText text) place fault) ∧
      ∀ fault, parse text = .error (.malformed fault) →
        (∃ place, fault.row? = some (place + 1) ∧ FirstFault (Row.ofText text) place fault) ∨
          (fault.row? = none ∧ ∀ place other, ¬ FaultAt (Row.ofText text) place other) := by
  have outcome := parseOutcome_parse short
  generalize parse text = result at outcome
  cases outcome with
  | sound patches opens faultless =>
    obtain ⟨row, among, opens⟩ := opens
    refine ⟨nofun, ⟨nofun, ?_⟩, nofun⟩
    rintro (quiet | ⟨place, fault, faulty⟩)
    · rw [quiet row among] at opens
      contradiction
    · exact absurd faulty (faultless place fault)
  | hunkless fault unplaced quiet =>
    refine ⟨fun error same => ⟨fault, (Except.error.inj same).symm⟩,
      ⟨fun _ => .inl quiet, fun _ => ⟨_, rfl⟩⟩, ?_⟩
    rintro other same
    obtain rfl := ReadError.malformed.inj (Except.error.inj same)
    exact .inr ⟨unplaced, fun place other => FaultAt.not_of_quiet quiet⟩
  | faulty place fault first =>
    refine ⟨fun error same => ⟨fault, (Except.error.inj same).symm⟩,
      ⟨fun _ => .inr ⟨place, fault, first.1⟩, fun _ => ⟨_, rfl⟩⟩, ?_⟩
    rintro other same
    obtain rfl := ReadError.malformed.inj (Except.error.inj same)
    exact .inl ⟨place, first.1.row?_eq, first⟩

def surplusRemoval : String :=
  "@@ -1 +1 @@\r\n-a\r\n\\ No newline\r\n+b\r\n@@ -5,1 +5,1 @@\r\n-c\r\n-d\r\n+e\r\n"

theorem parse_refuses_first_surplusRemoval :
    ShortHeaders (Row.ofText surplusRemoval) ∧
      parse surplusRemoval = .error (.malformed (.overrun ⟨1, 1⟩ ⟨2, 0⟩ 7)) ∧
      FirstFault (Row.ofText surplusRemoval) 6 (.overrun ⟨1, 1⟩ ⟨2, 0⟩ 7) := by
  have short : ShortHeaders (Row.ofText surplusRemoval) := by decide +kernel
  have refused : parse surplusRemoval =
    .error (.malformed (.overrun ⟨1, 1⟩ ⟨2, 0⟩ 7)) := by decide +kernel
  refine ⟨short, refused, ?_⟩
  rcases (parse_refuses_first short).2.2 _ refused with ⟨place, number, first⟩ | ⟨unplaced, -⟩
  · obtain rfl : place = 6 := (Nat.succ.inj (Option.some.inj number)).symm
    exact first
  · contradiction

end ReviewContext.Diff
