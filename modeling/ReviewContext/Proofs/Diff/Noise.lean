import ReviewContext.Proofs.Diff.Refusal

/-! Noise: remarks behind the header or behind a line of a hunk, and the marker of a blank line in
it, make no difference to what is read from a diff. -/
namespace ReviewContext.Diff

/-- The texts of a blank line in a body: the marker of one may be stripped. -/
def blankTexts : List String := ["", " "]

structure Row.Alike (row other : Row) : Prop where
  text : other.text = row.text ∨ row.text ∈ blankTexts ∧ other.text ∈ blankTexts
  delimiter : other.delimiter = row.delimiter

/-- Rows like some others in order, with remarks behind them, but for such as a pair of name lines
has between them. -/
inductive Interspersed : List Row → List Row → Prop
  | nil : Interspersed [] []
  | cons {row other : Row} {remarks rest others : List Row} (alike : row.Alike other)
    (quiet : ∀ remark ∈ remarks, remark.isRemark = true)
    (apart : remarks = [] ∨ row.namePair? rest = none) (next : Interspersed rest others) :
    Interspersed (row :: rest) (other :: (remarks ++ others))

section Rows

variable {row other next following : Row} {rows rest others remarks : List Row}

theorem startsWith_blank {text : String} (blank : text ∈ blankTexts) {lead : String} {c : Char}
    {cs : List Char} (shape : lead.toList = c :: cs) (marked : (c == ' ') = false) :
    Text.startsWith text lead = false := by
  simp only [blankTexts, List.mem_cons, List.not_mem_nil, or_false] at blank
  rcases blank with rfl | rfl
  · rw [Text.startsWith, shape]
    rfl
  · rw [Text.startsWith, shape, show (" " : String).toList = [' '] from rfl, List.isPrefixOf,
      marked, Bool.false_and]

theorem ofRaw?_blank {text : String} (blank : text ∈ blankTexts) :
    Line.ofRaw? text = some ⟨.context, ""⟩ := by
  simp only [blankTexts, List.mem_cons, List.not_mem_nil, or_false] at blank
  rcases blank with rfl | rfl <;> rfl

namespace Row.Alike

theorem startsWith (alike : row.Alike other) (lead : String) {c : Char} {cs : List Char}
    (shape : lead.toList = c :: cs) (marked : (c == ' ') = false) :
    Text.startsWith other.text lead = Text.startsWith row.text lead := by
  rcases alike.text with same | ⟨blank, stripped⟩
  · rw [same]
  · rw [startsWith_blank blank shape marked, startsWith_blank stripped shape marked]

theorem text_eq (alike : row.Alike other) {lead : String} {c : Char} {cs : List Char}
    (shape : lead.toList = c :: cs) (marked : (c == ' ') = false)
    (starts : Text.startsWith row.text lead = true) :
    other.text = row.text := by
  rcases alike.text with same | ⟨blank, -⟩
  · exact same
  · rw [startsWith_blank blank shape marked] at starts
    contradiction

theorem isRemark (alike : row.Alike other) : other.isRemark = row.isRemark :=
  alike.startsWith "\\" rfl rfl

theorem opensHunk (alike : row.Alike other) : other.opensHunk = row.opensHunk :=
  alike.startsWith "@@" rfl rfl

theorem opensFile (alike : row.Alike other) : other.opensFile = row.opensFile := by
  rw [Row.opensFile, Row.opensFile, alike.startsWith "diff --git " rfl rfl,
    alike.startsWith "Index: " rfl rfl]

theorem line? (alike : row.Alike other) : other.line? = row.line? := by
  rcases alike.text with same | ⟨blank, stripped⟩
  · rw [Row.line?, Row.line?, same]
  · rw [Row.line?, Row.line?, ofRaw?_blank blank, ofRaw?_blank stripped]

theorem fileNames? (alike : row.Alike other) (opens : row.opensFile = true) :
    Header.fileNames? other.text = Header.fileNames? row.text := by
  rw [Row.opensFile, Bool.or_eq_true] at opens
  rcases opens with starts | starts
  · rw [alike.text_eq rfl rfl starts]
  · rw [alike.text_eq rfl rfl starts]

theorem namePair? (alike : row.Alike other) (behind : next.Alike following) :
    other.namePair? (following :: others) = row.namePair? (next :: rest) := by
  rw [Row.namePair?, Row.namePair?, alike.startsWith "--- " rfl rfl,
    behind.startsWith "+++ " rfl rfl]
  split
  next named =>
    rw [Bool.and_eq_true] at named
    rw [alike.text_eq rfl rfl named.1, behind.text_eq rfl rfl named.2]
  next => rfl

end Row.Alike

theorem namePair?_of_isRemark (remark : next.isRemark = true) (rest : List Row) :
    row.namePair? (next :: rest) = none := by
  obtain ⟨cs, text⟩ := WrittenItem.toList_of_startsWith remark
  have plain : Text.startsWith next.text "+++ " = false :=
    startsWith_cons text "+++ " '+' "++ ".toList rfl
  rw [Row.namePair?, plain, Bool.and_false, if_neg Bool.false_ne_true]

theorem namePair?_interspersed (alike : row.Alike other)
    (quiet : ∀ remark ∈ remarks, remark.isRemark = true)
    (apart : remarks = [] ∨ row.namePair? rest = none) (behind : Interspersed rest others) :
    other.namePair? (remarks ++ others) = row.namePair? rest := by
  cases remarks with
  | nil =>
    cases behind with
    | nil => rfl
    | cons next => exact alike.namePair? next
  | cons remark remarks =>
    rcases apart with none | unnamed
    · contradiction
    · rw [unnamed, List.cons_append, namePair?_of_isRemark (quiet remark List.mem_cons_self)]

theorem opensSection_interspersed (alike : row.Alike other)
    (quiet : ∀ remark ∈ remarks, remark.isRemark = true)
    (apart : remarks = [] ∨ row.namePair? rest = none) (behind : Interspersed rest others) :
    other.opensSection (remarks ++ others) = row.opensSection rest := by
  rw [Row.opensSection, Row.opensSection, alike.opensHunk, alike.opensFile,
    namePair?_interspersed alike quiet apart behind]

end Rows

section Bodies

variable {declared seen : Counts} {rows rest others remarks left : List Row} {body : Body}

theorem takeBody_remarks (quiet : ∀ remark ∈ remarks, remark.isRemark = true) (rows : List Row) :
    takeBody declared seen (remarks ++ rows) = takeBody declared seen rows := by
  induction remarks with
  | nil => rfl
  | cons remark remarks ih =>
    rw [List.forall_mem_cons] at quiet
    rw [List.cons_append, takeBody, if_pos quiet.1, ih quiet.2]

/-- What a body takes is the same among noise, and what it leaves is the same up to noise. -/
theorem takeBody_interspersed (between : Interspersed rows others)
    (taken : takeBody declared seen rows = .ok (body, left)) :
    ∃ left', takeBody declared seen others = .ok (body, left') ∧ Interspersed left left' := by
  -- on the rows, for whatever has been seen: both runs see the same lines
  induction between generalizing seen body with
  | nil =>
    rw [takeBody, Except.ok.injEq, Prod.mk.injEq] at taken
    obtain ⟨rfl, rfl⟩ := taken
    exact ⟨[], rfl, .nil⟩
  | @cons row other remarks rest others alike quiet apart next ih =>
    have same : Line.ofRaw? other.text = Line.ofRaw? row.text := alike.line?
    rw [takeBody] at taken ⊢
    rw [alike.isRemark, opensSection_interspersed alike quiet apart next, same, alike.delimiter]
    simp only [takeBody_remarks quiet]
    split at taken
    next remark =>
      rw [if_pos remark]
      exact ih taken
    next plain =>
      rw [if_neg plain]
      split at taken
      next stop =>
        rw [Except.ok.injEq, Prod.mk.injEq] at taken
        obtain ⟨rfl, rfl⟩ := taken
        rw [if_pos stop]
        exact ⟨_, rfl, .cons alike quiet apart next⟩
      next onward =>
        rw [if_neg onward]
        split at taken
        next => contradiction
        next line read =>
          split at taken
          next => contradiction
          next below =>
            obtain ⟨⟨more, left⟩, behind, shown⟩ := Outcome.map_eq_ok_iff.mp taken
            obtain ⟨rfl, rfl⟩ := Prod.mk.inj shown
            obtain ⟨left', behind', between⟩ := ih behind
            refine ⟨left', ?_, between⟩
            simp only [if_neg below, behind']
            rfl

theorem takeHunk_remarks (quiet : ∀ remark ∈ remarks, remark.isRemark = true) (header : Row)
    (rows : List Row) :
    takeHunk header (remarks ++ rows) = takeHunk header rows := by
  simp only [takeHunk, takeBody_remarks quiet]

theorem takeHunk_interspersed {header other : Row} {hunk : Hunk} (alike : header.Alike other)
    (opens : header.opensHunk = true) (between : Interspersed rows others)
    (taken : takeHunk header rows = .ok (hunk, left)) :
    ∃ left', takeHunk other others = .ok (hunk, left') ∧ Interspersed left left' := by
  unfold takeHunk at taken ⊢
  rw [alike.text_eq rfl rfl opens]
  split at taken
  next => contradiction
  next writtenOld writtenNew written =>
    obtain ⟨old, oldRead, taken⟩ := Outcome.bind_eq_ok_iff.mp taken
    obtain ⟨new, newRead, taken⟩ := Outcome.bind_eq_ok_iff.mp taken
    split at taken
    next => contradiction
    next body left body_taken =>
      obtain ⟨rfl, rfl⟩ := Prod.mk.inj (Except.ok.inj taken)
      obtain ⟨left', body_taken', between⟩ := takeBody_interspersed between body_taken
      refine ⟨left', ?_, between⟩
      simp only [oldRead, newRead, body_taken', bind, Except.bind]
      rfl

theorem ofRows_of_plain_row {row : Row} (rest : List Row) (file : row.opensFile = false)
    (names : row.namePair? rest = none) (hunk : row.opensHunk = false) :
    Item.ofRows (row :: rest) = Item.ofRows rest := by
  rw [Item.ofRows, file, names, hunk]
  simp only [Bool.false_eq_true, if_false]

theorem ofRows_remarks (quiet : ∀ remark ∈ remarks, remark.isRemark = true) (rows : List Row) :
    Item.ofRows (remarks ++ rows) = Item.ofRows rows := by
  induction remarks with
  | nil => rfl
  | cons remark remarks ih =>
    rw [List.forall_mem_cons] at quiet
    have plain := opensSection_of_isRemark quiet.1 (remarks ++ rows)
    rw [Row.opensSection, Bool.or_eq_false_iff, Bool.or_eq_false_iff, Option.isSome_eq_false_iff,
      Option.isNone_iff_eq_none] at plain
    rw [List.cons_append, ofRows_of_plain_row _ plain.1.2 plain.2 plain.1.1, ih quiet.2]

theorem ofRows_interspersed {items : List Item} (between : Interspersed rows others)
    (read : Item.ofRows rows = .ok items) : Item.ofRows others = .ok items := by
  fun_induction Item.ofRows rows generalizing others items with
  | case1 =>
    cases between with
    | nil => rw [Item.ofRows, read]
  | case2 row rest file ih =>
    obtain ⟨more, behind, rfl⟩ := Outcome.map_eq_ok_iff.mp read
    cases between with
    | cons alike quiet apart next =>
      rw [Item.ofRows, if_pos (alike.opensFile.trans file), ofRows_remarks quiet, ih next behind,
        alike.fileNames? file]
      rfl
  | case3 row rest file old new pair ih =>
    obtain ⟨more, behind, rfl⟩ := Outcome.map_eq_ok_iff.mp read
    cases between with
    | cons alike quiet apart next =>
      have named := (namePair?_interspersed alike quiet apart next).trans pair
      -- no remark stands between the two lines, but some may stand behind them
      obtain rfl := apart.resolve_right (by rw [pair]; exact Option.some_ne_none _)
      cases next with
      | nil => contradiction
      | cons second silent separate last =>
        have headless := alike.opensFile.trans (Bool.eq_false_iff.mpr file)
        rw [List.nil_append] at named ⊢
        rw [Item.ofRows, headless, named]
        simp only [Bool.false_eq_true, if_false, List.tail_cons]
        rw [ofRows_remarks silent, ih last behind]
        rfl
  | case4 row rest file pair opens hunk left found ih =>
    obtain ⟨more, behind, rfl⟩ := Outcome.map_eq_ok_iff.mp read
    cases between with
    | cons alike quiet apart next =>
      have unnamed := (namePair?_interspersed alike quiet apart next).trans pair
      obtain ⟨left', found', last⟩ := takeHunk_interspersed alike opens next found
      rw [← takeHunk_remarks quiet] at found'
      rw [WrittenItem.ofRows_of_takeHunk (alike.opensFile.trans (Bool.eq_false_iff.mpr file))
        unnamed (alike.opensHunk.trans opens) found', ih last behind]
      rfl
  | case5 row rest file pair opens error failed => contradiction
  | case6 row rest file pair other ih =>
    cases between with
    | cons alike quiet apart next =>
      have unnamed := namePair?_interspersed alike quiet apart next
      rw [ofRows_of_plain_row _ (alike.opensFile.trans (Bool.eq_false_iff.mpr file))
        (unnamed.trans pair)
        (alike.opensHunk.trans (Bool.eq_false_iff.mpr other)), ofRows_remarks quiet]
      exact ih next read

end Bodies

/-- A row of a diff stands in the body of a hunk: it is among the rows taken behind the header of
one. -/
def InBody (before : List Row) (row : Row) (rest : List Row) : Prop :=
  ∃ earlier header between old new more left, before = earlier ++ header :: between ∧
    rest = more ++ left ∧
    Header.extents? header.text = some (old, new) ∧
    Taken (declaredCounts old new) ⟨0, 0⟩ (between ++ row :: more) left

def Rewrites (before : List Row) (row : Row) (rest : List Row) (line : WrittenLine) : Prop :=
  line = .ofRow row ∨
    InBody before row rest ∧ row.text ∈ blankTexts ∧ line.text ∈ blankTexts ∧
      line.delimiter = row.delimiter

/-- The lines of a diff with noise in it, for the rows of the diff that follow some others: behind
the header of a hunk and behind each row of its body may stand any number of remarks, and each blank
line of the body may have its marker or not. -/
inductive Noise : List Row → List Row → List WrittenLine → Prop
  | nil (before : List Row) : Noise before [] []
  | cons {before : List Row} {row : Row} {rest : List Row} {line : WrittenLine}
    {remarks lines : List WrittenLine} (rewrites : Rewrites before row rest line)
    (place : remarks = [] ∨ row.opensHunk = true ∨ InBody before row rest)
    (quiet : ∀ remark ∈ remarks, remark.Whole ∧ Text.startsWith remark.text "\\" = true)
    (next : Noise (before ++ [row]) rest lines) :
    Noise before (row :: rest) (line :: (remarks ++ lines))

section

variable {before rows rest : List Row} {row : Row} {lines : List WrittenLine} {text noisy : String}

theorem InBody.opensSection (inBody : InBody before row rest) : row.opensSection rest = false := by
  obtain ⟨earlier, header, between, old, new, more, left, rfl, rfl, -, body⟩ := inBody
  exact (body.inside between row more rfl).unbroken between row [] rfl

theorem namePair?_eq_none_of_place (place : row.opensHunk = true ∨ InBody before row rest) :
    row.namePair? rest = none := by
  cases pair : row.namePair? rest with
  | none => rfl
  | some names =>
    rcases place with opens | inBody
    · rw [(opensHunk_of_namePair? pair).1] at opens
      contradiction
    · have closed := inBody.opensSection
      rw [Row.opensSection, pair, Option.isSome_some, Bool.or_true] at closed
      contradiction

theorem Rewrites.alike {line : WrittenLine} (rewrites : Rewrites before row rest line) {other : Row}
    (shown : WrittenLine.ofRow other = line) : row.Alike other := by
  subst shown
  rcases rewrites with same | ⟨-, blank, stripped, delimiter⟩
  · exact ⟨.inl (congrArg WrittenLine.text same), congrArg WrittenLine.delimiter same⟩
  · exact ⟨.inr ⟨blank, stripped⟩, delimiter⟩

theorem Noise.interspersed (noise : Noise before rows lines) {others : List Row}
    (shown : others.map WrittenLine.ofRow = lines) : Interspersed rows others := by
  induction noise generalizing others with
  | nil before =>
    rw [List.map_eq_nil_iff.mp shown]
    exact .nil
  | cons rewrites place quiet next ih =>
    obtain ⟨other, behind, rfl, same, parts⟩ := List.map_eq_cons_iff.mp shown
    obtain ⟨remarks, others, rfl, rfl, last⟩ := List.map_eq_append_iff.mp parts
    rw [List.forall_mem_map] at quiet
    refine .cons (rewrites.alike same) (fun remark among => (quiet remark among).2) ?_ (ih last)
    exact place.imp List.map_eq_nil_iff.mp namePair?_eq_none_of_place

theorem whole_of_blank {line : WrittenLine} (blank : line.text ∈ blankTexts)
    (ending : line.delimiter = "\r\n" ∨ line.delimiter = "\n") : line.Whole := by
  simp only [blankTexts, List.mem_cons, List.not_mem_nil, or_false] at blank
  have plain : '\n' ∉ line.text.toList ∧ Text.endsInReturn line.text = false := by
    rcases blank with text | text <;> rw [text] <;> decide
  exact ⟨plain.1, ending.imp_right fun feed => ⟨feed, plain.2⟩⟩

theorem Noise.whole (noise : Noise before rows lines)
    (own : ∀ row ∈ rows, (WrittenLine.ofRow row).Whole) :
    ∀ line ∈ lines, line.Whole := by
  induction noise with
  | nil before => exact nofun
  | @cons before row rest line remarks lines rewrites place quiet next ih =>
    rw [List.forall_mem_cons] at own
    rw [List.forall_mem_cons, List.forall_mem_append]
    refine ⟨?_, fun remark among => (quiet remark among).1, ih own.2⟩
    rcases rewrites with rfl | ⟨-, -, stripped, delimiter⟩
    · exact own.1
    · have ending := own.1.2.imp_right And.left
      rw [show (WrittenLine.ofRow row).delimiter = line.delimiter from delimiter.symm] at ending
      exact whole_of_blank stripped ending

theorem parse_of_interspersed {patches : List Patch}
    (between : Interspersed (Row.ofText text) (Row.ofText noisy))
    (read : parse text = .ok patches) : parse noisy = .ok patches := by
  obtain ⟨items, found, made, hunks⟩ := parse_eq_ok_iff.mp read
  exact parse_eq_ok_iff.mpr ⟨items, ofRows_interspersed between found, made, hunks⟩

/-- A diff reads the same with remarks behind the headers and the lines of its hunks, and with other
blank lines in their bodies. If it ends in a line feed, every such change to its lines gives a text
of that kind. -/
theorem parse_noise {text : String} {patches : List Patch} (read : parse text = .ok patches) :
    (∀ noisy, Noise [] (Row.ofText text) (WrittenLine.linesOf noisy) → parse noisy = .ok patches) ∧
      (text.toList.getLast? = some '\n' → WrittenLine.join (WrittenLine.linesOf text) = text ∧
        ∀ lines, Noise [] (Row.ofText text) lines →
          parse (WrittenLine.join lines) = .ok patches) := by
  have any (noisy : String) (noise : Noise [] (Row.ofText text) (WrittenLine.linesOf noisy)) :
      parse noisy = .ok patches := parse_of_interspersed (noise.interspersed rfl) read
  refine ⟨any, fun closed => ⟨WrittenLine.join_linesOf closed, fun lines noise => any _ ?_⟩⟩
  have whole :=
    noise.whole fun row among => WrittenLine.whole_of_mem_linesOf closed (List.mem_map_of_mem among)
  rwa [WrittenLine.linesOf_join whole]

end

def nameLike : String := "@@ -1,2 +1,1 @@\n--- x\n \n--- a/g\n+++ b/g\n"

def noisyNameLike : List WrittenLine :=
  [⟨"@@ -1,2 +1,1 @@", "\n"⟩, ⟨"--- x", "\n"⟩, ⟨"\\ No newline", "\n"⟩, ⟨"", "\n"⟩, ⟨"\\", "\r\n"⟩,
    ⟨"\\", "\n"⟩,
    ⟨"--- a/g", "\n"⟩, ⟨"+++ b/g", "\n"⟩]

theorem ofText_nameLike : Row.ofText nameLike =
    [⟨1, "@@ -1,2 +1,1 @@", "\n"⟩, ⟨2, "--- x", "\n"⟩, ⟨3, " ", "\n"⟩, ⟨4, "--- a/g", "\n"⟩,
      ⟨5, "+++ b/g", "\n"⟩] := by
  decide +kernel

theorem noise_nameLike : Noise [] (Row.ofText nameLike) noisyNameLike := by
  have body : Taken ⟨2, 1⟩ ⟨0, 0⟩ [⟨2, "--- x", "\n"⟩, ⟨3, " ", "\n"⟩]
      [⟨4, "--- a/g", "\n"⟩, ⟨5, "+++ b/g", "\n"⟩] :=
    .cons (.cons (.nil (.inl (by decide)) (by decide)) (by decide) (by decide) (.inr (by decide)))
      (by decide)
      (by decide) (.inr (by decide))
  have removal : InBody [⟨1, "@@ -1,2 +1,1 @@", "\n"⟩] ⟨2, "--- x", "\n"⟩
      [⟨3, " ", "\n"⟩, ⟨4, "--- a/g", "\n"⟩, ⟨5, "+++ b/g", "\n"⟩] :=
    ⟨[], _, [], ⟨[1], some [2]⟩, ⟨[1], some [1]⟩, [_], [_, _], rfl, rfl, by decide, body⟩
  have blank : InBody [⟨1, "@@ -1,2 +1,1 @@", "\n"⟩, ⟨2, "--- x", "\n"⟩] ⟨3, " ", "\n"⟩
      [⟨4, "--- a/g", "\n"⟩, ⟨5, "+++ b/g", "\n"⟩] :=
    ⟨[], _, [_], ⟨[1], some [2]⟩, ⟨[1], some [1]⟩, [], [_, _], rfl, rfl, by decide, body⟩
  rw [ofText_nameLike]
  refine @Noise.cons _ _ _ _ [] _ (.inl rfl) (.inl rfl) nofun ?_
  refine @Noise.cons _ _ _ _ [_] _ (.inl rfl) (.inr (.inr removal)) (by decide) ?_
  refine @Noise.cons _ _ _ _ [_, _] _ (.inr ⟨blank, by decide, by decide, rfl⟩) (.inr (.inr blank))
    (by decide) ?_
  refine @Noise.cons _ _ _ _ [] _ (.inl rfl) (.inl rfl) nofun ?_
  refine @Noise.cons _ _ _ _ [] _ (.inl rfl) (.inl rfl) nofun ?_
  exact .nil _

theorem parse_noise_nameLike :
    nameLike.toList.getLast? = some '\n' ∧ ∃ patches, parse nameLike = .ok patches ∧
      parse "@@ -1,2 +1,1 @@\n--- x\n\\ No newline\n\n\\\r\n\\\n--- a/g\n+++ b/g\n" =
        .ok patches := by
  have closed : nameLike.toList.getLast? = some '\n' := by decide
  have read : parse nameLike =
    .ok [{ hunks := [⟨⟨1, 2⟩, ⟨1, 1⟩, [⟨.removed, "-- x"⟩, ⟨.context, ""⟩], ["\n", "\n"]⟩] },
      { oldName := some "g", newName := some "g", oldHeader := some "a/g",
        newHeader := some "b/g" }] := by
    decide +kernel
  have joined : WrittenLine.join noisyNameLike =
      "@@ -1,2 +1,1 @@\n--- x\n\\ No newline\n\n\\\r\n\\\n--- a/g\n+++ b/g\n" := by
    decide +kernel
  exact ⟨closed, _, read, joined ▸ ((parse_noise read).2 closed).2 _ noise_nameLike⟩

end ReviewContext.Diff
