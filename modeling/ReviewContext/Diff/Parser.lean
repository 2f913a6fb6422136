import ReviewContext.Diff.Patch

/-! Reading a diff. The body of a hunk goes on until both counts of its header are reached; one that
the end of the text or a new section cuts short takes its counts from the lines it has. -/
namespace ReviewContext.Diff

abbrev Body := List (Line × String)

def Counts.reach (seen declared : Counts) : Bool :=
  declared.old ≤ seen.old && declared.new ≤ seen.new

def Counts.exceed (seen declared : Counts) : Bool :=
  declared.old < seen.old || declared.new < seen.new

/-- Takes the rows of a body, given what was seen of it, and leaves the rows that follow it. -/
def takeBody (declared seen : Counts) : List Row → Except Malformed (Body × List Row)
  | [] => .ok ([], [])
  | row :: rest =>
    if row.isRemark then takeBody declared seen rest
    else if seen.reach declared || row.opensSection rest then .ok ([], row :: rest)
    else
      match Line.ofRaw? row.text with
      | none => .error (.unknownLine row.text row.number)
      | some line =>
        if (seen.add line).exceed declared then
          .error (.overrun declared (seen.add line) row.number)
        else (takeBody declared (seen.add line) rest).map fun r =>
          ((line, row.delimiter) :: r.1, r.2)

theorem length_takeBody_le {declared seen : Counts} {rows rest : List Row} {body : Body}
    (h : takeBody declared seen rows = .ok (body, rest)) : rest.length ≤ rows.length := by
  induction rows generalizing seen body with
  | nil => simp [takeBody] at h; simp [h]
  | cons row rows ih =>
    unfold takeBody at h
    split at h
    · exact Nat.le_succ_of_le (ih h)
    · split at h
      · simp only [Except.ok.injEq, Prod.mk.injEq] at h
        exact h.2 ▸ Nat.le_refl _
      · split at h
        · contradiction
        · split at h
          · contradiction
          · rename_i line _ _
            cases hb : takeBody declared (seen.add line) rows with
            | error _ => simp [hb, Except.map] at h
            | ok r =>
              simp only [hb, Except.map, Except.ok.injEq, Prod.mk.injEq] at h
              exact Nat.le_succ_of_le (ih (by rw [hb, ← h.2]))

def Hunk.ofBody (old new : Extent) (body : Body) : Hunk :=
  (⟨old, new, body.map Prod.fst, body.map Prod.snd⟩ : Hunk).recounted

def takeHunk (row : Row) (rows : List Row) : Except ReadError (Hunk × List Row) :=
  match Header.extents? row.text with
  | none => .error (.malformed (.unknownHeader row.text row.number))
  | some (writtenOld, writtenNew) => do
    let old ← writtenOld.read
    let new ← writtenNew.read
    match takeBody ⟨old.count, new.count⟩ ⟨0, 0⟩ rows with
    | .error fault => throw (.malformed fault)
    | .ok (body, rest) => return (Hunk.ofBody old new body, rest)

theorem length_takeHunk_le {row : Row} {rows rest : List Row} {hunk : Hunk}
    (h : takeHunk row rows = .ok (hunk, rest)) : rest.length ≤ rows.length := by
  unfold takeHunk at h
  split at h
  · contradiction
  · rename_i writtenOld writtenNew _
    cases ho : writtenOld.read with
    | error _ => simp [ho, bind, Except.bind] at h
    | ok old =>
      cases hn : writtenNew.read with
      | error _ => simp [ho, hn, bind, Except.bind] at h
      | ok new =>
        cases hb : takeBody ⟨old.count, new.count⟩ ⟨0, 0⟩ rows with
        | error _ => simp [ho, hn, hb, bind, Except.bind, throw, throwThe, MonadExceptOf.throw] at h
        | ok r =>
          simp only [ho, hn, hb, bind, Except.bind, pure, Except.pure, Except.ok.injEq,
            Prod.mk.injEq] at h
          rw [← h.2]
          exact length_takeBody_le hb

/-- The items of a diff; rows between sections that open nothing say nothing about lines. -/
def Item.ofRows : List Row → Except ReadError (List Item)
  | [] => .ok []
  | row :: rest =>
    if row.opensFile then (ofRows rest).map (.file (Header.fileNames? row.text) :: ·)
    else
      match row.namePair? rest with
      | some (old, new) => (ofRows rest.tail).map (.names old new :: ·)
      | none =>
        if row.opensHunk then
          match _read : takeHunk row rest with
          | .ok (found, left) => (ofRows left).map (.hunk found :: ·)
          | .error e => .error e
        else ofRows rest
termination_by rows => rows.length
decreasing_by
  · simp
  · simp only [List.length_cons, List.length_tail]
    omega
  · exact Nat.lt_succ_of_le (length_takeHunk_le _read)
  · simp

/-- Reads a diff into its patches; a diff has at least one hunk. -/
def parse (text : String) : Except ReadError (List Patch) :=
  if Text.isBlankText text then .error (.malformed .emptyText)
  else do
    let items ← Item.ofRows (Row.ofText text)
    let patches := Patch.ofItems items
    if (allHunks patches).isEmpty then .error (.malformed .noHunks) else return patches

end ReviewContext.Diff
