import ReviewContext.Diff.Trim

/-! Trims: a hunk is its trimmed form between lines that are no edits, and both say the same of a
file. -/
namespace ReviewContext.Diff

def Quiet (lines : List Line) : Prop := ∀ line ∈ lines, line.isEdit = false

theorem quiet_take {lines : List Line} {n : Nat} (h : lines.findIdx? Line.isEdit = some n) :
    Quiet (lines.take n) := by
  obtain ⟨_, -, before⟩ := List.findIdx?_eq_some_iff_getElem.mp h
  intro line inside
  obtain ⟨j, hj, rfl⟩ := List.mem_take_iff_getElem.mp inside
  exact Bool.eq_false_iff.mpr (before j (by omega))

theorem lt_of_findIdx? {lines : List Line} {first behind : Nat}
    (before : lines.findIdx? Line.isEdit = some first)
    (after : lines.reverse.findIdx? Line.isEdit = some behind) : first + behind < lines.length := by
  obtain ⟨_, -, none⟩ := List.findIdx?_eq_some_iff_getElem.mp before
  obtain ⟨size, edit, -⟩ := List.findIdx?_eq_some_iff_getElem.mp after
  rw [List.length_reverse] at size
  rw [List.getElem_reverse] at edit
  apply Nat.lt_of_not_le
  intro early
  exact none (lines.length - 1 - behind) (by omega) edit

theorem Quiet.filter_inNew {lines : List Line} (quiet : Quiet lines) :
    lines.filter Line.inNew = lines := by
  rw [List.filter_eq_self]
  intro line inside
  have context := quiet line inside
  cases kind : line.kind <;> simp [Line.isEdit, Line.inNew, kind] at context ⊢

theorem Quiet.filter_inOld {lines : List Line} (quiet : Quiet lines) :
    lines.filter Line.inOld = lines := by
  rw [List.filter_eq_self]
  intro line inside
  have context := quiet line inside
  cases kind : line.kind <;> simp [Line.isEdit, Line.inOld, kind] at context ⊢

theorem Quiet.filter_isEdit {lines : List Line} (quiet : Quiet lines) :
    lines.filter Line.isEdit = [] := by
  rw [List.filter_eq_nil_iff]
  intro line inside
  rw [quiet line inside]
  exact Bool.false_ne_true

namespace Hunk

def tailLength? (hunk : Hunk) : Option Nat := hunk.lines.reverse.findIdx? Line.isEdit

/-- A hunk, its trimmed form and what is cut off it. -/
structure Trims (hunk trimmed : Hunk) (lead tail : List Line) : Prop where
  lines : hunk.lines = lead ++ trimmed.lines ++ tail
  quietLead : Quiet lead
  quietTail : Quiet tail
  first : hunk.firstEdit? = some lead.length
  last : hunk.tailLength? = some tail.length
  start : trimmed.new.start = hunk.new.start + lead.length
  counted : trimmed.declared = trimmed.counted

theorem trims_of_trim {hunk trimmed : Hunk} (h : hunk.trim = .ok trimmed) :
    ∃ lead tail, hunk.Trims trimmed lead tail := by
  unfold trim at h
  split at h
  next first last before after =>
    rw [Except.ok.injEq] at h
    obtain ⟨n, behind, rfl⟩ := Option.map_eq_some_iff.mp after
    have size := (List.findIdx?_eq_some_iff_getElem.mp behind).1
    rw [List.length_reverse] at size
    have order := lt_of_findIdx? before behind
    have kept : trimmed.lines = (hunk.lines.drop first).take (hunk.lines.length - n - first) := by
      rw [← h]
      change List.take _ _ = _
      congr 1
      omega
    refine ⟨hunk.lines.take first, hunk.lines.drop (hunk.lines.length - n), ?_⟩
    have length : (hunk.lines.take first).length = first := List.length_take_of_le (by omega)
    refine ⟨?_, quiet_take before, ?_, ?_, ?_, ?_, ?_⟩
    · have rest : hunk.lines.drop (hunk.lines.length - n) =
          (hunk.lines.drop first).drop (hunk.lines.length - n - first) := by
        rw [List.drop_drop]
        congr 1
        omega
      rw [kept, rest, List.append_assoc, List.take_append_drop, List.take_append_drop]
    · intro line inside
      apply quiet_take behind
      rw [List.take_reverse]
      exact List.mem_reverse.mpr inside
    · rw [length]
      exact before
    · rw [List.length_drop, Nat.sub_sub_self (by omega)]
      exact behind
    · rw [length, ← h]
      rfl
    · rw [← h]
      rfl
  next => contradiction

theorem hasEdits_eq (hunk : Hunk) : hunk.hasEdits = hunk.firstEdit?.isSome :=
  List.findIdx?_isSome.symm

theorem trim_eq_error {hunk : Hunk} (still : hunk.firstEdit? = none) :
    hunk.trim = .error (.noEdits hunk.header) := by
  rw [trim, still]

theorem exists_trim {hunk : Hunk} (edits : hunk.hasEdits = true) :
    ∃ trimmed, hunk.trim = .ok trimmed := by
  have back : hunk.lastEdit?.isSome = true := by
    rw [lastEdit?, Option.isSome_map, List.findIdx?_isSome, List.any_reverse]
    exact edits
  rw [hasEdits_eq] at edits
  obtain ⟨first, before⟩ := Option.isSome_iff_exists.mp edits
  obtain ⟨last, after⟩ := Option.isSome_iff_exists.mp back
  exact ⟨hunk.restrict first last, by rw [trim, before, after]⟩

namespace Trims

variable {hunk trimmed : Hunk} {lead tail : List Line}

theorem edits (trims : hunk.Trims trimmed lead tail) : trimmed.edits = hunk.edits := by
  rw [Hunk.edits, Hunk.edits, trims.lines, List.filter_append, List.filter_append,
    trims.quietLead.filter_isEdit, trims.quietTail.filter_isEdit, List.nil_append, List.append_nil]

theorem newContents (trims : hunk.Trims trimmed lead tail) :
    hunk.newContents = lead.map Line.content ++ trimmed.newContents ++ tail.map Line.content := by
  rw [Hunk.newContents, Hunk.newContents, trims.lines, List.filter_append, List.filter_append,
    trims.quietLead.filter_inNew, trims.quietTail.filter_inNew, List.map_append, List.map_append]

theorem hasEdits (trims : hunk.Trims trimmed lead tail) : hunk.hasEdits = true := by
  rw [hasEdits_eq, trims.first, Option.isSome_some]

end Trims

/-- What a hunk says of the new file stands in a file, where the hunk says and as long as it
says. -/
structure Agrees (file : List String) (hunk : Hunk) : Prop where
  start_pos : 0 < hunk.new.start
  counted : hunk.declared = hunk.counted
  contents : hunk.newContents = (file.drop (hunk.new.start - 1)).take hunk.new.count
  inside : hunk.new.start - 1 + hunk.new.count ≤ file.length

theorem newCount_of_counted {hunk : Hunk} (counted : hunk.declared = hunk.counted) :
    hunk.new.count = hunk.newContents.length := by
  rw [length_newContents, ← counted]
  rfl

theorem agrees_of_split {file before after : List String} {hunk : Hunk}
    (start_pos : 0 < hunk.new.start) (counted : hunk.declared = hunk.counted)
    (split : file = before ++ hunk.newContents ++ after)
    (place : before.length = hunk.new.start - 1) : hunk.Agrees file where
  start_pos := start_pos
  counted := counted
  contents := by
    rw [split, ← place, newCount_of_counted counted, List.append_assoc, List.drop_left,
      List.take_left]
  inside := by
    rw [split, ← place, newCount_of_counted counted, List.length_append, List.length_append]
    omega

namespace Agrees

variable {file : List String} {hunk trimmed : Hunk} {lead tail : List Line}

theorem split (agrees : hunk.Agrees file) :
    file = file.take (hunk.new.start - 1) ++ hunk.newContents ++
      file.drop (hunk.new.start - 1 + hunk.new.count) := by
  rw [agrees.contents, List.append_assoc, ← List.drop_drop, List.take_append_drop,
    List.take_append_drop]

theorem length_take_start (agrees : hunk.Agrees file) :
    (file.take (hunk.new.start - 1)).length = hunk.new.start - 1 := by
  have inside := agrees.inside
  exact List.length_take_of_le (by omega)

theorem trimmed_end (agrees : hunk.Agrees file) (trims : hunk.Trims trimmed lead tail) :
    trimmed.new.start + trimmed.new.count + tail.length = hunk.new.start + hunk.new.count := by
  have whole := congrArg List.length trims.newContents
  rw [List.length_append, List.length_append, List.length_map, List.length_map,
    ← newCount_of_counted agrees.counted, ← newCount_of_counted trims.counted] at whole
  rw [trims.start]
  omega

theorem trim (agrees : hunk.Agrees file) (trims : hunk.Trims trimmed lead tail) :
    trimmed.Agrees file := by
  have start_pos := agrees.start_pos
  have split := agrees.split
  rw [trims.newContents] at split
  simp only [List.append_assoc] at split
  rw [← List.append_assoc] at split
  refine agrees_of_split ?_ trims.counted (split.trans (List.append_assoc ..).symm) ?_
  · rw [trims.start]
    omega
  · rw [List.length_append, agrees.length_take_start, List.length_map, trims.start]
    omega

end Agrees

end Hunk

end ReviewContext.Diff
