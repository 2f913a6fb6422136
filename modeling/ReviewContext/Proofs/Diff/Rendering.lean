import ReviewContext.Diff.Parser
import ReviewContext.Proofs.Diff.WrittenLine
import ReviewContext.Proofs.Text.Decimal

/-! Rendering: diffs as they are written, file sections with name lines and hunks with headers. The
counts that a header declares may be larger than those of the lines that follow it. -/
namespace ReviewContext.Diff

/-- One side of a hunk header; a count of one may be left out. -/
structure WrittenSide where
  start : Nat
  count : Nat
  terse : Bool := false

namespace WrittenSide

/-- A side without lines is named by the line before it. -/
def shownStart (side : WrittenSide) : Nat := if side.count = 0 then side.start - 1 else side.start

def isBare (side : WrittenSide) : Bool := side.terse && side.count == 1

def text (side : WrittenSide) : String :=
  toString side.shownStart ++ if side.isBare then "" else "," ++ toString side.count

/-- There is a line before a side without lines, and the numbers are not too long. -/
structure Valid (side : WrittenSide) : Prop where
  start_pos : side.count = 0 → 0 < side.start
  start_writable : Text.isWritable side.shownStart = true
  count_writable : Text.isWritable side.count = true

end WrittenSide

structure WrittenHunk where
  old : WrittenSide
  new : WrittenSide
  trailing : String := ""
  delimiter : String := "\n"
  body : Body

namespace WrittenHunk

def header (written : WrittenHunk) : WrittenLine :=
  ⟨"@@ -" ++ written.old.text ++ " +" ++ written.new.text ++ " @@" ++ written.trailing,
    written.delimiter⟩

def bodyLine (entry : Line × String) : WrittenLine := ⟨entry.1.raw, entry.2⟩

def lines (written : WrittenHunk) : List WrittenLine := written.header :: written.body.map bodyLine

def counted (written : WrittenHunk) : Counts := .ofLines (written.body.map Prod.fst)

/-- What is read of a written hunk: its counts are those of its lines. -/
def hunk (written : WrittenHunk) : Hunk where
  old := ⟨written.old.start, written.counted.old⟩
  new := ⟨written.new.start, written.counted.new⟩
  lines := written.body.map Prod.fst
  delimiters := written.body.map Prod.snd

/-- The header declares as many lines as there are or more, and no line breaks where it should
not. -/
structure Valid (written : WrittenHunk) : Prop where
  old : written.old.Valid
  new : written.new.Valid
  old_covers : written.counted.old ≤ written.old.count
  new_covers : written.counted.new ≤ written.new.count
  trailing : (⟨written.trailing, written.delimiter⟩ : WrittenLine).Whole
  body : ∀ entry ∈ written.body, (⟨entry.1.content, entry.2⟩ : WrittenLine).Whole

end WrittenHunk

/-- A file section: its head, if it has one, its name lines and its hunks. -/
structure WrittenSection where
  head : Option WrittenLine := none
  oldName : String
  newName : String
  oldDelimiter : String := "\n"
  newDelimiter : String := "\n"
  hunks : List WrittenHunk

/-- A name without tabs, with something but no white space at both of its ends. -/
structure IsName (name : String) : Prop where
  nonempty : name ≠ ""
  tab : '\t' ∉ name.toList
  first : ∀ c ∈ name.toList.head?, Text.isBlank c = false
  last : ∀ c ∈ name.toList.getLast?, Text.isBlank c = false

namespace WrittenSection

def oldLine (written : WrittenSection) : WrittenLine :=
  ⟨"--- a/" ++ written.oldName, written.oldDelimiter⟩

def newLine (written : WrittenSection) : WrittenLine :=
  ⟨"+++ b/" ++ written.newName, written.newDelimiter⟩

def lines (written : WrittenSection) : List WrittenLine :=
  written.head.toList ++ written.oldLine :: written.newLine ::
    written.hunks.flatMap WrittenHunk.lines

def patch (written : WrittenSection) : Patch where
  oldName := some written.oldName
  newName := some written.newName
  oldHeader := some ("a/" ++ written.oldName)
  newHeader := some ("b/" ++ written.newName)
  hunks := written.hunks.map WrittenHunk.hunk

structure Valid (written : WrittenSection) : Prop where
  head : ∀ line ∈ written.head, Text.startsWith line.text "diff --git " = true ∧ line.Whole
  oldName : IsName written.oldName
  newName : IsName written.newName
  oldLine : (⟨written.oldName, written.oldDelimiter⟩ : WrittenLine).Whole
  newLine : (⟨written.newName, written.newDelimiter⟩ : WrittenLine).Whole
  hunks : ∀ hunk ∈ written.hunks, hunk.Valid

end WrittenSection

def render (sections : List WrittenSection) : String :=
  WrittenLine.join (sections.flatMap WrittenSection.lines)

namespace WrittenSide

def digits (n : Nat) : List Nat := (Text.decimal n).map (·.toNat - 48)

def extent (side : WrittenSide) : Header.WrittenExtent :=
  ⟨digits side.shownStart, if side.isBare then none else some (digits side.count)⟩

theorem digits_ne_nil (n : Nat) : digits n ≠ [] := by
  simp [digits, Text.decimal]

theorem toList_text (side : WrittenSide) :
    side.text.toList = Text.decimal side.shownStart ++
      if side.isBare then [] else ',' :: Text.decimal side.count := by
  rw [text, String.toList_append, Text.toList_toString]
  split
  · rfl
  · rw [String.toList_append, Text.toList_toString]
    rfl

theorem spanDigits_decimal (n : Nat) {rest : List Char} (h : Text.EndsNumber rest) :
    Text.spanDigits (Text.decimal n ++ rest) = (digits n, rest) :=
  Text.spanDigits_append (fun _ => Text.isDigit_of_mem_decimal) h

theorem extent?_text (side : WrittenSide) (sign : Char) (visible : Text.isBlank sign = false)
    (rest : List Char) : Header.extent? sign (' ' :: sign :: (side.text.toList ++ ' ' :: rest)) =
      some (side.extent, ' ' :: rest) := by
  have blank : Text.EndsNumber (' ' :: rest) := by
    intro c hc
    rw [← Option.some.inj hc]
    decide
  have skipped (cs : List Char) : Header.skipBlanks (' ' :: sign :: cs) = sign :: cs := by
    simp [Header.skipBlanks, visible, show Text.isBlank ' ' = true by decide]
  obtain ⟨start, starts, hstart⟩ := List.exists_cons_of_ne_nil (digits_ne_nil side.shownStart)
  obtain ⟨count, counts, hcount⟩ := List.exists_cons_of_ne_nil (digits_ne_nil side.count)
  unfold Header.extent? extent
  rw [toList_text, skipped]
  simp only [ne_eq, not_true_eq_false, if_false]
  by_cases bare : side.isBare = true
  · rw [if_pos bare, if_pos bare, List.append_nil, spanDigits_decimal _ blank, hstart]
    rfl
  · have comma : Text.EndsNumber (',' :: (Text.decimal side.count ++ ' ' :: rest)) := by
      intro c hc
      rw [← Option.some.inj hc]
      decide
    rw [if_neg bare, if_neg bare, List.append_assoc, List.cons_append,
      spanDigits_decimal _ comma, hstart]
    simp only [spanDigits_decimal _ blank, hcount]

theorem boundedNumber_digits {n : Nat} (h : Text.isWritable n = true) :
    Text.boundedNumber (digits n) = .ok n := Text.boundedNumber_decimal h

theorem read_extent {side : WrittenSide} (valid : side.Valid) :
    side.extent.read = .ok ⟨side.start, side.count⟩ := by
  have count : Text.boundedNumber ((if side.isBare then none
    else some (digits side.count)).getD [1]) =
      .ok side.count := by
    by_cases bare : side.isBare = true
    · have one : side.count = 1 := by
        simp only [isBare, Bool.and_eq_true, beq_iff_eq] at bare
        exact bare.2
      rw [if_pos bare, one]
      rfl
    · rw [if_neg bare, Option.getD_some]
      exact boundedNumber_digits valid.count_writable
  have settled : Header.settled side.shownStart side.count = ⟨side.start, side.count⟩ := by
    have before := valid.start_pos
    unfold Header.settled shownStart
    by_cases none : side.count = 0
    · rw [if_pos none, if_pos none, Nat.sub_add_cancel (before none)]
    · rw [if_neg none, if_neg none]
  unfold Header.WrittenExtent.read extent
  rw [boundedNumber_digits valid.start_writable, count, ← settled]
  rfl

end WrittenSide

end ReviewContext.Diff
