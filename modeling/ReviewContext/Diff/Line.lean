import ReviewContext.Text.Rows

/-! Lines of a hunk. The marker in front of a line tells on which side of the change it stands. -/
namespace ReviewContext.Diff

inductive LineKind
  | context
  | added
  | removed
deriving DecidableEq, Repr

def LineKind.marker : LineKind → Char
  | .context => ' '
  | .added => '+'
  | .removed => '-'

def LineKind.name : LineKind → String
  | .context => "context"
  | .added => "added"
  | .removed => "removed"

def LineKind.ofName? : String → Option LineKind
  | "context" => some .context
  | "added" => some .added
  | "removed" => some .removed
  | _ => none

def LineKind.ofMarker? : Char → Option LineKind
  | ' ' => some .context
  | '+' => some .added
  | '-' => some .removed
  | _ => none

structure Line where
  kind : LineKind
  content : String
deriving DecidableEq, Repr

namespace Line

def isEdit (line : Line) : Bool := line.kind != .context

def inOld (line : Line) : Bool := line.kind != .added

def inNew (line : Line) : Bool := line.kind != .removed

def raw (line : Line) : String :=
  String.ofList (line.kind.marker :: line.content.toList)

/-- Reads a marked line; an empty one is a blank context line whose marker was stripped. -/
def ofRaw? (text : String) : Option Line :=
  match text.toList with
  | [] => some ⟨.context, ""⟩
  | marker :: content => (LineKind.ofMarker? marker).map (⟨·, String.ofList content⟩)

def unchanged (content : String) : Line := ⟨.context, content⟩

@[simp] theorem ofRaw?_raw (line : Line) : ofRaw? line.raw = some line := by
  obtain ⟨kind, content⟩ := line
  cases kind <;> simp [ofRaw?, raw, LineKind.marker, LineKind.ofMarker?]

end Line

theorem LineKind.ofName?_eq_some_iff {name : String} {kind : LineKind} :
    LineKind.ofName? name = some kind ↔ kind.name = name := by
  constructor
  · unfold LineKind.ofName?
    split <;> intro h <;> simp_all [LineKind.name] <;> subst h <;> rfl
  · rintro rfl
    cases kind <;> rfl

end ReviewContext.Diff
