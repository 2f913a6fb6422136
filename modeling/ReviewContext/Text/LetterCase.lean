import ReviewContext.Text.CaseTable

/-! Small letters. A capital has one small partner whatever stands around it, two letters apart: the
dotted capital I keeps its dot as a mark, and a sigma that closes a word has a form of its own. -/
namespace ReviewContext.Text

def lowerChar (c : Char) : Char :=
  match CaseTable.capitals.findSome? fun run => run.lower? c.toNat with
  | some n => Char.ofNat n
  | none => c

def meetsCased (cs : List Char) : Bool :=
  match cs.dropWhile (CaseTable.holds CaseTable.skipped) with
  | [] => false
  | c :: _ => CaseTable.holds CaseTable.cased c

/-- Lower case of a text whose characters before it are given last first. -/
def lowerAfter (before : List Char) : List Char → List Char
  | [] => []
  | c :: cs =>
    let small :=
      if c = 'Σ' then (if meetsCased before && !meetsCased cs then ['ς'] else ['σ'])
      else if c = 'İ' then ['i', '\u0307']
      else [lowerChar c]
    small ++ lowerAfter (c :: before) cs

def lower (s : String) : String :=
  String.ofList (lowerAfter [] s.toList)

/-- Capitals as far as the names of log levels need them: beside the ASCII letters only the dotless
i has a capital among theirs. -/
def capital (c : Char) : Char :=
  if c = 'ı' then 'I' else c.toUpper

def upper (s : String) : String :=
  String.ofList (s.toList.map capital)

end ReviewContext.Text
