import ReviewContext.Yaml.Chars
import ReviewContext.Yaml.Fault

/-! Block scalars: indented text that keeps its line ends or folds them. -/
namespace ReviewContext.Yaml

/-- What becomes of the line ends behind the last line. -/
inductive Chomping
  | clip
  | strip
  | keep
deriving DecidableEq

def Chomping.ofChar? : Char → Option Chomping
  | '+' => some .keep
  | '-' => some .strip
  | _ => none

def increment? (c : Char) : Except Fault (Option Nat) :=
  if c = '0' then .error .malformed
  else if c.isDigit then .ok (some (c.toNat - 48))
  else .ok none

/-- The header of a block scalar: how to chomp it and how far it is indented, in either order. -/
def blockHeader (cs : List Char) : Except Fault (Chomping × Option Nat × List Char) :=
  match cs with
  | [] => .ok (.clip, none, [])
  | c :: rest => do
    match Chomping.ofChar? c with
    | some chomping =>
      match rest with
      | [] => return (chomping, none, [])
      | d :: rest' =>
        match ← increment? d with
        | some n => return (chomping, some n, rest')
        | none => return (chomping, none, rest)
    | none =>
      match ← increment? c with
      | none => return (.clip, none, cs)
      | some n =>
        match rest.head?.bind Chomping.ofChar? with
        | some chomping => return (chomping, some n, rest.drop 1)
        | none => return (.clip, some n, rest)

def restOfLine (cs : List Char) : Except Fault (List Char) :=
  let cs := cs.dropWhile (· == ' ')
  let cs := if nextIs (· == '#') cs then cs.dropWhile (!isBreak ·) else cs
  match lineEnd? cs with
  | some (_, below) => .ok below
  | none => if cs = [] then .ok [] else .error .malformed

def leadingLines (column deepest : Nat) : List Char → List Char × Nat × Nat × List Char
  | [] => ([], deepest, column, [])
  | c :: cs =>
    if c = ' ' then leadingLines (column + 1) (max deepest (column + 1)) cs
    else
      match lineEnd? [c] with
      | some (lineEnd, _) =>
        let (more, deepest, column, rest) := leadingLines 0 deepest cs
        (lineEnd :: more, deepest, column, rest)
      | none => ([], deepest, column, c :: cs)

def indentedLines (indent column : Nat) : List Char → List Char × Nat × List Char
  | [] => ([], column, [])
  | c :: cs =>
    if c = ' ' then
      if column < indent then indentedLines indent (column + 1) cs else ([], column, c :: cs)
    else
      match lineEnd? [c] with
      | some (lineEnd, _) =>
        let (more, column, rest) := indentedLines indent 0 cs
        (lineEnd :: more, column, rest)
      | none => ([], column, c :: cs)

/-- The text of a block, the line end behind it, the empty lines after that and what follows. -/
structure BlockLines where
  text : List Char
  lineEnd : List Char
  blanks : List Char
  rest : List Char

/-- Between two lines of a folded block that start with a word, a single line end is a blank and of
more the first is left out. -/
def blockJoint (fold : Bool) (lineEnd : List Char) (line rest blanks : List Char) : List Char :=
  if fold ∧ lineEnd = ['\n'] ∧ !nextIs isSpaceOrTab line ∧ !nextIs isSpaceOrTab rest then
    if blanks = [] then [' '] else []
  else lineEnd

def blockLines (fold : Bool) (indent : Nat) (blanks cs : List Char) : BlockLines :=
  let line := cs.takeWhile (!isBreak ·)
  let after := cs.dropWhile (!isBreak ·)
  let (lineEnd, below) := match lineEnd? after with
    | some (c, below) => ([c], below)
    | none => ([], after)
  let (next, column, rest) := indentedLines indent 0 below
  if _more : column = indent ∧ rest ≠ [] ∧ rest.length < cs.length then
    let others := blockLines fold indent next rest
    { others with text := blanks ++ line ++ blockJoint fold lineEnd line rest next ++ others.text }
  else ⟨blanks ++ line, lineEnd, next, rest⟩
termination_by cs.length
decreasing_by exact _more.2.2

def chomp (chomping : Chomping) (lines : BlockLines) : List Char :=
  match chomping with
  | .strip => lines.text
  | .clip => lines.text ++ lines.lineEnd
  | .keep => lines.text ++ lines.lineEnd ++ lines.blanks

/-- Reads a block scalar behind its mark; `outer` is the indentation of what it belongs to. -/
def blockText (fold : Bool) (outer : Int) (cs : List Char) :
    Except Fault (List Char × List Char) := do
  let (chomping, increment, cs) ← blockHeader cs
  if !spaceNext cs then throw .malformed
  let cs ← restOfLine cs
  let least := (max 1 (outer + 1)).toNat
  let (blanks, indent, column, rest) := match increment with
    | some n =>
      let indent := least + n - 1
      let (blanks, column, rest) := indentedLines indent 0 cs
      (blanks, indent, column, rest)
    | none =>
      let (blanks, deepest, column, rest) := leadingLines 0 0 cs
      (blanks, max least deepest, column, rest)
  let lines : BlockLines :=
    if column = indent ∧ rest ≠ [] then blockLines fold indent blanks rest
    else ⟨[], [], blanks, rest⟩
  return (chomp chomping lines, lines.rest)

end ReviewContext.Yaml
