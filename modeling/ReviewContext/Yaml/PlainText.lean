import ReviewContext.Yaml.Chars

/-! Plain scalars: words without quotes, over several lines if they are indented. -/
namespace ReviewContext.Yaml

def plainWord (inFlow : Bool) : List Char → List Char × List Char
  | [] => ([], [])
  | c :: cs =>
    if isGap c
        || (c == ':' && (gapNext cs || (inFlow && nextIs (isOneOf ",[]\x7b\x7d") cs)))
        || (inFlow && isOneOf ",?[]\x7b\x7d" c) then ([], c :: cs)
    else (c :: (plainWord inFlow cs).1, (plainWord inFlow cs).2)

def skipLines (column : Nat) : List Char → List Char × Nat × List Char
  | [] => ([], column, [])
  | c :: cs =>
    if c = ' ' then skipLines (column + 1) cs
    else
      match lineEnd? [c] with
      | some (lineEnd, _) =>
        let (more, column, rest) := skipLines 0 cs
        (lineEnd :: more, column, rest)
      | none => ([], column, c :: cs)

/-- What stands between two words of a plain scalar, if the next word may belong to it. -/
structure PlainGap where
  /-- None if nothing joins the words. -/
  joint : Option (List Char)
  /-- The column after a line end, if there was one. -/
  newColumn : Option Nat
  rest : List Char

def plainGap (cs : List Char) : PlainGap :=
  let spaces := cs.takeWhile (· == ' ')
  let after := cs.dropWhile (· == ' ')
  match lineEnd? after with
  | some (first, below) =>
    let (others, column, rest) := skipLines 0 below
    let joint := if column = 0 && opensOrEndsDocument rest then none else some (folded first others)
    ⟨joint, some column, rest⟩
  | none => ⟨if spaces = [] then none else some spaces, none, after⟩

structure PlainText where
  text : List Char
  rest : List Char
  afterLineEnd : Bool

/-- Reads words as long as each joins the one before it; below `indent` a line belongs to something
else. -/
def plainText (inFlow : Bool) (indent : Int) (joint cs : List Char)
    (afterLineEnd : Bool) : PlainText :=
  let (word, after) := plainWord inFlow cs
  if word = [] || nextIs (· == '#') cs then ⟨[], cs, afterLineEnd⟩
  else
    let gap := plainGap after
    let outdented := !inFlow && gap.newColumn.any fun column => (column : Int) < indent
    let stop : PlainText := ⟨[], gap.rest, gap.newColumn.isSome⟩
    let more :=
      match gap.joint with
      | none => stop
      | some next =>
        if outdented || nextIs (· == '#') gap.rest then stop
        else if _shorter : gap.rest.length < cs.length then
          plainText inFlow indent next gap.rest gap.newColumn.isSome
        else stop
    ⟨joint ++ word ++ more.text, more.rest, more.afterLineEnd⟩
termination_by cs.length

end ReviewContext.Yaml
