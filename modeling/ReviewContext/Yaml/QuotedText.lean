import ReviewContext.Yaml.Chars
import ReviewContext.Yaml.Fault

/-! Quoted scalars: in single quotes only the quote is doubled, in double quotes a backslash starts
an escape. -/
namespace ReviewContext.Yaml

def escapes : List (Char × Char) :=
  [('0', '\x00'), ('a', '\x07'), ('b', '\x08'), ('t', '\t'), ('\t', '\t'), ('n', '\n'),
    ('v', '\x0b'),
    ('f', '\x0c'), ('r', '\r'), ('e', '\x1b'), (' ', ' '), ('"', '"'), ('\\', '\\'), ('/', '/'),
    ('N', '\u0085'), ('_', '\u00a0'), ('L', '\u2028'), ('P', '\u2029')]

def escapeWidth? : Char → Option Nat
  | 'x' => some 2
  | 'u' => some 4
  | 'U' => some 8
  | _ => none

def hexNumber (cs : List Char) : Nat := cs.foldl (fun n c => 16 * n + hexValue c) 0

/-- The line ends below a first one, with the blanks around them; a document cannot end in a quoted
scalar. -/
def blankLines (cs : List Char) : Except Fault (List Char × List Char) :=
  if opensOrEndsDocument cs then .error .malformed
  else
    let rest := cs.dropWhile isSpaceOrTab
    match lineEnd? rest with
    | none => .ok ([], rest)
    | some (lineEnd, below) =>
      if _shorter : below.length < cs.length then
        (blankLines below).map fun r => (lineEnd :: r.1, r.2)
      else .error .malformed
termination_by cs.length

def codePoint (code : Nat) : Except Fault Text.Piece :=
  if code.isValidChar then .ok (.char (Char.ofNat code))
  else if Text.isHighHalf code || Text.isLowHalf code then .ok (.half code)
  else .error (if code < Nat.pow 2 31 then .noCharacter else .noCodePoint)

def ofChars (read : List Char × List Char) : Text.Pieces × List Char := (.ofChars read.1, read.2)

def escaped : List Char → Except Fault (Text.Pieces × List Char)
  | [] => .error .malformed
  | c :: cs =>
    match escapes.lookup c, escapeWidth? c with
    | some char, _ => .ok ([.char char], cs)
    | none, some width =>
      let digits := cs.take width
      if digits.length = width ∧ digits.all isHexDigit then
        (codePoint (hexNumber digits)).map fun piece => ([piece], cs.drop width)
      else .error .malformed
    | none, none =>
      match lineEnd? (c :: cs) with
      | some (_, below) => (blankLines below).map ofChars
      | none => .error .malformed

/-- One piece of a quoted scalar: a character, an escape, or the gap between two words. -/
def quotedPiece (quote : Char) : List Char → Except Fault (Text.Pieces × List Char)
  | [] => .error .malformed
  | c :: cs =>
    if quote = '"' ∧ c = '\\' then escaped cs
    else if c = '\'' ∧ quote = c then .ok ([.char '\''], cs.drop 1)
    else if isGap c then
      let gap := (c :: cs).takeWhile isSpaceOrTab
      let after := (c :: cs).dropWhile isSpaceOrTab
      match lineEnd? after with
      | some (first, below) => (blankLines below).map fun r => ofChars (folded first r.1, r.2)
      | none => if after = [] then .error .malformed else .ok (ofChars (gap, after))
    else .ok ([.char c], cs)

def closes (quote : Char) : List Char → Bool
  | c :: cs => c == quote && !(quote == '\'' && nextIs (· == '\'') cs)
  | [] => false

def quotedText (quote : Char) (cs : List Char) : Except Fault (Text.Pieces × List Char) :=
  if closes quote cs then .ok ([], cs.drop 1)
  else
    match quotedPiece quote cs with
    | .error fault => .error fault
    | .ok (piece, rest) =>
      if _shorter : rest.length < cs.length then
        (quotedText quote rest).map fun r => (piece ++ r.1, r.2)
      else .error .malformed
termination_by cs.length

end ReviewContext.Yaml
