/-! The characters that matter for the layout of a YAML text. The end of the text counts as a
gap. -/
namespace ReviewContext.Yaml

def isBreak (c : Char) : Bool :=
  c == '\n' || c == '\r' || c == '\u0085' || c == '\u2028' || c == '\u2029'

def isSpaceOrTab (c : Char) : Bool := c == ' ' || c == '\t'

def isGap (c : Char) : Bool := isSpaceOrTab c || isBreak c

def isLetterOrDigit (c : Char) : Bool := c.isAlphanum || c == '-' || c == '_'

def isHexDigit (c : Char) : Bool := c.isDigit || ('a' ≤ c && c ≤ 'f') || ('A' ≤ c && c ≤ 'F')

def hexValue (c : Char) : Nat :=
  if c.isDigit then c.toNat - 48 else c.toLower.toNat - 87

def isAllowed (c : Char) : Bool :=
  c == '\t' || c == '\n' || c == '\r' || (' ' ≤ c && c ≤ '~') || c == '\u0085'
    || (0xA0 ≤ c.toNat && c.toNat ≤ 0xFFFD) || 0x10000 ≤ c.toNat

def isOneOf (set : String) (c : Char) : Bool := set.toList.contains c

def nextIs (test : Char → Bool) : List Char → Bool
  | [] => false
  | c :: _ => test c

def gapNext (cs : List Char) : Bool := cs.isEmpty || nextIs isGap cs

def breakOrEndNext (cs : List Char) : Bool := cs.isEmpty || nextIs isBreak cs

def spaceNext (cs : List Char) : Bool := breakOrEndNext cs || nextIs (· == ' ') cs

/-- Takes a line end; the separators of lines and paragraphs stay what they are. -/
def lineEnd? : List Char → Option (Char × List Char)
  | [] => none
  | c :: cs =>
    if c = '\n' ∨ c = '\r' ∨ c = '\u0085' then some ('\n', cs)
    else if isBreak c then some (c, cs)
    else none

/-- Three hyphens or dots by themselves; at the start of a line they set documents apart. -/
def isDocumentMark (mark : Char) : List Char → Bool
  | a :: b :: c :: cs => a == mark && b == mark && c == mark && gapNext cs
  | _ => false

def opensOrEndsDocument (cs : List Char) : Bool := isDocumentMark '-' cs || isDocumentMark '.' cs

/-- What a run of line ends leaves of itself between two words: a single one is a blank. -/
def folded (first : Char) (others : List Char) : List Char :=
  if first ≠ '\n' then first :: others else if others = [] then [' '] else others

end ReviewContext.Yaml
