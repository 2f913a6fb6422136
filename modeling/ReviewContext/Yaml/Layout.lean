import ReviewContext.Yaml.BlockText
import ReviewContext.Yaml.Labels
import ReviewContext.Yaml.PlainText
import ReviewContext.Yaml.QuotedText

/-! The tokens of a text. Columns open and close blocks, and what stands before a colon is known as
a key only when the colon is met, so that its mark is put in front of it then. -/
namespace ReviewContext.Yaml

structure Place where
  index : Nat := 0
  line : Nat := 0
  column : Nat := 0

def Place.next (place : Place) (c : Char) : Place :=
  if isBreak c then ⟨place.index + 1, place.line + 1, 0⟩
  else if c = '\uFEFF' then { place with index := place.index + 1 }
  else ⟨place.index + 1, place.line, place.column + 1⟩

/-- Something that a colon behind it makes a key; at the column of its block it must be one. -/
structure PossibleKey where
  position : Nat
  place : Place
  required : Bool

/-- A key ends in the line in which it starts, after at most 1024 characters. -/
def PossibleKey.isStale (key : PossibleKey) (place : Place) : Bool :=
  key.place.line != place.line || key.place.index + 1024 < place.index

/-- How far a text is read: the columns of the open blocks, and a possible key for each open bracket
and for the blocks around them, innermost first. -/
structure Layout where
  rest : List Char
  /-- How many characters are left. -/
  left : Nat := rest.length
  place : Place := {}
  tokens : Array Token := #[]
  columns : List Nat := []
  key : Option PossibleKey := none
  outerKeys : List (Option PossibleKey) := []
  keyAllowed : Bool := true

def skipToToken (inComment : Bool) : List Char → List Char × Bool
  | [] => ([], false)
  | c :: cs =>
    if isBreak c then ((skipToToken false cs).1, true)
    else if inComment then skipToToken true cs
    else if c = ' ' then skipToToken false cs
    else if c = '#' then skipToToken true cs
    else (c :: cs, false)

namespace Layout

def inFlow (s : Layout) : Bool := !s.outerKeys.isEmpty

def indent (s : Layout) : Int := (s.columns.head?.map Int.ofNat).getD (-1)

def emit (s : Layout) (token : Token) : Layout := { s with tokens := s.tokens.push token }

def skip (s : Layout) (n : Nat) : Layout :=
  { s with rest := s.rest.drop n, left := s.left - n,
           place := (s.rest.take n).foldl Place.next s.place }

def moveTo (s : Layout) (rest : List Char) : Layout := s.skip (s.left - rest.length)

def dropKey (s : Layout) : Except Fault Layout :=
  if s.key.any PossibleKey.required then .error .malformed else .ok { s with key := none }

def dropStaleKeys (s : Layout) : Except Fault Layout :=
  let stale := fun key : PossibleKey => key.isStale s.place
  let keep := fun key : Option PossibleKey => key.filter fun k => !stale k
  if (s.key :: s.outerKeys).any fun key => key.any fun k => k.required && stale k then
    .error .malformed
  else .ok { s with key := keep s.key, outerKeys := s.outerKeys.map keep }

def saveKey (s : Layout) : Except Fault Layout := do
  if !s.keyAllowed then return s
  let s ← s.dropKey
  let required := !s.inFlow && s.indent == s.place.column
  return { s with key := some ⟨s.tokens.size, s.place, required⟩ }

/-- Closes the blocks that are deeper than a column; brackets keep them open. -/
def closeBlocks (s : Layout) (column : Int) : Layout :=
  if s.inFlow then s
  else
    let isDeeper := fun c : Nat => decide (column < (c : Int))
    { s with columns := s.columns.dropWhile isDeeper
             tokens := s.tokens ++ Array.replicate (s.columns.takeWhile isDeeper).length .blockEnd }

def openBlock (s : Layout) (block : Token) (column position : Nat) : Layout :=
  if s.indent < column then
    { s with columns := column :: s.columns, tokens := s.tokens.insertIdxIfInBounds position block }
  else s

def enterBlock (s : Layout) (block : Token) : Except Fault Layout :=
  if s.inFlow then .ok s
  else if s.keyAllowed then .ok (s.openBlock block s.place.column s.tokens.size)
  else .error .malformed

def markDocument (s : Layout) (token : Token) : Except Fault Layout := do
  let s ← (s.closeBlocks (-1)).dropKey
  return ({ s with keyAllowed := false }.emit token).skip 3

def readDirective (s : Layout) : Except Fault Layout := do
  let s ← (s.closeBlocks (-1)).dropKey
  let (directive, rest) ← directive (s.rest.drop 1)
  return ({ s with keyAllowed := false }.emit (.directive directive)).moveTo (← restOfLine rest)

def openBracket (s : Layout) (token : Token) : Except Fault Layout := do
  let s ← s.saveKey
  return ({ s with key := none, outerKeys := s.key :: s.outerKeys, keyAllowed := true }.emit
    token).skip 1

def closeBracket (s : Layout) (token : Token) : Except Fault Layout := do
  let s ← s.dropKey
  match s.outerKeys with
  | [] => throw .malformed
  | key :: outerKeys => return ({ s with key, outerKeys, keyAllowed := false }.emit token).skip 1

def readComma (s : Layout) : Except Fault Layout := do
  let s ← s.dropKey
  return ({ s with keyAllowed := true }.emit .comma).skip 1

def readEntry (s : Layout) : Except Fault Layout := do
  let s ← (← s.enterBlock .blockSequence).dropKey
  return ({ s with keyAllowed := true }.emit .entry).skip 1

def readKeyMark (s : Layout) : Except Fault Layout := do
  let s ← (← s.enterBlock .blockMapping).dropKey
  return ({ s with keyAllowed := !s.inFlow }.emit .key).skip 1

/-- A colon behind a possible key makes it one. -/
def readColon (s : Layout) : Except Fault Layout := do
  match s.key with
  | some key =>
    let tokens := s.tokens.insertIdxIfInBounds key.position .key
    let s := { s with key := none, keyAllowed := false, tokens }
    let s := if s.inFlow then s else s.openBlock .blockMapping key.place.column key.position
    return (s.emit .value).skip 1
  | none =>
    let s ← s.enterBlock .blockMapping
    return ({ s with keyAllowed := !s.inFlow }.emit .value).skip 1

def readKeyLike (s : Layout) (read : Except Fault (Token × List Char)) : Except Fault Layout := do
  let s ← s.saveKey
  let (token, rest) ← read
  return ({ s with keyAllowed := false }.emit token).moveTo rest

def readQuoted (s : Layout) (quote : Char) : Except Fault Layout :=
  s.readKeyLike ((quotedText quote (s.rest.drop 1)).map fun r => (.scalar false r.1, r.2))

def readBlockText (s : Layout) (fold : Bool) : Except Fault Layout := do
  let s ← s.dropKey
  let (text, rest) ← blockText fold s.indent (s.rest.drop 1)
  return ({ s with keyAllowed := true }.emit (.scalar false (.ofChars text))).moveTo rest

def readPlain (s : Layout) : Except Fault Layout := do
  let s ← s.saveKey
  let found := plainText s.inFlow (s.indent + 1) [] s.rest false
  let s := { s with keyAllowed := found.afterLineEnd }
  return (s.emit (.scalar true (.ofChars found.text))).moveTo found.rest

def startsPlain (inFlow : Bool) (c : Char) (cs : List Char) : Bool :=
  !(isGap c || isOneOf "-?:,[]\x7b\x7d#&*!|>'\"%@`" c)
    || (!gapNext cs && (c == '-' || (!inFlow && isOneOf "?:" c)))

def readToken (s : Layout) (c : Char) (cs : List Char) : Except Fault Layout :=
  let atMargin := s.place.column == 0
  let mark := s.inFlow || gapNext cs
  if c = '%' && atMargin then s.readDirective
  else if atMargin && isDocumentMark '-' (c :: cs) then s.markDocument .documentStart
  else if atMargin && isDocumentMark '.' (c :: cs) then s.markDocument .documentEnd
  else if c = '[' then s.openBracket .sequenceOpen
  else if c = '\x7b' then s.openBracket .mappingOpen
  else if c = ']' then s.closeBracket .sequenceClose
  else if c = '\x7d' then s.closeBracket .mappingClose
  else if c = ',' then s.readComma
  else if c = '-' && gapNext cs then s.readEntry
  else if c = '?' && mark then s.readKeyMark
  else if c = ':' && mark then s.readColon
  else if c = '*' then s.readKeyLike ((anchorName cs).map fun r => (.alias r.1, r.2))
  else if c = '&' then s.readKeyLike ((anchorName cs).map fun r => (.anchor r.1, r.2))
  else if c = '!' then s.readKeyLike ((tag (c :: cs)).map fun r => (.tag r.1, r.2))
  else if (c = '|' || c = '>') && !s.inFlow then s.readBlockText (c == '>')
  else if c = '\'' || c = '"' then s.readQuoted c
  else if startsPlain s.inFlow c cs then s.readPlain
  else .error .malformed

def advance (s : Layout) : Except Fault Layout := do
  let (rest, newLine) := skipToToken false s.rest
  let s := { s with keyAllowed := s.keyAllowed || (newLine && !s.inFlow) }.moveTo rest
  let s ← s.dropStaleKeys
  return s.closeBlocks s.place.column

/-- The tokens that nothing can be put in front of any more: those before the first possible key. -/
def settled (s : Layout) : List Token :=
  let positions := (s.key :: s.outerKeys).filterMap fun key =>
    (key.filter fun key => !key.isStale s.place).map PossibleKey.position
  s.tokens.toList.take (positions.foldl min s.tokens.size)

def readAll (s : Layout) : Tokens :=
  match s.advance with
  | .error fault => ⟨s.settled, some fault⟩
  | .ok next =>
    match next.rest with
    | [] =>
      match (next.closeBlocks (-1)).dropKey with
      | .error fault => ⟨s.settled, some fault⟩
      | .ok next => ⟨next.tokens.toList, none⟩
    | c :: cs =>
      match next.readToken c cs with
      | .error fault => ⟨s.settled, some fault⟩
      | .ok after =>
        if _shorter : after.left < s.left then after.readAll else ⟨s.settled, some .malformed⟩
termination_by s.left

end Layout

def tokensOf (cs : List Char) : Tokens :=
  let s : Layout := { rest := cs }
  (if nextIs (· == '\uFEFF') cs then s.skip 1 else s).readAll

end ReviewContext.Yaml
