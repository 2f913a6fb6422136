import ReviewContext.Text.Utf8
import ReviewContext.Yaml.QuotedText
import ReviewContext.Yaml.Token

/-! Anchors, aliases, tags and directives. -/
namespace ReviewContext.Yaml

def anchorName (cs : List Char) : Except Fault (String × List Char) :=
  let name := cs.takeWhile isLetterOrDigit
  let rest := cs.dropWhile isLetterOrDigit
  if name = [] then .error .malformed
  else if gapNext rest || nextIs (isOneOf "?:,]\x7d%@`") rest then .ok (String.ofList name, rest)
  else .error .malformed

def isTagChar (c : Char) : Bool := c.isAlphanum || isOneOf "-;/?:@&=+$,_.!~*'()[]" c

def percentBytes : List Char → Except Fault (List UInt8 × List Char)
  | '%' :: a :: b :: cs =>
    if isHexDigit a && isHexDigit b then
      (percentBytes cs).map fun r => (UInt8.ofNat (hexNumber [a, b]) :: r.1, r.2)
    else .error .malformed
  | '%' :: _ => .error .malformed
  | cs => .ok ([], cs)

/-- Reads the characters of a tag; escaped ones must be a text in UTF-8. -/
def tagChars : List Char → Except Fault (List Char × List Char)
  | [] => .ok ([], [])
  | c :: rest =>
    if c = '%' then
      match percentBytes (c :: rest) with
      | .error fault => .error fault
      | .ok (bytes, after) =>
        let text := Text.Utf8.decode bytes
        if Text.Utf8.encode text ≠ bytes then .error .malformed
        else if _shorter : after.length < (c :: rest).length then
          (tagChars after).map fun r => (text.toList ++ r.1, r.2)
        else .error .malformed
    else if isTagChar c then (tagChars rest).map fun r => (c :: r.1, r.2)
    else .ok ([], c :: rest)
termination_by cs => cs.length
decreasing_by
  · exact _shorter
  · exact Nat.lt_succ_self _

def tagSuffix (cs : List Char) : Except Fault (String × List Char) := do
  let (text, rest) ← tagChars cs
  if rest.length < cs.length then return (String.ofList text, rest) else throw .malformed

def tagHandle : List Char → Except Fault (String × List Char)
  | '!' :: cs =>
    if nextIs (· == ' ') cs then .ok ("!", cs)
    else
      let name := cs.takeWhile isLetterOrDigit
      match cs.dropWhile isLetterOrDigit with
      | '!' :: rest => .ok (String.ofList ('!' :: name ++ ['!']), rest)
      | _ => .error .malformed
  | _ => .error .malformed

def tag (cs : List Char) : Except Fault (Tag × List Char) := do
  let (found, rest) ← match cs with
    | '!' :: '<' :: inner => do
      let (suffix, rest) ← tagSuffix inner
      match rest with
      | '>' :: rest => pure ((⟨none, suffix⟩ : Tag), rest)
      | _ => throw .malformed
    | _ =>
      let behind := cs.drop 1
      if gapNext behind then pure (⟨none, "!"⟩, behind)
      else if (behind.takeWhile fun c => !(c == ' ' || isBreak c)).contains '!' then do
        let (handle, rest) ← tagHandle cs
        let (suffix, rest) ← tagSuffix rest
        pure (⟨some handle, suffix⟩, rest)
      else do
        let (suffix, rest) ← tagSuffix behind
        pure (⟨some "!", suffix⟩, rest)
  if spaceNext rest then return (found, rest) else throw .malformed

def versionNumber (cs : List Char) : Except Fault (Nat × List Char) :=
  let digits := cs.takeWhile Char.isDigit
  let rest := cs.dropWhile Char.isDigit
  if digits = [] || nextIs (!isAllowed ·) rest then .error .malformed
  else do
    let number ← (Text.boundedNumber (digits.map hexValue)).mapError .tooLong
    return (number, rest)

def skipSpaces (cs : List Char) : List Char := cs.dropWhile (· == ' ')

def versionDirective (cs : List Char) : Except Fault (Directive × List Char) := do
  let (major, rest) ← versionNumber (skipSpaces cs)
  match rest with
  | '.' :: rest =>
    let (_, rest) ← versionNumber rest
    if spaceNext rest then return (.version major, rest) else throw .malformed
  | _ => throw .malformed

def tagDirective (cs : List Char) : Except Fault (Directive × List Char) := do
  let (handle, rest) ← tagHandle (skipSpaces cs)
  if !nextIs (· == ' ') rest then throw .malformed
  let (lead, rest) ← tagSuffix (skipSpaces rest)
  if spaceNext rest then return (.tag handle lead, rest) else throw .malformed

def directive (cs : List Char) : Except Fault (Directive × List Char) := do
  let name := String.ofList (cs.takeWhile isLetterOrDigit)
  let rest := cs.dropWhile isLetterOrDigit
  if name = "" || !spaceNext rest then throw .malformed
  if name = "YAML" then versionDirective rest
  else if name = "TAG" then tagDirective rest
  else return (.other, rest.dropWhile (!isBreak ·))

end ReviewContext.Yaml
